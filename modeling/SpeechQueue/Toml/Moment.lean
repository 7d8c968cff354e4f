import SpeechQueue.Toml.Scalar

/-! # Dates and times in tables

A table whose first key is a reserved one stands for a date or a time, which the value of that key
gives as a text. What a text may give is a little more than what may stand for itself in a
document. -/

namespace SpeechQueue

namespace Toml

/-- The first key of a table that stands for a date or a time. -/
def momentKey : String := "$__toml_private_datetime"

def twoDigits (n : Nat) : List Char := [Nat.digitChar (n / 10), Nat.digitChar (n % 10)]

/-- Reads an offset from UTC of at most a day, if there is one. Its minutes may go on beyond an
hour, but are not written so. -/
def readLongOffset? (text : List Char) : Option (List Char × List Char) :=
  match text with
  | [] => some ([], [])
  | 'Z' :: rest => some (['Z'], rest)
  | 'z' :: rest => some (['Z'], rest)
  | sign :: rest =>
    if sign = '+' ∨ sign = '-' then do
      let (_, hours, rest) ← readFixed? 2 rest
      let (_, minutes, rest) ← readFixed? 2 (← skip? ':' rest)
      let total := 60 * hours + minutes
      if 24 * 60 < total then none
      else
        let sign := if total = 0 then '+' else sign
        return (sign :: twoDigits (total / 60) ++ ':' :: twoDigits (total % 60), rest)
    else none

/-- Reads a date or a time as a text may give it: a day may end with an hour of its own. -/
def readForm? (text : List Char) : Option (List Char × List Char) :=
  if text[2]? = some ':' then readTime? 24 text
  else do
    let (date, rest) ← readDate? text
    match rest with
    | [] => some (date, [])
    | divider :: rest =>
      if divider ∈ ['T', 't', ' '] then do
        let (time, rest) ← readTime? 24 rest
        let (offset, rest) ← readLongOffset? rest
        return (date ++ 'T' :: time ++ offset, rest)
      else none

def momentOf? (text : String) : Option String :=
  match readForm? text.toList with
  | some (form, []) => some (String.ofList form)
  | _ => none

/-- What the reserved key has as its value, if it is the first one. -/
def reserved? (entries : List (String × Toml)) : Option Toml :=
  (entries.head?.filter (·.1 = momentKey)).map (·.2)

mutual

/-- The value with dates and times in place of the tables that stand for them. The entries after
the reserved key are of no consequence. -/
def withMoments? : Toml → Option Toml
  | .array items => (itemsWithMoments? items).map .array
  | .table entries =>
    match reserved? entries with
    | some (.string text) => (momentOf? text).map .moment
    | some _ => none
    | none => (entriesWithMoments? entries).map .table
  | value => some value

def itemsWithMoments? : List Toml → Option (List Toml)
  | [] => some []
  | item :: rest => do return (← withMoments? item) :: (← itemsWithMoments? rest)

def entriesWithMoments? : List (String × Toml) → Option (List (String × Toml))
  | [] => some []
  | (key, value) :: rest => do
    return (key, ← withMoments? value) :: (← entriesWithMoments? rest)

end

end Toml

end SpeechQueue
