import SpeechQueue.Calendar.Date
import SpeechQueue.Number.Numeral
import SpeechQueue.Toml.Text
import SpeechQueue.Toml.Value

/-! # Numbers, dates and times in TOML

Each reader gives the value and what follows it. -/

namespace SpeechQueue

namespace Toml

/-! ## Numbers -/

/-- Reads digits between which single underscores may stand, and gives the digits. -/
def readDigits (isDigit : Char → Bool) : List Char → List Char × List Char
  | '_' :: c :: rest =>
    if isDigit c then
      let (cs, rest) := readDigits isDigit rest
      (c :: cs, rest)
    else ([], '_' :: c :: rest)
  | c :: rest =>
    if isDigit c then
      let (cs, rest) := readDigits isDigit rest
      (c :: cs, rest)
    else ([], c :: rest)
  | [] => ([], [])

/-- Reads digits of which the first is no underscore, and at least one. -/
def readRun? (isDigit : Char → Bool) (text : List Char) : Option (List Char × List Char) :=
  match text with
  | c :: _ => if isDigit c then some (readDigits isDigit text) else none
  | [] => none

def inRange (n : Int) : Bool := -(Nat.pow 2 63 : Int) ≤ n && n < (Nat.pow 2 63 : Int)

def readBased? (base : Nat) (text : List Char) : Option (Toml × List Char) := do
  let isDigit (c : Char) : Bool := (hexValue? c).any (· < base)
  let (digits, rest) ← readRun? isDigit text
  let n : Nat := digits.foldl (fun n c => base * n + (hexValue? c).getD 0) 0
  if inRange n then some (.integer n, rest) else none

/-- Reads the whole part of a decimal number: a zero, or digits that do not start with one. -/
def readWhole? (text : List Char) : Option (List Char × List Char) :=
  match text with
  | '0' :: rest => some (['0'], rest)
  | _ => readRun? Char.isDigit text

/-- Reads a power of ten with its sign, if its mark stands at the front. -/
def readPower? (text : List Char) : Option (Option Int × List Char) :=
  match text with
  | mark :: rest =>
    if mark = 'e' ∨ mark = 'E' then do
      let (negative, rest) := Numeral.splitSign rest
      let (digits, rest) ← readRun? Char.isDigit rest
      let e : Int := Numeral.digitsValue digits
      return (some (if negative then -e else e), rest)
    else some (none, text)
  | [] => some (none, text)

def finiteReal? (n : Numeral) : Option Toml :=
  let x : Double := .ofNumeral n
  if x = .infinite false then none else some (.decimal x)

def readDecimal? (negative : Bool) (text : List Char) : Option (Toml × List Char) := do
  let (whole, rest) ← readWhole? text
  let (fraction, rest) ← match rest with
    | '.' :: rest => (readRun? Char.isDigit rest).map fun (cs, rest) => (some cs, rest)
    | _ => some (none, rest)
  let (power, rest) ← readPower? rest
  match fraction, power with
  | none, none =>
    let n : Int := Numeral.digitsValue whole
    let n := if negative then -n else n
    if inRange n then some (.integer n, rest) else none
  | _, _ =>
    let digits := fraction.getD []
    let exponent := power.getD 0 - digits.length
    let value ← finiteReal? ⟨negative, Numeral.digitsValue (whole ++ digits), exponent⟩
    return (value, rest)

/-- Reads a number: a special value or a decimal number with or without a sign, or a whole number
in another base. -/
def readNumber? (text : List Char) : Option (Toml × List Char) :=
  match text with
  | '0' :: 'x' :: rest => readBased? 16 rest
  | '0' :: 'o' :: rest => readBased? 8 rest
  | '0' :: 'b' :: rest => readBased? 2 rest
  | _ =>
    let (negative, rest) := Numeral.splitSign text
    match rest with
    | 'i' :: 'n' :: 'f' :: rest => some (.decimal (.infinite negative), rest)
    | 'n' :: 'a' :: 'n' :: rest => some (.decimal .nan, rest)
    | _ => readDecimal? negative rest

/-! ## Dates and times -/

/-- Reads exactly `count` digits and gives them with their value. -/
def readFixed? (count : Nat) (text : List Char) : Option (List Char × Nat × List Char) :=
  let digits := text.take count
  if digits.length = count ∧ digits.all Char.isDigit then
    some (digits, Numeral.digitsValue digits, text.drop count)
  else none

def readPair? (low high : Nat) (text : List Char) : Option (List Char × Nat × List Char) := do
  let (digits, n, rest) ← readFixed? 2 text
  if low ≤ n ∧ n ≤ high then some (digits, n, rest) else none

def skip? (c : Char) : List Char → Option (List Char)
  | d :: rest => if d = c then some rest else none
  | [] => none

def readDate? (text : List Char) : Option (List Char × List Char) := do
  let (yearText, year, rest) ← readFixed? 4 text
  let (monthText, month, rest) ← readPair? 1 12 (← skip? '-' rest)
  let (dayText, day, rest) ← readPair? 1 31 (← skip? '-' rest)
  if day ≤ Calendar.daysInMonth year month then
    some (yearText ++ '-' :: monthText ++ '-' :: dayText, rest)
  else none

/-- Reads a fraction of a second, if there is one. Its written form has nine digits at most and no
zeros at its end. -/
def readFraction? (text : List Char) : Option (List Char × List Char) :=
  match text with
  | '.' :: rest =>
    let digits := rest.takeWhile Char.isDigit
    let kept := ((digits.take 9).reverse.dropWhile (· = '0')).reverse
    if digits = [] then none
    else some (if kept = [] then [] else '.' :: kept, rest.drop digits.length)
  | _ => some ([], text)

/-- Reads a time of day up to the given hour. -/
def readTime? (lastHour : Nat) (text : List Char) : Option (List Char × List Char) := do
  let (hour, _, rest) ← readPair? 0 lastHour text
  let (minute, _, rest) ← readPair? 0 59 (← skip? ':' rest)
  let (second, _, rest) ← readPair? 0 60 (← skip? ':' rest)
  let (fraction, rest) ← readFraction? rest
  return (hour ++ ':' :: minute ++ ':' :: second ++ fraction, rest)

def readOffset? (text : List Char) : Option (List Char × List Char) :=
  match text with
  | 'Z' :: rest => some (['Z'], rest)
  | 'z' :: rest => some (['Z'], rest)
  | sign :: rest =>
    if sign = '+' ∨ sign = '-' then do
      let (hours, h, rest) ← readPair? 0 23 rest
      let (minutes, m, rest) ← readPair? 0 59 (← skip? ':' rest)
      let sign := if h = 0 ∧ m = 0 then '+' else sign
      return (sign :: hours ++ ':' :: minutes, rest)
    else some ([], text)
  | [] => some ([], [])

/-- A colon stands after two digits, so that a time follows. -/
def startsTime (text : List Char) : Bool :=
  match text with
  | a :: b :: ':' :: _ => a.isDigit && b.isDigit
  | _ => false

/-- Reads a date, a time, or both with or without an offset. The date and the time are divided by a
space or the letter `T`, which is written as a capital. -/
def readMoment? (text : List Char) : Option (Toml × List Char) :=
  if startsTime text then
    (readTime? 23 text).map fun (time, rest) => (.moment (String.ofList time), rest)
  else do
    let (date, rest) ← readDate? text
    match rest with
    | divider :: after =>
      if divider ∈ ['T', 't', ' '] ∧ startsTime after then do
        let (time, rest) ← readTime? 23 after
        let (offset, rest) ← readOffset? rest
        return (.moment (String.ofList (date ++ 'T' :: time ++ offset)), rest)
      else some (.moment (String.ofList date), rest)
    | [] => some (.moment (String.ofList date), [])

def startsMoment (text : List Char) : Bool :=
  startsTime text || match text with
    | a :: b :: c :: d :: '-' :: _ => a.isDigit && b.isDigit && c.isDigit && d.isDigit
    | _ => false

/-- Reads a value that is not quoted and has no parts. -/
def readBare? (text : List Char) : Option (Toml × List Char) :=
  match text with
  | 't' :: 'r' :: 'u' :: 'e' :: rest => some (.boolean true, rest)
  | 'f' :: 'a' :: 'l' :: 's' :: 'e' :: rest => some (.boolean false, rest)
  | _ => if startsMoment text then readMoment? text else readNumber? text

end Toml

end SpeechQueue
