import SpeechQueue.Calendar.Date
import SpeechQueue.Number.Numeral
import SpeechQueue.Text.Blank

/-! # Instants in the form of RFC 3339

An instant is written as a date, a time of day and an offset from UTC. It is read with any offset,
and written in UTC. -/

namespace SpeechQueue

/-- A point of time in UTC: days since 1 January 1970, the second of the day, and the nanosecond. A
leap second is the nanoseconds from `10 ^ 9` on of the second before it. -/
structure Instant where
  day : Int
  second : Nat
  nanosecond : Nat
deriving DecidableEq, Repr

namespace Instant

def years : Int × Int := (-262143, 262142)

/-! ## Reading -/

/-- Reads one to `width` digits after blanks, and gives what follows them. -/
def readDigits? (width : Nat) (text : List Char) : Option (Nat × List Char) :=
  let digits := (text.take width).takeWhile Char.isDigit
  if digits = [] then none else some (Numeral.digitsValue digits, text.drop digits.length)

/-- Reads a number of at most two digits within a range, after blanks. -/
def readPart? (low high : Nat) (text : List Char) : Option (Nat × List Char) := do
  let (n, rest) ← readDigits? 2 (trimStart text)
  if low ≤ n ∧ n ≤ high then some (n, rest) else none

/-- Reads a year, after blanks: four digits at most, or any number of them after a sign. -/
def readYear? (text : List Char) : Option (Int × List Char) :=
  match trimStart text with
  | '-' :: rest => (readDigits? rest.length rest).map fun (n, rest) => (-(n : Int), rest)
  | '+' :: rest => (readDigits? rest.length rest).map fun (n, rest) => ((n : Int), rest)
  | rest => (readDigits? 4 rest).map fun (n, rest) => ((n : Int), rest)

/-- Passes over a character, after blanks. -/
def skip? (c : Char) (text : List Char) : Option (List Char) :=
  match trimStart text with
  | d :: rest => if d = c then some rest else none
  | [] => none

/-- Reads the fraction of a second in nanoseconds; digits beyond the ninth are passed over. -/
def readFraction? (text : List Char) : Option (Nat × List Char) :=
  match text with
  | '.' :: rest =>
    let digits := rest.takeWhile Char.isDigit
    if digits = [] then none
    else
      let kept := digits.take 9
      some (Numeral.digitsValue kept * Nat.pow 10 (9 - kept.length), rest.drop digits.length)
  | _ => some (0, text)

def twoDigits? : List Char → Option (Nat × List Char)
  | a :: b :: rest =>
    if a.isDigit ∧ b.isDigit then some (Numeral.digitsValue [a, b], rest) else none
  | _ => none

/-- Reads an offset from UTC in seconds: `Z`, `UTC`, or a sign, two digits of hours, and two of
minutes after a colon or blanks, or nothing. -/
def readOffset? (text : List Char) : Option (Int × List Char) :=
  if (text.take 3).map Char.toUpper = ['U', 'T', 'C'] then some (0, text.drop 3)
  else match text with
    | 'Z' :: rest => some (0, rest)
    | 'z' :: rest => some (0, rest)
    | sign :: rest =>
      if sign ∈ ['+', '-', '\u2212'] then do
        let (hours, rest) ← twoDigits? rest
        let (minutes, rest) ← twoDigits? (rest.dropWhile fun c => c = ':' || isBlank c)
        if minutes < 60 ∧ hours < 24 then
          let seconds : Int := hours * 3600 + minutes * 60
          some (if sign = '+' then seconds else -seconds, rest)
        else none
      else none
    | [] => none

def atOffset (days : Int) (second nanosecond : Nat) (offset : Int) : Instant :=
  let shifted := days * 86400 + second - offset
  ⟨shifted.fdiv 86400, (shifted.fmod 86400).toNat, nanosecond⟩

/-- Reads an instant. Between a date and a time stands `T`, in either case, or a space; blanks may
stand before every part. -/
def read? (text : String) : Option Instant := do
  let (year, rest) ← readYear? text.toList
  let (month, rest) ← readPart? 1 12 (← skip? '-' rest)
  let (day, rest) ← readPart? 1 31 (← skip? '-' rest)
  let rest ← match rest with
    | c :: rest => if c ∈ ['T', 't', ' '] then some rest else none
    | [] => none
  let (hour, rest) ← readPart? 0 23 rest
  let (minute, rest) ← readPart? 0 59 (← skip? ':' rest)
  let (second, rest) ← readPart? 0 60 (← skip? ':' rest)
  let (nanosecond, rest) ← readFraction? rest
  let (offset, rest) ← readOffset? (trimStart rest)
  if trimStart rest ≠ [] ∨ Calendar.daysInMonth year month < day then none
  else if year < years.1 ∨ years.2 < year then none
  else
    let leap := second = 60
    let ofDay := hour * 3600 + minute * 60 + if leap then 59 else second
    let instant := atOffset (Calendar.daysFromDate year month day) ofDay
      (nanosecond + if leap then 1000000000 else 0) offset
    let (writtenYear, _, _) := Calendar.dateFromDays instant.day
    if writtenYear < years.1 ∨ years.2 < writtenYear then none else some instant

/-! ## Writing -/

def padded (width n : Nat) : String :=
  let digits := Nat.toDigits 10 n
  String.ofList (List.replicate (width - digits.length) '0' ++ digits)

/-- A year in four digits; one that needs more, or is negative, has a sign. -/
def yearText (year : Int) : String :=
  if 0 ≤ year ∧ year ≤ 9999 then padded 4 year.toNat
  else (if year < 0 then "-" else "+") ++ padded 4 year.natAbs

/-- The fraction of a second in 0, 3, 6 or 9 digits, the fewest that are exact. -/
def fractionText (nanosecond : Nat) : String :=
  if nanosecond = 0 then ""
  else if nanosecond % 1000000 = 0 then "." ++ padded 3 (nanosecond / 1000000)
  else if nanosecond % 1000 = 0 then "." ++ padded 6 (nanosecond / 1000)
  else "." ++ padded 9 nanosecond

def text (t : Instant) : String :=
  let (year, month, day) := Calendar.dateFromDays t.day
  let leap := if t.nanosecond < 1000000000 then 0 else 1
  yearText year ++ "-" ++ padded 2 month ++ "-" ++ padded 2 day ++ "T"
    ++ padded 2 (t.second / 3600) ++ ":" ++ padded 2 (t.second / 60 % 60) ++ ":"
    ++ padded 2 (t.second % 60 + leap) ++ fractionText (t.nanosecond - leap * 1000000000) ++ "Z"

end Instant

end SpeechQueue
