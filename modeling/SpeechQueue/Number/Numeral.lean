import SpeechQueue.Number.Binary

/-! # Decimal numerals

A numeral is a sign, a whole coefficient and a power of ten. Reading one as a binary value rounds
once. The two guards in `Binary.ofNumeral` answer for numerals whose power of ten is too large to
write out; there rounding could only give an infinity or a zero. -/

namespace SpeechQueue

/-- `coefficient · 10 ^ exponent`, with a sign. -/
structure Numeral where
  negative : Bool
  coefficient : Nat
  exponent : Int
deriving DecidableEq, Repr

def Binary.ofNumeral {f : Format} (n : Numeral) : Binary f :=
  if n.coefficient = 0 then .zero n.negative
  else match n.exponent with
    | .ofNat e =>
      if f.limit < e then .infinite n.negative
      else .ofRatio n.negative (n.coefficient * Nat.pow 10 e) 1
    | .negSucc e =>
      if Nat.log2 n.coefficient + f.scale + 1 ≤ e then .zero n.negative
      else .ofRatio n.negative n.coefficient (Nat.pow 10 (e + 1))

namespace Numeral

def digitsValue (digits : List Char) : Nat :=
  digits.foldl (fun value c => 10 * value + (c.toNat - '0'.toNat)) 0

/-- A sign, if there is one, and the rest; a numeral without a sign is not negative. -/
def splitSign : List Char → Bool × List Char
  | '+' :: rest => (false, rest)
  | '-' :: rest => (true, rest)
  | text => (false, text)

/-- The power of ten that the rest of a numeral names: nothing at all, or a mark, a sign and at
least one digit. -/
def readExponent? : List Char → Option Int
  | [] => some 0
  | mark :: rest =>
    if mark = 'e' ∨ mark = 'E' then
      let (negative, digits) := splitSign rest
      if digits ≠ [] ∧ digits.all Char.isDigit then
        some (if negative then -(digitsValue digits : Int) else digitsValue digits)
      else none
    else none

/-- Reads digits with at most one point and at least one digit in all, then a power of ten. -/
def readMagnitude? (negative : Bool) (text : List Char) : Option Numeral :=
  let whole := text.takeWhile Char.isDigit
  let rest := text.dropWhile Char.isDigit
  let (fraction, rest) := match rest with
    | '.' :: tail => (tail.takeWhile Char.isDigit, tail.dropWhile Char.isDigit)
    | _ => ([], rest)
  if whole = [] ∧ fraction = [] then none
  else (readExponent? rest).map fun exponent =>
    ⟨negative, digitsValue (whole ++ fraction), exponent - fraction.length⟩

end Numeral

/-- Reads a value: an optional sign, then a decimal magnitude or, in letters of any case, `inf`,
`infinity` or `nan`. Nothing may stand before or after. -/
def Binary.read? {f : Format} (text : List Char) : Option (Binary f) :=
  let (negative, rest) := Numeral.splitSign text
  let word := String.ofList (rest.map Char.toLower)
  if word = "nan" then some .nan
  else if word = "inf" ∨ word = "infinity" then some (.infinite negative)
  else (Numeral.readMagnitude? negative rest).map .ofNumeral

end SpeechQueue
