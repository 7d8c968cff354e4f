import SpeechQueue.Number.Numeral

/-! # Numbers in JSON

A number without fraction and power of ten that fits 64 bits is a whole number. Any other is read as
a 64-bit value: as many leading digits as fit an unsigned 64-bit word, scaled by one power of ten,
each step rounded once. A number beyond the largest finite value cannot be read. -/

namespace SpeechQueue

structure JsonNumber where
  negative : Bool
  whole : List Char
  fraction : List Char
  /-- The sign and the digits of the power of ten, if one is written. -/
  exponent : Option (Bool × List Char)
deriving DecidableEq, Repr

namespace JsonNumber

/-- The least number that no unsigned 64-bit word holds. -/
def wordLimit : Nat := Nat.pow 2 64

inductive Reading where
  | whole (value : Int)
  | real (value : Double)

/-- The digits of the number as they are taken up: while the significand fits a word each digit is
appended to it, and the first one that does not fit ends this for good. -/
def takeDigits : Nat → List Char → Nat × List Char
  | significand, [] => (significand, [])
  | significand, c :: rest =>
    let next := 10 * significand + (c.toNat - '0'.toNat)
    if next < wordLimit then takeDigits next rest else (significand, c :: rest)

/-- `10 ^ k` for `k` up to 308. -/
def power (k : Nat) : Double := .ofNat (Nat.pow 10 k)

/-- A 64-bit value times a power of ten, which is written out in at most `steps` factors. -/
def scale (f : Double) (exponent : Int) : Nat → Option Double
  | 0 => some f
  | steps + 1 =>
    if exponent.natAbs ≤ 308 then
      if 0 ≤ exponent then
        let product := f * power exponent.natAbs
        if product.isFinite then some product else none
      else some (f / power exponent.natAbs)
    else if f = .zero false then some f
    else if 0 ≤ exponent then none
    else scale (f / power 308) (exponent + 308) steps

def exponentLimit : Nat := Nat.pow 2 31 - 1

/-- The 64-bit value of a number, if it is finite. -/
def real? (n : JsonNumber) : Option Double :=
  let (significand, dropped) := takeDigits 0 n.whole
  let (significand, unread) := takeDigits significand n.fraction
  let start := (dropped.length : Int) - (n.fraction.length - unread.length : Nat)
  let magnitude := match n.exponent with
    | none => scale (.ofNat significand) start 4
    | some (negative, digits) =>
      let e := Numeral.digitsValue digits
      if exponentLimit < e then
        if significand ≠ 0 ∧ negative = false then none else some (.zero false)
      else
        scale (.ofNat significand) (if negative then start - (e : Int) else start + (e : Int)) 4
  magnitude.map fun x => if n.negative then x.neg else x

def reading? (n : JsonNumber) : Option Reading :=
  let value := Numeral.digitsValue n.whole
  if n.fraction = [] ∧ n.exponent = none then
    if n.negative = false ∧ value < wordLimit then some (.whole value)
    else if n.negative ∧ 0 < value ∧ value ≤ wordLimit / 2 then some (.whole (-(value : Int)))
    else n.real?.map .real
  else n.real?.map .real

end JsonNumber

end SpeechQueue
