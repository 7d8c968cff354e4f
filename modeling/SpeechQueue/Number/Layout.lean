import SpeechQueue.Number.Shortest

/-! # Writing binary values

A value is written with the fewest digits that read back. A layout decides the rest: the decimal
exponents for which the digits are laid out around a point, and whether a whole number carries
`.0`. -/

namespace SpeechQueue

/-- Where the digits of a value go. Outside the range of decimal exponents, given by the exponent
of the leading digit, the digits are followed by a power of ten. -/
structure Layout where
  wholePoint : Bool
  range : Option (Int × Int)
deriving Repr

namespace Layout

/-- Positional always, and no point in a whole number. -/
def plain : Layout := ⟨false, none⟩

/-- A point always; positional from `0.0001` and below `10 ^ 16`. -/
def detailed : Layout := ⟨true, some (-4, 15)⟩

/-- A point always; positional from `0.00001` and below `10 ^ 16`. -/
def wide : Layout := ⟨true, some (-5, 15)⟩

/-- The digits with the point put `exponent` places from their end. -/
def positional (wholePoint : Bool) (digits : List Char) (exponent : Int) : List Char :=
  match exponent with
  | .ofNat e => digits ++ List.replicate e '0' ++ if wholePoint then ['.', '0'] else []
  | .negSucc e =>
    let places := e + 1
    if places < digits.length then
      digits.take (digits.length - places) ++ '.' :: digits.drop (digits.length - places)
    else '0' :: '.' :: List.replicate (places - digits.length) '0' ++ digits

/-- The digits with a point after the first, then the power of ten. -/
def scientific (digits : List Char) (leading : Int) : List Char :=
  let mantissa := match digits with
    | first :: second :: rest => first :: '.' :: second :: rest
    | short => short
  mantissa ++ 'e' :: (toString leading).toList

def write (layout : Layout) (n : Numeral) : List Char :=
  let digits := Nat.toDigits 10 n.coefficient
  let leading := n.exponent + (digits.length : Int) - 1
  let body := match layout.range with
    | some (low, high) =>
      if n.coefficient = 0 ∨ (low ≤ leading ∧ leading ≤ high) then
        positional layout.wholePoint digits n.exponent
      else scientific digits leading
    | none => positional layout.wholePoint digits n.exponent
  if n.negative then '-' :: body else body

end Layout

namespace Binary

variable {f : Format}

def write (layout : Layout) : Binary f → List Char
  | .nan => "NaN".toList
  | .infinite false => "inf".toList
  | .infinite true => "-inf".toList
  | .finite s 0 _ => layout.write ⟨s, 0, 0⟩
  | .finite s q _ => layout.write (f.shortest s q)

def text (x : Binary f) : String :=
  String.ofList (x.write .plain)

def detail (x : Binary f) : String :=
  String.ofList (x.write .detailed)

end Binary

end SpeechQueue
