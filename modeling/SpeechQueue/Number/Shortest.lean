import SpeechQueue.Number.Numeral

/-! # The shortest decimal of a binary value

Every finite magnitude is a whole number of units of `10 ^ -scale`, so its decimal places can be
compared exactly. The search goes from the coarsest decimal grid to the finest and stops at the
first one with a point that rounds to the magnitude; the grid of single units always has one. -/

namespace SpeechQueue

/-- Four times the magnitude and the bounds of the interval that rounds to it, and whether the
bounds belong to it. Four times, because the interval may end a quarter of a step below. -/
structure Neighbourhood where
  centre : Nat
  lower : Nat
  upper : Nat
  closed : Bool
deriving Repr

/-- What rounds to `quanta`, in quarters of `10 ^ -scale`. The step below a power of two is half the
step above it; the bounds themselves round to the even one of two neighbours. -/
def Format.neighbourhood (f : Format) (quanta : Nat) : Neighbourhood :=
  let place := f.place quanta
  let step := Nat.pow 2 place
  let narrow := 0 < place ∧ quanta = Nat.pow 2 (f.precision - 1) * step
  let unit := Nat.pow 5 f.scale
  { centre := 4 * quanta * unit
    lower := (4 * quanta - (if narrow then step else 2 * step)) * unit
    upper := (4 * quanta + 2 * step) * unit
    closed := quanta / step % 2 = 0 }

def Neighbourhood.contains (n : Neighbourhood) (point : Nat) : Bool :=
  if n.closed then n.lower ≤ point && point ≤ n.upper
  else n.lower < point && point < n.upper

/-- The point of the grid of `10 ^ k` units that rounds to the magnitude and is nearest to it; of
two equally near ones the upper. -/
def Neighbourhood.onGrid? (n : Neighbourhood) (k : Nat) : Option Nat :=
  let spacing := 4 * Nat.pow 10 k
  let below := n.centre / spacing
  let above := below + 1
  match n.contains (below * spacing), n.contains (above * spacing) with
  | true, true =>
    if n.centre - below * spacing < above * spacing - n.centre then some below else some above
  | true, false => some below
  | false, true => some above
  | false, false => none

/-- The first grid from `10 ^ k` units down that has a point, with that point. -/
def Neighbourhood.coarsest (n : Neighbourhood) : Nat → Nat × Nat
  | 0 => (n.centre / 4, 0)
  | k + 1 =>
    match n.onGrid? (k + 1) with
    | some point => (point, k + 1)
    | none => n.coarsest k

/-- The numeral with the fewest digits that rounds to `quanta`, the nearest of those. -/
def Format.shortest (f : Format) (negative : Bool) (quanta : Nat) : Numeral :=
  let n := f.neighbourhood quanta
  let (coefficient, grid) := n.coarsest (Nat.toDigits 10 (n.centre / 4)).length
  ⟨negative, coefficient, (grid : Int) - f.scale⟩

end SpeechQueue
