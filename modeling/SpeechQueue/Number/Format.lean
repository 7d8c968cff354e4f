/-! # Binary floating-point formats

A finite magnitude of a binary format is a whole number of quanta, the quantum being the format's
least positive magnitude. Measured in quanta, rounding is integer division to the nearest multiple
of a power of two, so nothing here needs a fraction. -/

namespace SpeechQueue

/-- A format keeps `precision` significant bits, its quantum is `2 ^ -scale`, and its finite
magnitudes stay below `2 ^ limit` quanta. -/
structure Format where
  precision : Nat
  scale : Nat
  limit : Nat
deriving DecidableEq, Repr

namespace Format

/-- The 32-bit interchange format. -/
def single : Format := ⟨24, 149, 277⟩

/-- The 64-bit interchange format. -/
def double : Format := ⟨53, 1074, 2098⟩

/-- The bits that `quanta` has beyond the precision: the exponent of the last place kept. -/
def place (f : Format) (quanta : Nat) : Nat :=
  Nat.log2 quanta + 1 - f.precision

/-- `quanta` is a finite magnitude of the format. -/
def Holds (f : Format) (quanta : Nat) : Prop :=
  quanta < Nat.pow 2 f.limit ∧ quanta % Nat.pow 2 (f.place quanta) = 0

instance (f : Format) (quanta : Nat) : Decidable (f.Holds quanta) :=
  inferInstanceAs (Decidable (_ ∧ _))

theorem holds_zero (f : Format) : f.Holds 0 :=
  ⟨Nat.two_pow_pos _, Nat.zero_mod _⟩

end Format

/-- The whole number nearest to `num / den`; of two equally near ones the even one. -/
def nearestEven (num den : Nat) : Nat :=
  let whole := num / den
  let rest := num % den
  if 2 * rest < den then whole
  else if den < 2 * rest then whole + 1
  else if whole % 2 = 0 then whole
  else whole + 1

/-- `num / den` quanta rounded to the precision of the format, with no bound on the size. -/
def Format.round (f : Format) (num den : Nat) : Nat :=
  let step := Nat.pow 2 (f.place (num / den))
  nearestEven num (den * step) * step

end SpeechQueue
