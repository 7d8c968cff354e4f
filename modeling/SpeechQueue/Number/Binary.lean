import SpeechQueue.Number.Format

/-! # Binary floating-point values

A value of a format is a signed finite magnitude, a signed infinity, or not a number. Every
operation computes the exact rational result and rounds it once, to nearest with ties to even;
a result beyond the largest finite magnitude becomes an infinity. -/

namespace SpeechQueue

/-- A value of the format. Zero has two signs, which compare equal but are told apart in print. -/
inductive Binary (f : Format) where
  | nan
  | infinite (negative : Bool)
  | finite (negative : Bool) (quanta : Nat) (held : f.Holds quanta)
deriving DecidableEq

/-- The 32-bit values, in which rate, pitch and volume are measured. -/
abbrev Single := Binary .single

/-- The 64-bit values, in which durations are computed. -/
abbrev Double := Binary .double

namespace Binary

variable {f : Format}

/-- A signed magnitude that is a finite one of the format, or else an infinity. -/
def ofQuanta (negative : Bool) (quanta : Nat) : Binary f :=
  if held : f.Holds quanta then .finite negative quanta held else .infinite negative

/-- The value nearest to `num / den`. -/
def ofRatio (negative : Bool) (num den : Nat) : Binary f :=
  .ofQuanta negative (f.round (num * Nat.pow 2 f.scale) den)

def zero (negative : Bool) : Binary f :=
  .finite negative 0 f.holds_zero

def ofNat (n : Nat) : Binary f :=
  .ofRatio false n 1

/-- The value nearest to a whole number; there is no negative zero among them. -/
def ofInt : Int → Binary f
  | .ofNat n => .ofNat n
  | .negSucc n => .ofRatio true (n + 1) 1

instance : Inhabited (Binary f) := ⟨.zero false⟩

def isFinite : Binary f → Bool
  | .finite .. => true
  | _ => false

def isNumber : Binary f → Bool
  | .nan => false
  | _ => true

/-- The value of another format nearest to this one. -/
def convert {g : Format} : Binary f → Binary g
  | .nan => .nan
  | .infinite s => .infinite s
  | .finite s q _ => .ofRatio s q (Nat.pow 2 f.scale)

def neg : Binary f → Binary f
  | .nan => .nan
  | .infinite s => .infinite !s
  | .finite s q held => .finite (!s) q held

/-- The exact product, rounded once. -/
def mul : Binary f → Binary f → Binary f
  | .nan, _ => .nan
  | _, .nan => .nan
  | .infinite s, .infinite t => .infinite (s != t)
  | .infinite s, .finite t q _ => if q = 0 then .nan else .infinite (s != t)
  | .finite s q _, .infinite t => if q = 0 then .nan else .infinite (s != t)
  | .finite s q _, .finite t r _ => .ofQuanta (s != t) (f.round (q * r) (Nat.pow 2 f.scale))

/-- The exact quotient, rounded once; a nonzero value over zero is an infinity. -/
def div : Binary f → Binary f → Binary f
  | .nan, _ => .nan
  | _, .nan => .nan
  | .infinite _, .infinite _ => .nan
  | .infinite s, .finite t _ _ => .infinite (s != t)
  | .finite s _ _, .infinite t => .zero (s != t)
  | .finite s q _, .finite t r _ =>
    if r = 0 then if q = 0 then .nan else .infinite (s != t)
    else .ofQuanta (s != t) (f.round (q * Nat.pow 2 f.scale) r)

instance : Mul (Binary f) := ⟨mul⟩
instance : Div (Binary f) := ⟨div⟩

def signed (negative : Bool) (quanta : Nat) : Int :=
  if negative then -(quanta : Int) else quanta

/-- The order of the values; what is not a number is below nothing. -/
def lt : Binary f → Binary f → Bool
  | .nan, _ => false
  | _, .nan => false
  | .infinite s, .infinite t => s && !t
  | .infinite s, .finite .. => s
  | .finite .., .infinite t => !t
  | .finite s q _, .finite t r _ => signed s q < signed t r

/-- At most, in the same order: both zeros are equal, and what is not a number is at most
nothing. -/
def le : Binary f → Binary f → Bool
  | .nan, _ => false
  | _, .nan => false
  | .infinite s, .infinite t => s || !t
  | .infinite s, .finite .. => s
  | .finite .., .infinite t => !t
  | .finite s q _, .finite t r _ => signed s q ≤ signed t r

def max (x y : Binary f) : Binary f :=
  if lt x y then y else x

end Binary

end SpeechQueue
