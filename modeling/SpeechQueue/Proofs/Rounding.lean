import Mathlib.Algebra.Ring.Nat
import SpeechQueue.Number.Shortest

/-! # What rounds to a value

A quotient of whole numbers rounds to a value of a format when it lies close enough to it. How close
that is depends on the side: below a power of two the grid is twice as fine. Main statement:
`round_eq_of_contains`, whatever lies in the neighbourhood of a value rounds to it. -/

namespace SpeechQueue

/-- A quotient that is off a whole number by at most a half rounds to it, and one that is off by just
a half if the number is even. -/
theorem nearestEven_eq {num den value : Nat} (positive : 0 < den)
    (low : 2 * (value * den) ≤ 2 * num + den) (high : 2 * num ≤ 2 * (value * den) + den)
    (tie : 2 * num + den = 2 * (value * den) ∨ 2 * num = 2 * (value * den) + den → value % 2 = 0) :
    nearestEven num den = value := by
  have parts := Nat.div_add_mod' num den
  have rest := Nat.mod_lt num positive
  -- The whole part is the value or one less.
  have upper : value < num / den + 2 := by
    refine Nat.lt_of_mul_lt_mul_right (a := den) ?_
    rw [Nat.add_mul]
    omega
  have lower : num / den ≤ value := by
    refine Nat.le_of_lt_succ (Nat.lt_of_mul_lt_mul_right (a := den) ?_)
    rw [Nat.succ_mul]
    omega
  unfold nearestEven
  dsimp only
  rcases Nat.lt_or_eq_of_le lower with less | same
  · have next : value = num / den + 1 := by omega
    rw [next, Nat.add_mul, Nat.one_mul] at low high tie
    rw [next]
    repeat' split
    all_goals omega
  · rw [← same] at low high tie ⊢
    repeat' split
    all_goals omega

namespace Format

variable {f : Format} {quanta num den : Nat}

/-- A quotient that is off a multiple of its step by at most half a step rounds to it. -/
theorem round_eq {place multiple : Nat} (positive : 0 < den)
    (grid : f.place (num / den) = place) (whole : quanta = multiple * 2 ^ place)
    (low : 2 * (quanta * den) ≤ 2 * num + 2 ^ place * den)
    (high : 2 * num ≤ 2 * (quanta * den) + 2 ^ place * den)
    (tie : 2 * num + 2 ^ place * den = 2 * (quanta * den) ∨
      2 * num = 2 * (quanta * den) + 2 ^ place * den → multiple % 2 = 0) :
    f.round num den = quanta := by
  have same : multiple * (2 ^ place * den) = quanta * den := by rw [whole, Nat.mul_assoc]
  have stepPositive : 0 < 2 ^ place * den := Nat.mul_pos (Nat.two_pow_pos place) positive
  have nearest : nearestEven num (2 ^ place * den) = multiple := by
    refine nearestEven_eq stepPositive ?_ ?_ ?_ <;> rw [same] <;> assumption
  rw [Format.round, grid, Nat.pow_eq, Nat.mul_comm den, nearest, whole]

/-- Up to the precision every whole number of quanta is kept. -/
theorem place_of_lt (kept : 0 < f.precision) (small : quanta < 2 ^ f.precision) :
    f.place quanta = 0 := by
  by_cases zero : quanta = 0
  · subst zero
    rw [place, Nat.log2_zero]
    omega
  · have bits := (Nat.log2_lt zero).mpr small
    rw [place]
    omega

/-- What lies between two powers of two is cut to the precision. -/
theorem place_of_between {exponent : Nat} (low : 2 ^ exponent ≤ quanta)
    (high : quanta < 2 ^ (exponent + 1)) : f.place quanta = exponent + 1 - f.precision := by
  have nonzero : quanta ≠ 0 := Nat.ne_of_gt (Nat.lt_of_lt_of_le (Nat.two_pow_pos exponent) low)
  rw [place, (Nat.log2_eq_iff nonzero).mpr ⟨low, high⟩]

/-- A magnitude of more bits than the precision is a multiple of a power of two, and the multiple has
just as many bits as the precision. -/
theorem Holds.multiple (held : f.Holds quanta) (kept : 0 < f.precision)
    (large : 2 ^ f.precision ≤ quanta) :
    ∃ place multiple, 0 < place ∧ f.place quanta = place ∧ quanta = multiple * 2 ^ place ∧
      2 ^ (f.precision - 1) ≤ multiple ∧ multiple < 2 ^ f.precision := by
  have nonzero : quanta ≠ 0 := Nat.ne_of_gt (Nat.lt_of_lt_of_le (Nat.two_pow_pos _) large)
  have bits : f.precision ≤ Nat.log2 quanta := (Nat.le_log2 nonzero).mpr large
  have divides : 2 ^ f.place quanta ∣ quanta := Nat.dvd_of_mod_eq_zero held.2
  obtain ⟨multiple, product⟩ := divides
  have place : f.place quanta = Nat.log2 quanta + 1 - f.precision := rfl
  have step := Nat.two_pow_pos (f.place quanta)
  refine ⟨f.place quanta, multiple, by omega, rfl, by rw [Nat.mul_comm, ← product], ?_, ?_⟩
  · refine Nat.le_of_mul_le_mul_left (c := 2 ^ f.place quanta) ?_ step
    rw [← product, ← Nat.pow_add, show f.place quanta + (f.precision - 1) = Nat.log2 quanta by omega]
    exact Nat.log2_self_le nonzero
  · refine Nat.lt_of_mul_lt_mul_left (a := 2 ^ f.place quanta) ?_
    rw [← product, ← Nat.pow_add, show f.place quanta + f.precision = Nat.log2 quanta + 1 by omega]
    exact Nat.lt_log2_self

/-- A quotient is close enough to a magnitude to round to it: at most half a step above it, at most
`reach` quarters of a quantum below it, and off by just that only if the multiple of the step is
even. -/
structure Near (f : Format) (quanta reach num den : Nat) : Prop where
  low : 4 * (quanta * den) ≤ 4 * num + reach * den
  high : 2 * num ≤ 2 * (quanta * den) + 2 ^ f.place quanta * den
  tie : 4 * num + reach * den = 4 * (quanta * den) ∨
    2 * num = 2 * (quanta * den) + 2 ^ f.place quanta * den → quanta / 2 ^ f.place quanta % 2 = 0

/-- How far below a magnitude what rounds to it can lie, in quarters of a quantum. -/
def reach (f : Format) (quanta : Nat) : Nat :=
  if 0 < f.place quanta ∧ quanta = 2 ^ (f.precision - 1) * 2 ^ f.place quanta then
    2 ^ f.place quanta
  else 2 * 2 ^ f.place quanta

/-- Where every whole number of quanta is a magnitude, the nearest one is the rounded one. -/
theorem Near.round_of_lt (near : f.Near quanta (f.reach quanta) num den) (kept : 0 < f.precision)
    (positive : 0 < den) (small : quanta < 2 ^ f.precision) : f.round num den = quanta := by
  have place := place_of_lt kept small
  obtain ⟨low, high, tie⟩ := near
  simp only [reach, place, Nat.lt_irrefl, false_and, ↓reduceIte, Nat.pow_zero, Nat.mul_one,
    Nat.one_mul, Nat.div_one] at low high tie
  have atMost : num / den < quanta + 1 := by
    rw [Nat.div_lt_iff_lt_mul positive, Nat.add_mul, Nat.one_mul]
    omega
  have grid : f.place (num / den) = 0 := place_of_lt kept (by omega)
  have whole : quanta = quanta * 2 ^ 0 := (Nat.mul_one quanta).symm
  refine round_eq positive grid whole ?_ ?_ ?_
  · rw [Nat.pow_zero, Nat.one_mul]
    omega
  · rw [Nat.pow_zero, Nat.one_mul]
    exact high
  · rw [Nat.pow_zero, Nat.one_mul]
    omega

/-- What lies in the same binade as a magnitude rounds on the grid of that binade. -/
theorem Near.round_of_le (near : f.Near quanta (f.reach quanta) num den) (positive : 0 < den)
    {place multiple : Nat} (own : f.place quanta = place) (whole : quanta = multiple * 2 ^ place)
    (grid : f.place (num / den) = place) : f.round num den = quanta := by
  obtain ⟨low, high, tie⟩ := near
  have step : 0 < 2 ^ place * den := Nat.mul_pos (Nat.two_pow_pos place) positive
  have even : quanta / 2 ^ place = multiple := by
    rw [whole, Nat.mul_div_cancel _ (Nat.two_pow_pos place)]
  have reaches : f.reach quanta * den = 2 ^ place * den ∨
      f.reach quanta * den = 2 * (2 ^ place * den) := by
    unfold reach
    split
    · exact .inl (by rw [own])
    · exact .inr (by rw [own, Nat.mul_assoc])
  rw [own] at high tie
  rw [even] at tie
  refine round_eq positive grid whole ?_ high fun half => tie ?_
  · omega
  · omega

/-- Below a power of two the grid is twice as fine, and what lies there may be off by a quarter of a
step only. -/
theorem Near.round_of_power (near : f.Near quanta (f.reach quanta) num den) (kept : 0 < f.precision)
    (positive : 0 < den) {finer : Nat} (own : f.place quanta = finer + 1)
    (power : quanta = 2 ^ (f.precision + finer)) (below : num / den < quanta) :
    f.round num den = quanta := by
  have step : 2 ^ (finer + 1) * den = 2 * (2 ^ finer * den) := by
    rw [Nat.pow_succ', Nat.mul_assoc]
  have least : quanta = 2 ^ (f.precision - 1) * 2 ^ f.place quanta := by
    rw [own, ← Nat.pow_add, power]
    congr 1
    omega
  have narrow : f.reach quanta * den = 2 * (2 ^ finer * den) := by
    rw [reach, if_pos ⟨by omega, least⟩, own, step]
  have low := near.low
  rw [narrow] at low
  have half : quanta = 2 * 2 ^ (f.precision - 1 + finer) := by
    rw [power, ← Nat.pow_succ']
    congr 1
    omega
  have reached : 2 ^ finer ≤ 2 ^ (f.precision - 1 + finer) :=
    Nat.pow_le_pow_right Nat.two_pos (Nat.le_add_left ..)
  have atLeast : 2 ^ (f.precision - 1 + finer) ≤ num / den := by
    rw [Nat.le_div_iff_mul_le positive]
    have scaled := Nat.mul_le_mul_right den reached
    rw [half, Nat.mul_assoc] at low
    omega
  have grid : f.place (num / den) = finer := by
    rw [place_of_between atLeast (by rw [Nat.pow_succ']; omega)]
    omega
  have under : num < quanta * den := (Nat.div_lt_iff_lt_mul positive).mp below
  have whole : quanta = 2 ^ f.precision * 2 ^ finer := by rw [power, Nat.pow_add]
  refine round_eq positive grid whole ?_ ?_ ?_
  · omega
  · omega
  · intro _
    obtain ⟨less, precision⟩ := Nat.exists_eq_succ_of_ne_zero (Nat.ne_of_gt kept)
    rw [precision, Nat.pow_succ, Nat.mul_mod_left]

/-- What is close enough to a magnitude rounds to it. -/
theorem Near.round (near : f.Near quanta (f.reach quanta) num den) (held : f.Holds quanta)
    (kept : 0 < f.precision) (positive : 0 < den) : f.round num den = quanta := by
  rcases Nat.lt_or_ge quanta (2 ^ f.precision) with small | large
  · exact near.round_of_lt kept positive small
  obtain ⟨place, multiple, beyond, own, whole, least, most⟩ := held.multiple kept large
  have stepped : quanta * den = multiple * (2 ^ place * den) := by rw [whole, Nat.mul_assoc]
  have stepPositive : 0 < 2 ^ place * den := Nat.mul_pos (Nat.two_pow_pos place) positive
  have high := near.high
  rw [own] at high
  have atMost : num / den < 2 ^ (f.precision - 1 + place + 1) := by
    rw [Nat.div_lt_iff_lt_mul positive,
      show f.precision - 1 + place + 1 = f.precision + place by omega, Nat.pow_add, Nat.mul_assoc]
    have room := Nat.mul_le_mul_right (2 ^ place * den) (Nat.succ_le_of_lt most)
    rw [Nat.succ_mul, ← stepped] at room
    omega
  by_cases within : 2 ^ (f.precision - 1 + place) ≤ num / den
  · refine near.round_of_le positive own whole ?_
    rw [place_of_between within atMost]
    omega
  -- What lies in the binade below can only round to the least magnitude of this one.
  have least_eq : multiple = 2 ^ (f.precision - 1) := by
    refine Nat.le_antisymm (Nat.le_of_not_lt fun more => within ?_) least
    rw [Nat.le_div_iff_mul_le positive, Nat.pow_add, Nat.mul_assoc]
    have room := Nat.mul_le_mul_right (2 ^ place * den) (Nat.succ_le_of_lt more)
    have low := near.low
    have wide : f.reach quanta * den ≤ 2 * (2 ^ place * den) := by
      rw [← Nat.mul_assoc]
      refine Nat.mul_le_mul_right den ?_
      unfold reach
      rw [own]
      split <;> omega
    rw [Nat.succ_mul, ← stepped] at room
    omega
  obtain ⟨finer, rfl⟩ := Nat.exists_eq_succ_of_ne_zero (Nat.ne_of_gt beyond)
  have power : quanta = 2 ^ (f.precision + finer) := by
    rw [whole, least_eq, ← Nat.pow_add]
    congr 1
    omega
  refine near.round_of_power kept positive own power ?_
  rw [whole, least_eq, ← Nat.pow_add]
  exact Nat.lt_of_not_le within

/-- A point in units of `10 ^ -scale` and a quotient in quanta that mean the same compare alike. -/
theorem le_point_iff {point bound : Nat} (positive : 0 < den)
    (ratio : num * 5 ^ f.scale = point * den) :
    bound * 5 ^ f.scale ≤ 4 * point ↔ bound * den ≤ 4 * num := by
  have unit : 0 < 5 ^ f.scale := Nat.pow_pos (by decide)
  calc bound * 5 ^ f.scale ≤ 4 * point
      ↔ bound * 5 ^ f.scale * den ≤ 4 * point * den := (Nat.mul_le_mul_right_iff positive).symm
    _ ↔ bound * den * 5 ^ f.scale ≤ 4 * num * 5 ^ f.scale := by
      rw [Nat.mul_right_comm bound, Nat.mul_assoc 4 point, Nat.mul_assoc 4 num, ratio]
    _ ↔ bound * den ≤ 4 * num := Nat.mul_le_mul_right_iff unit

theorem point_le_iff {point bound : Nat} (positive : 0 < den)
    (ratio : num * 5 ^ f.scale = point * den) :
    4 * point ≤ bound * 5 ^ f.scale ↔ 4 * num ≤ bound * den := by
  have unit : 0 < 5 ^ f.scale := Nat.pow_pos (by decide)
  calc 4 * point ≤ bound * 5 ^ f.scale
      ↔ 4 * point * den ≤ bound * 5 ^ f.scale * den := (Nat.mul_le_mul_right_iff positive).symm
    _ ↔ 4 * num * 5 ^ f.scale ≤ bound * den * 5 ^ f.scale := by
      rw [Nat.mul_right_comm bound, Nat.mul_assoc 4 point, Nat.mul_assoc 4 num, ratio]
    _ ↔ 4 * num ≤ bound * den := Nat.mul_le_mul_right_iff unit

theorem neighbourhood_eq : f.neighbourhood quanta =
    { centre := 4 * quanta * 5 ^ f.scale
      lower := (4 * quanta - f.reach quanta) * 5 ^ f.scale
      upper := (4 * quanta + 2 * 2 ^ f.place quanta) * 5 ^ f.scale
      closed := quanta / 2 ^ f.place quanta % 2 = 0 } :=
  rfl

/-- What lies in the neighbourhood of a magnitude is close enough to it. -/
theorem near_of_contains {point : Nat} (positive : 0 < den)
    (ratio : num * 5 ^ f.scale = point * den)
    (inside : (f.neighbourhood quanta).contains (4 * point) = true) :
    f.Near quanta (f.reach quanta) num den := by
  have parts : 4 * quanta ≤ 4 * quanta - f.reach quanta + f.reach quanta := by omega
  have low := Nat.mul_le_mul_right den parts
  rw [Nat.add_mul, Nat.mul_assoc] at low
  have high : (4 * quanta + 2 * 2 ^ f.place quanta) * den =
      4 * (quanta * den) + 2 * (2 ^ f.place quanta * den) := by
    rw [Nat.add_mul, Nat.mul_assoc, Nat.mul_assoc]
  rw [neighbourhood_eq, Neighbourhood.contains] at inside
  dsimp only at inside
  split at inside
  · next even =>
    simp only [Bool.and_eq_true, decide_eq_true_eq, le_point_iff positive ratio,
      point_le_iff positive ratio] at inside even
    exact ⟨by omega, by omega, fun _ => even⟩
  · simp only [Bool.and_eq_true, decide_eq_true_eq, ← Nat.not_le, le_point_iff positive ratio,
      point_le_iff positive ratio] at inside
    exact ⟨by omega, by omega, by omega⟩

/-- What lies in the neighbourhood of a magnitude rounds to it. -/
theorem round_eq_of_contains {point : Nat} (held : f.Holds quanta) (kept : 0 < f.precision)
    (positive : 0 < den) (ratio : num * 5 ^ f.scale = point * den)
    (inside : (f.neighbourhood quanta).contains (4 * point) = true) : f.round num den = quanta :=
  (near_of_contains positive ratio inside).round held kept positive

end Format

end SpeechQueue
