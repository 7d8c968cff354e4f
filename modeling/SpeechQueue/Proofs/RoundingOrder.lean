import SpeechQueue.Proofs.Rounding

/-! # Rounding keeps the order

Of two quotients the larger one never rounds to the smaller value, even where the two lie on grids of
different width. What fits the precision rounds to itself. So a bound that fits the precision is also
a bound of what is rounded. Main statements: `round_mono` and `round_of_fits`. The operations on
values that are not negative are then described by what they do to quanta. -/

namespace SpeechQueue

variable {num den num' den' : Nat}

/-! ## To whole numbers -/

/-- Of two quotients the larger one has the larger whole part. -/
theorem div_le_div_of_order (positive : 0 < den) (positive' : 0 < den')
    (order : num * den' ≤ num' * den) : num / den ≤ num' / den' := by
  rw [Nat.le_div_iff_mul_le positive']
  refine Nat.le_of_mul_le_mul_right ?_ positive
  calc num / den * den' * den = num / den * den * den' := Nat.mul_right_comm ..
    _ ≤ num * den' := Nat.mul_le_mul_right den' (Nat.div_mul_le_self num den)
    _ ≤ num' * den := order

/-- If the whole parts are the same, the larger quotient has the larger rest. -/
theorem mod_le_mod_of_order (same : num / den = num' / den') (order : num * den' ≤ num' * den) :
    num % den * den' ≤ num' % den' * den := by
  have wholes : num' / den' * den * den' = num' / den' * den' * den := Nat.mul_right_comm ..
  rw [← Nat.div_add_mod' num den, ← Nat.div_add_mod' num' den', Nat.add_mul, Nat.add_mul, same,
    wholes] at order
  exact Nat.le_of_add_le_add_left order

/-- Nothing is rounded below its whole part or beyond the next whole number. -/
theorem nearestEven_bounds (num den : Nat) :
    num / den ≤ nearestEven num den ∧ nearestEven num den ≤ num / den + 1 := by
  unfold nearestEven
  dsimp only
  repeat' split
  all_goals omega

/-- The nearest whole number grows with the quotient. -/
theorem nearestEven_mono (positive : 0 < den) (positive' : 0 < den')
    (order : num * den' ≤ num' * den) : nearestEven num den ≤ nearestEven num' den' := by
  rcases Nat.lt_or_eq_of_le (div_le_div_of_order positive positive' order) with less | same
  · have upper := (nearestEven_bounds num den).2
    have lower := (nearestEven_bounds num' den').1
    omega
  · -- From the same whole number the half is reached, and passed, in the same order.
    have rests := mod_le_mod_of_order same order
    have reached (half : den ≤ 2 * (num % den)) : den' ≤ 2 * (num' % den') := by
      refine Nat.le_of_mul_le_mul_right ?_ positive
      calc den' * den = den * den' := Nat.mul_comm ..
        _ ≤ 2 * (num % den) * den' := Nat.mul_le_mul_right den' half
        _ ≤ 2 * (num' % den') * den := by rw [Nat.mul_assoc, Nat.mul_assoc]; omega
    have passed (half : den < 2 * (num % den)) : den' < 2 * (num' % den') := by
      refine Nat.lt_of_mul_lt_mul_right (a := den) ?_
      calc den' * den = den * den' := Nat.mul_comm ..
        _ < 2 * (num % den) * den' := Nat.mul_lt_mul_of_pos_right half positive'
        _ ≤ 2 * (num' % den') * den := by rw [Nat.mul_assoc, Nat.mul_assoc]; omega
    unfold nearestEven
    dsimp only
    rw [← same]
    repeat' split
    all_goals omega

theorem nearestEven_mul (positive : 0 < den) (whole : Nat) :
    nearestEven (whole * den) den = whole := by
  refine nearestEven_eq positive ?_ ?_ ?_ <;> omega

/-- A whole number that bounds a quotient bounds what it rounds to. -/
theorem nearestEven_le (positive : 0 < den) {whole : Nat} (bound : num ≤ whole * den) :
    nearestEven num den ≤ whole := by
  rw [← nearestEven_mul positive whole]
  exact nearestEven_mono positive positive (Nat.mul_le_mul_right den bound)

theorem le_nearestEven (positive : 0 < den) {whole : Nat} (bound : whole * den ≤ num) :
    whole ≤ nearestEven num den := by
  rw [← nearestEven_mul positive whole]
  exact nearestEven_mono positive positive (Nat.mul_le_mul_right den bound)

/-! ## To the precision of a format -/

namespace Format

variable {f : Format} {quanta : Nat}

/-- A multiple of the step that bounds a quotient bounds what it rounds to. -/
theorem round_le_multiple (positive : 0 < den) {multiple : Nat}
    (bound : num ≤ multiple * 2 ^ f.place (num / den) * den) :
    f.round num den ≤ multiple * 2 ^ f.place (num / den) := by
  rw [round, Nat.pow_eq]
  refine Nat.mul_le_mul_right _ (nearestEven_le (Nat.mul_pos positive (Nat.two_pow_pos _)) ?_)
  rwa [Nat.mul_comm den, ← Nat.mul_assoc]

theorem multiple_le_round (positive : 0 < den) {multiple : Nat}
    (bound : multiple * 2 ^ f.place (num / den) * den ≤ num) :
    multiple * 2 ^ f.place (num / den) ≤ f.round num den := by
  rw [round, Nat.pow_eq]
  refine Nat.mul_le_mul_right _ (le_nearestEven (Nat.mul_pos positive (Nat.two_pow_pos _)) ?_)
  rwa [Nat.mul_comm den, ← Nat.mul_assoc]

theorem place_mono {low high : Nat} (order : low ≤ high) : f.place low ≤ f.place high := by
  have bits : Nat.log2 low ≤ Nat.log2 high := by
    by_cases zero : low = 0
    · simp [zero]
    · exact (Nat.le_log2 (by omega)).mpr (Nat.le_trans (Nat.log2_self_le zero) order)
  unfold place
  omega

/-- A power of two that is no finer than the step and bounds a quotient bounds what it rounds to. -/
theorem round_le_power (positive : 0 < den) {exponent : Nat}
    (coarse : f.place (num / den) ≤ exponent) (bound : num ≤ 2 ^ exponent * den) :
    f.round num den ≤ 2 ^ exponent := by
  rw [← Nat.pow_sub_mul_pow 2 coarse] at bound ⊢
  exact round_le_multiple positive bound

theorem power_le_round (positive : 0 < den) {exponent : Nat}
    (coarse : f.place (num / den) ≤ exponent) (bound : 2 ^ exponent * den ≤ num) :
    2 ^ exponent ≤ f.round num den := by
  rw [← Nat.pow_sub_mul_pow 2 coarse] at bound ⊢
  exact multiple_le_round positive bound

/-- Rounding keeps the order. On one grid the nearest multiples are in order, and between two grids
lies a power of two that is a multiple of both steps. -/
theorem round_mono (kept : 0 < f.precision) (positive : 0 < den) (positive' : 0 < den')
    (order : num * den' ≤ num' * den) : f.round num den ≤ f.round num' den' := by
  have wholes := div_le_div_of_order positive positive' order
  rcases Nat.lt_or_eq_of_le (place_mono (f := f) wholes) with finer | same
  · have nonzero : num' / den' ≠ 0 := by
      intro zero
      rw [zero, place_of_lt kept (Nat.two_pow_pos _)] at finer
      exact Nat.not_lt_zero _ finer
    have own : f.place (num / den) = Nat.log2 (num / den) + 1 - f.precision := rfl
    have own' : f.place (num' / den') = Nat.log2 (num' / den') + 1 - f.precision := rfl
    have below : num < 2 ^ Nat.log2 (num' / den') * den := by
      rw [← Nat.div_lt_iff_lt_mul positive]
      exact Nat.lt_of_lt_of_le Nat.lt_log2_self (Nat.pow_le_pow_right Nat.two_pos (by omega))
    have above : 2 ^ Nat.log2 (num' / den') * den' ≤ num' :=
      (Nat.le_div_iff_mul_le positive').mp (Nat.log2_self_le nonzero)
    calc f.round num den
        ≤ 2 ^ Nat.log2 (num' / den') := round_le_power positive (by omega) (Nat.le_of_lt below)
      _ ≤ f.round num' den' := power_le_round positive' (by omega) above
  · rw [round, round, ← same, Nat.pow_eq]
    have step := Nat.two_pow_pos (f.place (num / den))
    refine Nat.mul_le_mul_right _ (nearestEven_mono (Nat.mul_pos positive step)
      (Nat.mul_pos positive' step) ?_)
    rw [← Nat.mul_assoc, ← Nat.mul_assoc]
    exact Nat.mul_le_mul_right _ order

/-! ## What fits the precision -/

/-- The quanta have no more bits than are kept, whatever their size. -/
def Fits (f : Format) (quanta : Nat) : Prop :=
  2 ^ f.place quanta ∣ quanta

theorem Fits.holds (fits : f.Fits quanta) (small : quanta < 2 ^ f.limit) : f.Holds quanta :=
  ⟨small, Nat.mod_eq_zero_of_dvd fits⟩

/-- Few bits fit, on whatever grid they are. -/
theorem fits_of_lt {multiple : Nat} (small : multiple < 2 ^ f.precision) (exponent : Nat) :
    f.Fits (multiple * 2 ^ exponent) := by
  by_cases zero : multiple = 0
  · rw [zero, Nat.zero_mul]
    exact Nat.dvd_zero _
  · have below : multiple * 2 ^ exponent < 2 ^ (f.precision + exponent) := by
      rw [Nat.pow_add]
      exact Nat.mul_lt_mul_of_pos_right small (Nat.two_pow_pos exponent)
    have nonzero : multiple * 2 ^ exponent ≠ 0 :=
      Nat.mul_ne_zero zero (Nat.ne_of_gt (Nat.two_pow_pos exponent))
    have bits := (Nat.log2_lt nonzero).mpr below
    have coarse : f.place (multiple * 2 ^ exponent) ≤ exponent := by
      unfold place
      omega
    exact Nat.dvd_mul_left_of_dvd (Nat.pow_dvd_pow 2 coarse) multiple

theorem fits_two_pow (kept : 0 < f.precision) (exponent : Nat) : f.Fits (2 ^ exponent) := by
  have one := fits_of_lt (f := f) (Nat.one_lt_two_pow (Nat.ne_of_gt kept)) exponent
  rwa [Nat.one_mul] at one

/-- What fits the precision rounds to itself. -/
theorem round_of_fits (positive : 0 < den) (fits : f.Fits quanta) :
    f.round (quanta * den) den = quanta := by
  obtain ⟨multiple, product⟩ := fits
  rw [Nat.mul_comm] at product
  have grid : f.place (quanta * den / den) = f.place quanta := by
    rw [Nat.mul_div_cancel _ positive]
  refine round_eq positive grid product ?_ ?_ ?_
  · omega
  · omega
  · have step := Nat.mul_pos (Nat.two_pow_pos (f.place quanta)) positive
    omega

/-- What fits the precision and bounds a quotient bounds what it rounds to. -/
theorem round_le (kept : 0 < f.precision) (positive : 0 < den) (fits : f.Fits quanta)
    (bound : num ≤ quanta * den) : f.round num den ≤ quanta := by
  rw [← round_of_fits positive fits]
  exact round_mono kept positive positive (Nat.mul_le_mul_right den bound)

theorem le_round (kept : 0 < f.precision) (positive : 0 < den) (fits : f.Fits quanta)
    (bound : quanta * den ≤ num) : quanta ≤ f.round num den := by
  rw [← round_of_fits positive fits]
  exact round_mono kept positive positive (Nat.mul_le_mul_right den bound)

/-- What has been rounded fits the precision: it is a multiple of its step, and if it is rounded up to
the next power of two, this is a multiple of the next step. -/
theorem fits_round (kept : 0 < f.precision) (positive : 0 < den) : f.Fits (f.round num den) := by
  have below : num < 2 ^ f.precision * 2 ^ f.place (num / den) * den := by
    rw [← Nat.div_lt_iff_lt_mul positive, ← Nat.pow_add]
    refine Nat.lt_of_lt_of_le Nat.lt_log2_self (Nat.pow_le_pow_right Nat.two_pos ?_)
    unfold place
    omega
  have upper := round_le_multiple positive (Nat.le_of_lt below)
  rcases Nat.lt_or_eq_of_le upper with less | same
  · rw [round, Nat.pow_eq] at less ⊢
    exact fits_of_lt (Nat.lt_of_mul_lt_mul_right less) _
  · rw [same, ← Nat.pow_add]
    exact fits_two_pow kept _

end Format

/-! ## Values that are not negative -/

namespace Binary

variable {f : Format} {x y : Binary f} {amount other : Nat}

/-- The value is finite and not negative, and of so many quanta. -/
def Amounts (x : Binary f) (quanta : Nat) : Prop :=
  ∃ held, x = .finite false quanta held

theorem Amounts.lt_limit (amounts : x.Amounts amount) : amount < 2 ^ f.limit := by
  obtain ⟨held, -⟩ := amounts
  exact held.1

/-- What is rounded and below the limit is a finite value. -/
theorem ofQuanta_round_amounts (kept : 0 < f.precision) {num den : Nat} (positive : 0 < den)
    (small : f.round num den < 2 ^ f.limit) :
    (ofQuanta false (f.round num den) : Binary f).Amounts (f.round num den) :=
  have held := (Format.fits_round kept positive).holds small
  ⟨held, dif_pos held⟩

/-- What is a finite value is below the limit. -/
theorem lt_limit_of_isFinite {negative : Bool} {quanta : Nat}
    (finite : (ofQuanta negative quanta : Binary f).isFinite = true) : quanta < 2 ^ f.limit := by
  unfold ofQuanta at finite
  split at finite
  · next held => exact held.1
  · cases finite

theorem ofNat_lt_limit {n : Nat} (finite : (ofNat n : Binary f).isFinite = true) :
    f.round (n * 2 ^ f.scale) 1 < 2 ^ f.limit :=
  lt_limit_of_isFinite finite

theorem ofNat_amounts (kept : 0 < f.precision) {n : Nat}
    (small : f.round (n * 2 ^ f.scale) 1 < 2 ^ f.limit) :
    (ofNat n : Binary f).Amounts (f.round (n * 2 ^ f.scale) 1) :=
  ofQuanta_round_amounts kept Nat.one_pos small

theorem Amounts.convert (amounts : x.Amounts amount) {g : Format} (kept : 0 < g.precision)
    (small : g.round (amount * 2 ^ g.scale) (2 ^ f.scale) < 2 ^ g.limit) :
    (x.convert : Binary g).Amounts (g.round (amount * 2 ^ g.scale) (2 ^ f.scale)) := by
  obtain ⟨held, rfl⟩ := amounts
  exact ofQuanta_round_amounts kept (Nat.two_pow_pos _) small

theorem Amounts.mul_eq (left : x.Amounts amount) (right : y.Amounts other) :
    x * y = ofQuanta false (f.round (amount * other) (2 ^ f.scale)) := by
  obtain ⟨_, rfl⟩ := left
  obtain ⟨_, rfl⟩ := right
  rfl

theorem Amounts.mul (left : x.Amounts amount) (right : y.Amounts other) (kept : 0 < f.precision)
    (small : f.round (amount * other) (2 ^ f.scale) < 2 ^ f.limit) :
    (x * y).Amounts (f.round (amount * other) (2 ^ f.scale)) := by
  rw [left.mul_eq right]
  exact ofQuanta_round_amounts kept (Nat.two_pow_pos _) small

theorem Amounts.div_eq (left : x.Amounts amount) (right : y.Amounts other) (positive : 0 < other) :
    x / y = ofQuanta false (f.round (amount * 2 ^ f.scale) other) := by
  obtain ⟨_, rfl⟩ := left
  obtain ⟨_, rfl⟩ := right
  exact if_neg (Nat.ne_of_gt positive)

theorem Amounts.div (left : x.Amounts amount) (right : y.Amounts other) (positive : 0 < other)
    (kept : 0 < f.precision) (small : f.round (amount * 2 ^ f.scale) other < 2 ^ f.limit) :
    (x / y).Amounts (f.round (amount * 2 ^ f.scale) other) := by
  rw [left.div_eq right positive]
  exact ofQuanta_round_amounts kept positive small

/-- A product is finite only if its first factor is. -/
theorem isFinite_of_mul (finite : (x * y).isFinite = true) : x.isFinite = true := by
  change (mul x y).isFinite = true at finite
  unfold mul at finite
  split at finite
  · cases finite
  · cases finite
  · cases finite
  · split at finite <;> cases finite
  · rfl
  · rfl

/-- A quotient is finite only if what is divided is. -/
theorem isFinite_of_div (finite : (x / y).isFinite = true) : x.isFinite = true := by
  change (div x y).isFinite = true at finite
  unfold div at finite
  split at finite
  · cases finite
  · cases finite
  · cases finite
  · cases finite
  · rfl
  · rfl

end Binary

end SpeechQueue
