import SpeechQueue.Playback.Duration
import SpeechQueue.Proofs.RoundingOrder

/-! # The seconds of an utterance

The seconds come out of two products and a quotient, each rounded, over counts and a rate that are
rounded themselves. Here they are followed in quanta. Every step keeps the order, and all of them stay
far from the limits of the format, so that nothing is an infinity. Main statements:
`secondsQuanta_mono`, `secondsQuanta_le_words` and `InRange.amounts`. -/

namespace SpeechQueue

namespace Playback

/-! ## The rate -/

/-- The slowest rate in quanta: a quarter. -/
def slowestQuanta : Nat := 2 ^ 147

theorem slowest_eq : slowest = .finite false slowestQuanta (by decide +kernel) := by
  decide +kernel

/-- A finite rate is used as it is unless it is below the slowest one. -/
theorem effectiveRate_finite (negative : Bool) (quanta : Nat) (held : Format.single.Holds quanta) :
    (effectiveRate (.finite negative quanta held)).Amounts
      (max (Binary.signed negative quanta) slowestQuanta).toNat := by
  have choice : effectiveRate (.finite negative quanta held) =
      if Binary.signed negative quanta < slowestQuanta then slowest
      else .finite negative quanta held := by
    simp [effectiveRate, Binary.isFinite, Binary.max, slowest_eq, Binary.lt, Binary.signed]
  rw [choice]
  split
  · next below =>
    rw [Int.max_eq_right (Int.le_of_lt below), Int.toNat_natCast]
    exact ⟨_, slowest_eq⟩
  · next reached =>
    cases negative with
    | true =>
      have bound : (0 : Int) < slowestQuanta := by decide
      simp only [Binary.signed, ↓reduceIte] at reached
      omega
    | false =>
      rw [Int.max_eq_left (Int.not_lt.mp reached)]
      exact ⟨held, rfl⟩

/-- What is no finite rate is used as the neutral one. -/
theorem effectiveRate_of_not_finite {rate : Single} (unbounded : rate.isFinite = false) :
    effectiveRate rate = .ofNat 1 := by
  rw [effectiveRate, unbounded, if_neg Bool.false_ne_true]

/-- At or below a quarter every finite rate is used as a quarter. -/
theorem effectiveRate_of_le {rate : Single} (finite : rate.isFinite = true)
    (slow : Binary.le rate slowest = true) : effectiveRate rate = slowest := by
  cases rate with
  | nan => cases finite
  | infinite negative => cases finite
  | finite negative quanta held =>
    rw [slowest_eq] at slow ⊢
    have least : Binary.signed negative quanta ≤ slowestQuanta := of_decide_eq_true slow
    have amounts := effectiveRate_finite negative quanta held
    rw [Int.max_eq_right least, Int.toNat_natCast] at amounts
    exact amounts.choose_spec

/-- Whatever the rate is, timing uses a finite one of at least a quarter. -/
theorem effectiveRate_amounts (rate : Single) :
    ∃ quanta, (effectiveRate rate).Amounts quanta ∧ slowestQuanta ≤ quanta := by
  have neutral : (Binary.ofNat 1 : Single).Amounts (2 ^ 149) :=
    ⟨by decide +kernel, by decide +kernel⟩
  cases rate with
  | nan =>
    rw [effectiveRate_of_not_finite rfl]
    exact ⟨2 ^ 149, neutral, by decide⟩
  | infinite negative =>
    rw [effectiveRate_of_not_finite rfl]
    exact ⟨2 ^ 149, neutral, by decide⟩
  | finite negative quanta held =>
    refine ⟨_, effectiveRate_finite negative quanta held, ?_⟩
    omega

/-- Of two finite rates the larger one is used as the larger one, unless both are used as the
slowest. -/
theorem effectiveRate_mono {low high : Single} (lowFinite : low.isFinite = true)
    (highFinite : high.isFinite = true) (order : Binary.le low high = true) :
    ∃ lowQuanta highQuanta, (effectiveRate low).Amounts lowQuanta ∧
      (effectiveRate high).Amounts highQuanta ∧ slowestQuanta ≤ lowQuanta ∧
      lowQuanta ≤ highQuanta := by
  cases low with
  | nan => cases lowFinite
  | infinite negative => cases lowFinite
  | finite negative quanta held =>
    cases high with
    | nan => cases highFinite
    | infinite other => cases highFinite
    | finite other larger largerHeld =>
      have signs : Binary.signed negative quanta ≤ Binary.signed other larger :=
        of_decide_eq_true order
      refine ⟨_, _, effectiveRate_finite negative quanta held,
        effectiveRate_finite other larger largerHeld, ?_, ?_⟩
      · omega
      · omega

/-! ## Counting in quanta -/

/-- The quanta of the number one. -/
def unit : Nat := 2 ^ Format.double.scale

/-- The quanta of a count. -/
def countQuanta (count : Nat) : Nat :=
  Format.double.round (count * unit) 1

/-- The quanta of the work that words are: sixty for each. -/
def workQuanta (words : Nat) : Nat :=
  Format.double.round (countQuanta words * countQuanta 60) unit

/-- The quanta of a rate that is given in quanta of its own format. -/
def widenedQuanta (rate : Nat) : Nat :=
  Format.double.round (rate * unit) (2 ^ Format.single.scale)

/-- The quanta of the speed at a rate. -/
def speedQuanta (wordsPerMinute rate : Nat) : Nat :=
  Format.double.round (countQuanta wordsPerMinute * widenedQuanta rate) unit

/-- The quanta of the seconds that words take. -/
def secondsQuanta (words wordsPerMinute rate : Nat) : Nat :=
  Format.double.round (workQuanta words * unit) (speedQuanta wordsPerMinute rate)

theorem unit_pos : 0 < unit := Nat.two_pow_pos _

theorem precision_pos : 0 < Format.double.precision := by decide

theorem countQuanta_mono {few many : Nat} (order : few ≤ many) :
    countQuanta few ≤ countQuanta many := by
  refine Format.round_mono precision_pos Nat.one_pos Nat.one_pos ?_
  exact Nat.mul_le_mul_right 1 (Nat.mul_le_mul_right unit order)

theorem workQuanta_mono {few many : Nat} (order : few ≤ many) :
    workQuanta few ≤ workQuanta many := by
  refine Format.round_mono precision_pos unit_pos unit_pos ?_
  exact Nat.mul_le_mul_right unit (Nat.mul_le_mul_right _ (countQuanta_mono order))

theorem widenedQuanta_mono {rate rate' : Nat} (order : rate ≤ rate') :
    widenedQuanta rate ≤ widenedQuanta rate' := by
  have step := Nat.two_pow_pos Format.single.scale
  refine Format.round_mono precision_pos step step ?_
  exact Nat.mul_le_mul_right _ (Nat.mul_le_mul_right unit order)

theorem speedQuanta_mono {slow fast rate rate' : Nat} (order : slow ≤ fast) (rates : rate ≤ rate') :
    speedQuanta slow rate ≤ speedQuanta fast rate' := by
  refine Format.round_mono precision_pos unit_pos unit_pos ?_
  exact Nat.mul_le_mul_right unit
    (Nat.mul_le_mul (countQuanta_mono order) (widenedQuanta_mono rates))

/-- More words at no greater speed take no less time. -/
theorem secondsQuanta_mono {few many slow fast rate rate' : Nat} (words : few ≤ many)
    (speeds : slow ≤ fast) (rates : rate ≤ rate') (moving : 0 < speedQuanta slow rate) :
    secondsQuanta few fast rate' ≤ secondsQuanta many slow rate := by
  have faster := speedQuanta_mono speeds rates
  refine Format.round_mono precision_pos (Nat.lt_of_lt_of_le moving faster) moving ?_
  exact Nat.mul_le_mul (Nat.mul_le_mul_right unit (workQuanta_mono words)) faster

/-! ## Bounds -/

theorem unit_mul_two_pow (exponent : Nat) :
    2 ^ exponent * unit = 2 ^ (exponent + Format.double.scale) := by
  rw [unit, Nat.pow_add]

/-- A power of two bounds what is rounded from below it. -/
theorem round_le_two_pow {num den : Nat} (positive : 0 < den) {exponent : Nat}
    (bound : num ≤ 2 ^ exponent * unit * den) :
    Format.double.round num den ≤ 2 ^ exponent * unit := by
  refine Format.round_le precision_pos positive ?_ bound
  rw [unit_mul_two_pow]
  exact Format.fits_two_pow precision_pos _

/-- What is far below the largest magnitude is finite. -/
theorem lt_limit {quanta exponent : Nat} (bound : quanta ≤ 2 ^ exponent * unit)
    (small : exponent < 1024) : quanta < 2 ^ Format.double.limit := by
  refine Nat.lt_of_le_of_lt bound ?_
  rw [unit_mul_two_pow]
  refine Nat.pow_lt_pow_right Nat.one_lt_two ?_
  change exponent + 1074 < 2098
  omega

theorem countQuanta_le {count exponent : Nat} (small : count ≤ 2 ^ exponent) :
    countQuanta count ≤ 2 ^ exponent * unit := by
  refine round_le_two_pow Nat.one_pos ?_
  rw [Nat.mul_one]
  exact Nat.mul_le_mul_right unit small

theorem unit_le_countQuanta {count : Nat} (positive : 0 < count) : unit ≤ countQuanta count := by
  refine Format.le_round precision_pos Nat.one_pos (Format.fits_two_pow precision_pos _) ?_
  rw [Nat.mul_one]
  exact Nat.le_mul_of_pos_left unit positive

/-- A count that is not too large is exact. -/
theorem count_fits {count : Nat} (small : count < 2 ^ 53) : Format.double.Fits (count * unit) :=
  Format.fits_of_lt (f := .double) small _

theorem countQuanta_of_fits {count : Nat} (fits : Format.double.Fits (count * unit)) :
    countQuanta count = count * unit := by
  have kept := Format.round_of_fits Nat.one_pos fits
  rwa [Nat.mul_one] at kept

theorem workQuanta_le {words : Nat} (counted : words < 2 ^ 64) : workQuanta words ≤ 2 ^ 70 * unit := by
  refine round_le_two_pow unit_pos ?_
  calc countQuanta words * countQuanta 60
      ≤ 2 ^ 64 * unit * (2 ^ 6 * unit) :=
        Nat.mul_le_mul (countQuanta_le (Nat.le_of_lt counted)) (countQuanta_le (by decide))
    _ = 2 ^ 70 * unit * unit := by
      rw [Nat.mul_mul_mul_comm, ← Nat.pow_add, Nat.mul_assoc]

/-- A rate of at least a quarter stays one in the wider format. -/
theorem quarter_le_widenedQuanta {rate : Nat} (least : slowestQuanta ≤ rate) :
    2 ^ 1072 ≤ widenedQuanta rate := by
  have same : 2 ^ 1072 * 2 ^ Format.single.scale = slowestQuanta * unit := by decide +kernel
  refine Format.le_round precision_pos (Nat.two_pow_pos _) (Format.fits_two_pow precision_pos 1072) ?_
  rw [same]
  exact Nat.mul_le_mul_right unit least

theorem widenedQuanta_le {rate : Nat} (held : rate < 2 ^ Format.single.limit) :
    widenedQuanta rate ≤ 2 ^ 128 * unit := by
  have same : 2 ^ Format.single.limit * unit = 2 ^ 128 * unit * 2 ^ Format.single.scale := by
    decide +kernel
  refine round_le_two_pow (Nat.two_pow_pos _) ?_
  rw [← same]
  exact Nat.mul_le_mul_right unit (Nat.le_of_lt held)

/-- At the least speed and the slowest rate there is a quarter of a word per minute. -/
theorem unit_le_speedQuanta {wordsPerMinute rate : Nat} (positive : 0 < wordsPerMinute)
    (least : slowestQuanta ≤ rate) : unit ≤ 4 * speedQuanta wordsPerMinute rate := by
  have same : unit = 4 * 2 ^ 1072 := by decide +kernel
  have quarter : 2 ^ 1072 ≤ speedQuanta wordsPerMinute rate := by
    refine Format.le_round precision_pos unit_pos (Format.fits_two_pow precision_pos 1072) ?_
    rw [Nat.mul_comm]
    exact Nat.mul_le_mul (unit_le_countQuanta positive) (quarter_le_widenedQuanta least)
  omega

theorem speedQuanta_le {wordsPerMinute rate : Nat} (fits : wordsPerMinute < 2 ^ 32)
    (held : rate < 2 ^ Format.single.limit) : speedQuanta wordsPerMinute rate ≤ 2 ^ 160 * unit := by
  refine round_le_two_pow unit_pos ?_
  refine Nat.le_trans (Nat.mul_le_mul (countQuanta_le (Nat.le_of_lt fits)) (widenedQuanta_le held)) ?_
  rw [Nat.mul_mul_mul_comm, ← Nat.pow_add, Nat.mul_assoc]

theorem speedQuanta_pos {wordsPerMinute rate : Nat} (positive : 0 < wordsPerMinute)
    (least : slowestQuanta ≤ rate) : 0 < speedQuanta wordsPerMinute rate := by
  have reached := unit_le_speedQuanta positive least
  have one := unit_pos
  omega

theorem secondsQuanta_le {words wordsPerMinute rate : Nat} (counted : words < 2 ^ 64)
    (positive : 0 < wordsPerMinute) (least : slowestQuanta ≤ rate) :
    secondsQuanta words wordsPerMinute rate ≤ 2 ^ 72 * unit := by
  refine round_le_two_pow (speedQuanta_pos positive least) ?_
  calc workQuanta words * unit
      ≤ 2 ^ 70 * unit * (4 * speedQuanta wordsPerMinute rate) :=
        Nat.mul_le_mul (workQuanta_le counted) (unit_le_speedQuanta positive least)
    _ = 2 ^ 72 * unit * speedQuanta wordsPerMinute rate := by
      rw [← Nat.mul_assoc, Nat.mul_right_comm (2 ^ 70), show 2 ^ 70 * 4 = 2 ^ 72 from rfl]

/-- Few words are counted exactly, so that each takes at most sixty over a quarter. -/
theorem secondsQuanta_le_words {words wordsPerMinute rate : Nat} (few : words < 2 ^ 40)
    (positive : 0 < wordsPerMinute) (least : slowestQuanta ≤ rate) :
    secondsQuanta words wordsPerMinute rate ≤ 240 * words * unit := by
  have work : workQuanta words ≤ 60 * words * unit := by
    refine Format.round_le precision_pos unit_pos (count_fits (by omega)) ?_
    rw [countQuanta_of_fits (count_fits (by omega)), countQuanta_of_fits (count_fits (by decide)),
      Nat.mul_mul_mul_comm, Nat.mul_comm words, Nat.mul_assoc (60 * words)]
  refine Format.round_le precision_pos (speedQuanta_pos positive least) (count_fits (by omega)) ?_
  calc workQuanta words * unit
      ≤ 60 * words * unit * (4 * speedQuanta wordsPerMinute rate) :=
        Nat.mul_le_mul work (unit_le_speedQuanta positive least)
    _ = 240 * words * unit * speedQuanta wordsPerMinute rate := by
      rw [← Nat.mul_assoc, Nat.mul_right_comm (60 * words), Nat.mul_right_comm 60]

/-! ## The seconds -/

/-- There is a speed of 32 bits, and the rate used for timing is of so many quanta. -/
structure Paced (wordsPerMinute : Nat) (rate : Single) (quanta : Nat) : Prop where
  positive : 0 < wordsPerMinute
  fits : wordsPerMinute < 2 ^ 32
  amounts : (effectiveRate rate).Amounts quanta
  least : slowestQuanta ≤ quanta

/-- The words, their work and their seconds are below the limit of the format. -/
structure InRange (words wordsPerMinute rate : Nat) : Prop where
  counted : countQuanta words < 2 ^ Format.double.limit
  worked : workQuanta words < 2 ^ Format.double.limit
  taken : secondsQuanta words wordsPerMinute rate < 2 ^ Format.double.limit

theorem count_amounts {count : Nat} (exponent : Nat) (bound : count ≤ 2 ^ exponent)
    (small : exponent < 1024) : (Binary.ofNat count : Double).Amounts (countQuanta count) :=
  Binary.ofNat_amounts precision_pos (lt_limit (countQuanta_le bound) small)

variable {words wordsPerMinute quanta : Nat} {rate : Single}

namespace Paced

theorem speedQuanta_pos (paced : Paced wordsPerMinute rate quanta) :
    0 < speedQuanta wordsPerMinute quanta :=
  Playback.speedQuanta_pos paced.positive paced.least

theorem speed_amounts (paced : Paced wordsPerMinute rate quanta) :
    (Binary.ofNat wordsPerMinute * (effectiveRate rate).convert : Double).Amounts
      (speedQuanta wordsPerMinute quanta) := by
  have held := paced.amounts.lt_limit
  have widened := paced.amounts.convert precision_pos (lt_limit (widenedQuanta_le held) (by decide))
  exact (count_amounts 32 (Nat.le_of_lt paced.fits) (by decide)).mul widened precision_pos
    (lt_limit (speedQuanta_le paced.fits held) (by decide))

end Paced

theorem sixty_amounts : (Binary.ofNat 60 : Double).Amounts (countQuanta 60) :=
  count_amounts 6 (by decide) (by decide)

namespace InRange

/-- A count of 64 bits is in range at any speed and rate. -/
theorem of_lt (counted : words < 2 ^ 64) (paced : Paced wordsPerMinute rate quanta) :
    InRange words wordsPerMinute quanta where
  counted := lt_limit (countQuanta_le (Nat.le_of_lt counted)) (by decide)
  worked := lt_limit (workQuanta_le counted) (by decide)
  taken := lt_limit (secondsQuanta_le counted paced.positive paced.least) (by decide)

/-- What is finite in the end was in range all along. -/
theorem of_isFinite (paced : Paced wordsPerMinute rate quanta)
    (finite : (seconds words wordsPerMinute rate).isFinite = true) :
    InRange words wordsPerMinute quanta := by
  have worked := Binary.isFinite_of_div finite
  have counted : countQuanta words < 2 ^ Format.double.limit :=
    Binary.ofNat_lt_limit (Binary.isFinite_of_mul worked)
  have count := Binary.ofNat_amounts precision_pos counted
  rw [count.mul_eq sixty_amounts] at worked
  have work : workQuanta words < 2 ^ Format.double.limit := Binary.lt_limit_of_isFinite worked
  have product := count.mul sixty_amounts precision_pos work
  rw [seconds, product.div_eq paced.speed_amounts paced.speedQuanta_pos] at finite
  exact ⟨counted, work, Binary.lt_limit_of_isFinite finite⟩

/-- Fewer words at no smaller speed and rate are in range as well. -/
theorem mono {few many slow fast low high : Nat} (range : InRange many slow low)
    (words : few ≤ many) (speeds : slow ≤ fast) (rates : low ≤ high)
    (moving : 0 < speedQuanta slow low) : InRange few fast high where
  counted := Nat.lt_of_le_of_lt (countQuanta_mono words) range.counted
  worked := Nat.lt_of_le_of_lt (workQuanta_mono words) range.worked
  taken := Nat.lt_of_le_of_lt (secondsQuanta_mono words speeds rates moving) range.taken

/-- In range the seconds are finite, and rounded step by step. -/
theorem amounts (range : InRange words wordsPerMinute quanta)
    (paced : Paced wordsPerMinute rate quanta) :
    (seconds words wordsPerMinute rate).Amounts
      (secondsQuanta words wordsPerMinute quanta) := by
  have count := Binary.ofNat_amounts precision_pos range.counted
  have work := count.mul sixty_amounts precision_pos range.worked
  exact work.div paced.speed_amounts paced.speedQuanta_pos precision_pos range.taken

end InRange

end Playback

end SpeechQueue
