import SpeechQueue.Proofs.PlaybackSeconds

/-! # How long utterances take

Seconds make a span of time only if they are finite, not negative and not too many, and the rate comes
from a text that may set it to anything. Main statements: `duration_bounded`, the time of an utterance
can be told and is bounded by its words, and `duration_antitone`, how it changes with words, speed and
rate. -/

namespace SpeechQueue

namespace Playback

/-! ## Spans of time -/

theorem ofSeconds_eq {x : Double} {quanta : Nat} (amounts : x.Amounts quanta) :
    Duration.ofSeconds x = ⟨nearestEven (quanta * Duration.perSecond) unit⟩ := by
  obtain ⟨held, rfl⟩ := amounts
  rw [Duration.ofSeconds, Nat.pow_eq, unit]

/-- A finite number of seconds that is not negative is a span of time if it is small enough. -/
theorem isSpan_iff {x : Double} {quanta : Nat} (amounts : x.Amounts quanta) :
    Duration.isSpan x = true ↔ quanta < 2 ^ 64 * unit := by
  have whole : countQuanta (2 ^ 64) = 2 ^ 64 * unit := by
    refine countQuanta_of_fits ?_
    rw [unit_mul_two_pow]
    exact Format.fits_two_pow precision_pos _
  have limit := count_amounts 64 (Nat.le_refl (2 ^ 64)) (by decide)
  rw [whole] at limit
  obtain ⟨limitHeld, limit⟩ := limit
  obtain ⟨held, rfl⟩ := amounts
  have below : Binary.lt (.finite false quanta held) (.finite false (2 ^ 64 * unit) limitHeld) =
      decide ((quanta : Int) < (2 ^ 64 * unit : Nat)) := by
    simp only [Binary.lt, Binary.signed, Bool.false_eq_true, ↓reduceIte]
  have above : Binary.le (.zero false) (.finite false quanta held) = true := by
    simp [Binary.le, Binary.zero, Binary.signed]
  rw [Duration.isSpan, Nat.pow_eq, limit, below, above, Binary.isFinite, Bool.true_and, Bool.true_and,
    decide_eq_true_eq, Int.ofNat_lt]

/-! ## The time of a text -/

section Text

variable {text : String} {wordsPerMinute quanta : Nat} {rate : Single}

theorem duration_eq_zero (rate : Single)
    (still : (words text.toList).length = 0 ∨ wordsPerMinute = 0) :
    duration text wordsPerMinute rate = .zero :=
  if_pos still

theorem duration?_eq_zero (rate : Single)
    (still : (words text.toList).length = 0 ∨ wordsPerMinute = 0) :
    duration? text wordsPerMinute rate = some .zero :=
  if_pos still

/-- With words and a speed it is the seconds that decide. -/
theorem duration?_spoken (spoken : 0 < (words text.toList).length) (moving : 0 < wordsPerMinute) :
    duration? text wordsPerMinute rate =
      Duration.ofSeconds? (seconds (words text.toList).length wordsPerMinute rate) :=
  if_neg (by omega)

/-- The time that can be told is the time that it takes. -/
theorem duration_of_duration? {time : Duration}
    (told : duration? text wordsPerMinute rate = some time) :
    duration text wordsPerMinute rate = time := by
  by_cases still : (words text.toList).length = 0 ∨ wordsPerMinute = 0
  · rw [duration?_eq_zero rate still] at told
    rw [duration_eq_zero rate still, Option.some.inj told]
  · rw [duration?_spoken (by omega) (by omega), Duration.ofSeconds?] at told
    split at told
    · rw [duration, if_neg still, Option.some.inj told]
    · cases told

/-- In range a text takes the time that is rounded from its seconds. -/
theorem duration_spoken (spoken : 0 < (words text.toList).length)
    (paced : Paced wordsPerMinute rate quanta)
    (range : InRange (words text.toList).length wordsPerMinute quanta) :
    duration text wordsPerMinute rate =
      ⟨nearestEven (secondsQuanta (words text.toList).length wordsPerMinute quanta *
        Duration.perSecond) unit⟩ := by
  have positive := paced.positive
  rw [duration, if_neg (by omega), ofSeconds_eq (range.amounts paced)]

/-- In range the time can be told if there are not too many seconds. -/
theorem duration?_of_range (spoken : 0 < (words text.toList).length)
    (paced : Paced wordsPerMinute rate quanta)
    (range : InRange (words text.toList).length wordsPerMinute quanta)
    (short : secondsQuanta (words text.toList).length wordsPerMinute quanta < 2 ^ 64 * unit) :
    duration? text wordsPerMinute rate = some (duration text wordsPerMinute rate) := by
  have span := (isSpan_iff (range.amounts paced)).mpr short
  rw [duration?_spoken spoken paced.positive, Duration.ofSeconds?, if_pos span,
    ofSeconds_eq (range.amounts paced), duration_spoken spoken paced range]

/-- The time can be told only in range, and if there are not too many seconds. -/
theorem range_of_duration? {time : Duration}
    (told : duration? text wordsPerMinute rate = some time)
    (spoken : 0 < (words text.toList).length) (paced : Paced wordsPerMinute rate quanta) :
    InRange (words text.toList).length wordsPerMinute quanta ∧
      secondsQuanta (words text.toList).length wordsPerMinute quanta < 2 ^ 64 * unit := by
  rw [duration?_spoken spoken paced.positive, Duration.ofSeconds?] at told
  split at told
  · next span =>
    have finite := span
    simp only [Duration.isSpan, Bool.and_eq_true] at finite
    have range := InRange.of_isFinite paced finite.1.1
    exact ⟨range, (isSpan_iff (range.amounts paced)).mp span⟩
  · cases told

end Text

/-- For any rate the seconds of fewer than `2 ^ 40` words at a speed of 32 bits are a finite number
that is not negative and below `2 ^ 64`, so the time can be told. It is at most 240 seconds for each
word, and none at all without words or without a speed. -/
theorem duration_bounded {text : String} {wordsPerMinute : Nat}
    (few : (words text.toList).length < 2 ^ 40) (fits : wordsPerMinute < 2 ^ 32) (rate : Single) :
    (0 < (words text.toList).length → 0 < wordsPerMinute →
      Duration.isSpan (seconds (words text.toList).length wordsPerMinute rate) = true) ∧
    duration? text wordsPerMinute rate = some (duration text wordsPerMinute rate) ∧
    (duration text wordsPerMinute rate).nanoseconds ≤
      240 * Duration.perSecond * (words text.toList).length ∧
    ((words text.toList).length = 0 ∨ wordsPerMinute = 0 →
      duration text wordsPerMinute rate = .zero) := by
  obtain ⟨quanta, amounts, least⟩ := effectiveRate_amounts rate
  by_cases still : (words text.toList).length = 0 ∨ wordsPerMinute = 0
  · have none := duration_eq_zero rate still
    refine ⟨by omega, ?_, ?_, fun _ => none⟩
    · rw [duration?_eq_zero rate still, none]
    · rw [none]
      exact Nat.zero_le _
  · have paced : Paced wordsPerMinute rate quanta := ⟨by omega, fits, amounts, least⟩
    have range : InRange (words text.toList).length wordsPerMinute quanta :=
      .of_lt (by omega) paced
    have bound := secondsQuanta_le_words few paced.positive least
    have short : secondsQuanta (words text.toList).length wordsPerMinute quanta < 2 ^ 64 * unit :=
      Nat.lt_of_le_of_lt bound (Nat.mul_lt_mul_of_pos_right (by omega) unit_pos)
    refine ⟨fun _ _ => (isSpan_iff (range.amounts paced)).mpr short,
      duration?_of_range (by omega) paced range short, ?_, fun other => absurd other still⟩
    rw [duration_spoken (by omega) paced range]
    dsimp only
    refine nearestEven_le unit_pos ?_
    calc secondsQuanta (words text.toList).length wordsPerMinute quanta * Duration.perSecond
        ≤ 240 * (words text.toList).length * unit * Duration.perSecond :=
          Nat.mul_le_mul_right _ bound
      _ = 240 * Duration.perSecond * (words text.toList).length * unit := by
        rw [Nat.mul_right_comm _ unit, Nat.mul_right_comm 240]

/-- Two words at the least speed take all of their 480 seconds at a rate below zero, and none without
a speed at a rate that is no number. -/
theorem duration_bounded_of_negative_rate :
    (words "one two".toList).length < 2 ^ 40 ∧ 1 < 2 ^ 32 ∧ 0 < (words "one two".toList).length ∧
      Duration.isSpan (seconds (words "one two".toList).length 1 (.ofRatio true 1 1)) = true ∧
      duration? "one two" 1 (.ofRatio true 1 1) = some (duration "one two" 1 (.ofRatio true 1 1)) ∧
      (duration "one two" 1 (.ofRatio true 1 1)).nanoseconds ≤
        240 * Duration.perSecond * (words "one two".toList).length ∧
      duration "one two" 1 (.ofRatio true 1 1) = ⟨480 * Duration.perSecond⟩ ∧
      duration "one two" 0 .nan = .zero := by
  have few : (words "one two".toList).length < 2 ^ 40 := by decide
  have spoken : 0 < (words "one two".toList).length := by decide
  have fits : 1 < 2 ^ 32 := by decide
  obtain ⟨span, told, bound, -⟩ := duration_bounded few fits (.ofRatio true 1 1)
  obtain ⟨-, -, -, still⟩ := duration_bounded few (Nat.two_pow_pos 32) .nan
  exact ⟨few, fits, spoken, span spoken Nat.one_pos, told, bound, by decide +kernel,
    still (.inr rfl)⟩

/-! ## Two texts compared -/

section Compared

variable {fewer more : String} {fast slow highQuanta lowQuanta : Nat} {high low : Single}

/-- More words at no greater pace take no less time. -/
theorem nanoseconds_mono (counts : (words fewer.toList).length ≤ (words more.toList).length)
    (speeds : slow ≤ fast) (order : lowQuanta ≤ highQuanta) (slowly : Paced slow low lowQuanta)
    (quickly : Paced fast high highQuanta)
    (range : InRange (words more.toList).length slow lowQuanta) :
    (duration fewer fast high).nanoseconds ≤ (duration more slow low).nanoseconds := by
  by_cases silent : (words fewer.toList).length = 0
  · rw [duration_eq_zero high (.inl silent)]
    exact Nat.zero_le _
  · have narrower := range.mono counts speeds order slowly.speedQuanta_pos
    have less := secondsQuanta_mono counts speeds order slowly.speedQuanta_pos
    rw [duration_spoken (by omega) slowly range, duration_spoken (by omega) quickly narrower]
    dsimp only
    refine nearestEven_mono unit_pos unit_pos ?_
    exact Nat.mul_le_mul_right unit (Nat.mul_le_mul_right _ less)

/-- If the longer time can be told, so can the other. -/
theorem duration?_mono (counts : (words fewer.toList).length ≤ (words more.toList).length)
    (speeds : slow ≤ fast) (order : lowQuanta ≤ highQuanta) (slowly : Paced slow low lowQuanta)
    (quickly : Paced fast high highQuanta) {longer : Duration}
    (told : duration? more slow low = some longer) :
    ∃ shorter, duration? fewer fast high = some shorter ∧
      shorter.nanoseconds ≤ longer.nanoseconds := by
  by_cases silent : (words fewer.toList).length = 0
  · exact ⟨.zero, duration?_eq_zero high (.inl silent), Nat.zero_le _⟩
  · obtain ⟨range, short⟩ := range_of_duration? told (by omega) slowly
    have narrower := range.mono counts speeds order slowly.speedQuanta_pos
    have less := secondsQuanta_mono counts speeds order slowly.speedQuanta_pos
    have bound := nanoseconds_mono counts speeds order slowly quickly range
    rw [duration_of_duration? told] at bound
    exact ⟨_, duration?_of_range (by omega) quickly narrower (Nat.lt_of_le_of_lt less short), bound⟩

end Compared

/-- More words, at no greater speed and no greater finite rate, take no less time, to the nanosecond:
if their time can be told then so can the other, which is no longer, and all counts of 64 bits compare
alike. Rates from a quarter downwards all give the same time, and what is no finite rate gives the
time of the neutral one. -/
theorem duration_antitone :
    (∀ (fewer more : String) (fast slow : Nat) (high low : Single),
      (words fewer.toList).length ≤ (words more.toList).length →
      0 < slow → slow ≤ fast → fast < 2 ^ 32 →
      high.isFinite = true → low.isFinite = true → Binary.le low high = true →
        (∀ longer, duration? more slow low = some longer →
          ∃ shorter, duration? fewer fast high = some shorter ∧
            shorter.nanoseconds ≤ longer.nanoseconds) ∧
        ((words more.toList).length < 2 ^ 64 →
          (duration fewer fast high).nanoseconds ≤ (duration more slow low).nanoseconds)) ∧
    (∀ (text : String) (wordsPerMinute : Nat) (rate other : Single),
      rate.isFinite = true → other.isFinite = true →
      Binary.le rate (.ofRatio false 1 4) = true → Binary.le other (.ofRatio false 1 4) = true →
        duration text wordsPerMinute rate = duration text wordsPerMinute other) ∧
    (∀ (text : String) (wordsPerMinute : Nat) (rate : Single), rate.isFinite = false →
      duration text wordsPerMinute rate = duration text wordsPerMinute (.ofNat 1)) := by
  refine ⟨?_, ?_, ?_⟩
  · intro fewer more fast slow high low counts positive speeds fits highFinite lowFinite rates
    obtain ⟨lowQuanta, highQuanta, lowAmounts, highAmounts, least, order⟩ :=
      effectiveRate_mono lowFinite highFinite rates
    have slowly : Paced slow low lowQuanta :=
      ⟨positive, Nat.lt_of_le_of_lt speeds fits, lowAmounts, least⟩
    have quickly : Paced fast high highQuanta :=
      ⟨Nat.lt_of_lt_of_le positive speeds, fits, highAmounts, Nat.le_trans least order⟩
    constructor
    · exact fun longer told => duration?_mono counts speeds order slowly quickly told
    · exact fun counted =>
        nanoseconds_mono counts speeds order slowly quickly (.of_lt counted slowly)
  · intro text wordsPerMinute rate other finite otherFinite slow otherSlow
    rw [duration, duration, seconds, seconds, effectiveRate_of_le finite slow,
      effectiveRate_of_le otherFinite otherSlow]
  · intro text wordsPerMinute rate unbounded
    have neutral : effectiveRate (.ofNat 1) = .ofNat 1 := by decide +kernel
    rw [duration, duration, seconds, seconds, effectiveRate_of_not_finite unbounded, neutral]

/-- One word at the usual speed and a high rate against three at a third of it and a rate below zero,
which take a good deal longer; then two rates that are too slow, and one that is no rate. -/
theorem duration_antitone_of_three_words :
    (words "go".toList).length ≤ (words "one two three".toList).length ∧
      (words "one two three".toList).length < 2 ^ 64 ∧ 0 < 60 ∧ 60 ≤ 180 ∧ 180 < 2 ^ 32 ∧
      (.ofNat 2 : Single).isFinite = true ∧ (.ofRatio true 1 1 : Single).isFinite = true ∧
      Binary.le (.ofRatio true 1 1 : Single) (.ofNat 2) = true ∧
      (∃ shorter, duration? "go" 180 (.ofNat 2) = some shorter ∧
        shorter.nanoseconds ≤ 12 * Duration.perSecond) ∧
      (duration "go" 180 (.ofNat 2)).nanoseconds ≤
        (duration "one two three" 60 (.ofRatio true 1 1)).nanoseconds ∧
      duration "go" 180 (.ofNat 2) = ⟨166666667⟩ ∧
      duration "one two three" 60 (.ofRatio true 1 1) = .ofMilliseconds 12000 ∧
      duration "go" 180 (.ofRatio true 1 1) = duration "go" 180 (.ofRatio false 1 8) ∧
      duration "go" 180 (.infinite true) = duration "go" 180 (.ofNat 1) := by
  obtain ⟨compared, slowest, neutral⟩ := duration_antitone
  have counts : (words "go".toList).length ≤ (words "one two three".toList).length := by decide
  have counted : (words "one two three".toList).length < 2 ^ 64 := by decide
  have highFinite : (.ofNat 2 : Single).isFinite = true := by decide +kernel
  have lowFinite : (.ofRatio true 1 1 : Single).isFinite = true := by decide +kernel
  have rates : Binary.le (.ofRatio true 1 1 : Single) (.ofNat 2) = true := by decide +kernel
  obtain ⟨told, less⟩ := compared "go" "one two three" 180 60 _ _ counts (by decide) (by decide)
    (by decide) highFinite lowFinite rates
  exact ⟨counts, counted, by decide, by decide, by decide, highFinite, lowFinite, rates,
    told ⟨12 * Duration.perSecond⟩ (by decide +kernel), less counted, by decide +kernel,
    by decide +kernel,
    slowest "go" 180 _ _ lowFinite (by decide +kernel) (by decide +kernel) (by decide +kernel),
    neutral "go" 180 (.infinite true) rfl⟩

end Playback

end SpeechQueue
