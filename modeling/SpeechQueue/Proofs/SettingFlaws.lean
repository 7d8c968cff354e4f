import Mathlib.Algebra.Order.Field.Rat
import Mathlib.Algebra.Order.Ring.Cast
import Mathlib.Data.List.Nodup
import SpeechQueue.Proofs.Precedence
import SpeechQueue.Proofs.Words

/-! # Which settings can be used

Loading looks for flaws one after the other and stops at the first one. Here the flaws are told from
what the settings are: the letters of a locale, and the rational numbers that rate, pitch and volume
stand for. Main statement: `load_judges`, settings are accepted just if they have no flaw, and else
the first one is named. -/

namespace SpeechQueue

namespace Binary

variable {f : Format} {x y : Binary f} {v w : ℚ}

/-- The number that a finite value is. -/
def rational? : Binary f → Option ℚ
  | .finite negative quanta _ => some (signed negative quanta / 2 ^ f.scale)
  | _ => none

/-- The value is greater than zero: a finite number that is, or the infinity above all of them. -/
def IsPositive (x : Binary f) : Prop :=
  x = .infinite false ∨ ∃ v ∈ x.rational?, 0 < v

instance (x : Binary f) : Decidable x.IsPositive :=
  inferInstanceAs (Decidable (_ ∨ ∃ v ∈ x.rational?, 0 < v))

/-- The value is a finite number from zero to one. -/
def InUnit (x : Binary f) : Prop :=
  ∃ v ∈ x.rational?, 0 ≤ v ∧ v ≤ 1

instance (x : Binary f) : Decidable x.InUnit :=
  inferInstanceAs (Decidable (∃ v ∈ x.rational?, 0 ≤ v ∧ v ≤ 1))

/-- Finite values are in the order of the numbers that they are. -/
theorem le_iff_rational (left : x.rational? = some v) (right : y.rational? = some w) :
    le x y = true ↔ v ≤ w := by
  cases x with
  | nan => cases left
  | infinite negative => cases left
  | finite negative quanta held =>
    cases y with
    | nan => cases right
    | infinite other => cases right
    | finite other more moreHeld =>
      cases left
      cases right
      rw [div_le_div_iff_of_pos_right (pow_pos two_pos _), Int.cast_le]
      exact decide_eq_true_iff

theorem rational?_zero (negative : Bool) : (zero negative : Binary f).rational? = some 0 := by
  cases negative <;> simp [zero, rational?, signed]

end Binary

namespace Parameters

open Binary

theorem rational?_one : (Binary.ofNat 1 : Single).rational? = some 1 := by
  decide +kernel

/-- Positive infinity is positive; what is not a number is not, nor is either zero. -/
theorem positive_iff (x : Single) : positive x = true ↔ x.IsPositive := by
  cases x with
  | nan => exact iff_of_false nofun (by simp [IsPositive, rational?])
  | infinite negative =>
    cases negative with
    | false => exact iff_of_true rfl (.inl rfl)
    | true => exact iff_of_false nofun (by simp [IsPositive, rational?])
  | finite negative quanta held =>
    have order := le_iff_rational (x := .finite negative quanta held) rfl (rational?_zero false)
    have number : (finite negative quanta held).isNumber = true := rfl
    rw [positive, number, Bool.true_and, Bool.not_eq_true', ← Bool.not_eq_true, order, not_le]
    simp [IsPositive, rational?]

/-- Both zeros are within the unit; neither infinity is, nor what is not a number. -/
theorem withinUnit_iff (x : Single) : withinUnit x = true ↔ x.InUnit := by
  cases x with
  | nan => exact iff_of_false nofun (by simp [InUnit, rational?])
  | infinite negative =>
    refine iff_of_false ?_ (by simp [InUnit, rational?])
    cases negative <;> decide +kernel
  | finite negative quanta held =>
    rw [withinUnit, Bool.and_eq_true, le_iff_rational (rational?_zero false) rfl,
      le_iff_rational rfl rational?_one]
    simp [InUnit, rational?]

example : (.infinite false : Single).IsPositive ∧ ¬ (.zero false : Single).IsPositive ∧
    ¬ (.nan : Single).IsPositive ∧ (.zero true : Single).InUnit ∧ ¬ (.nan : Single).InUnit := by
  decide +kernel

end Parameters

namespace Settings

/-- Settings lack a flaw: the locale has a letter that is not blank, there is a speed, and so on. -/
def Lacks (c : Settings) : Flaw → Prop
  | .emptyLocale => ∃ letter ∈ c.engine.locale.toList, isBlank letter = false
  | .noSpeed => c.engine.wordsPerMinute ≠ 0
  | .noCapacity => c.engine.queueCapacity ≠ 0
  | .speech .rate => c.speech.rate.IsPositive
  | .speech .pitch => c.speech.pitch.IsPositive
  | .speech .volume => c.speech.volume.InUnit

instance (c : Settings) : (flaw : Flaw) → Decidable (c.Lacks flaw)
  | .emptyLocale =>
    decidable_of_iff (c.engine.locale.toList.any fun letter => !isBlank letter) (by simp [Lacks])
  | .noSpeed => inferInstanceAs (Decidable (c.engine.wordsPerMinute ≠ 0))
  | .noCapacity => inferInstanceAs (Decidable (c.engine.queueCapacity ≠ 0))
  | .speech .rate => inferInstanceAs (Decidable c.speech.rate.IsPositive)
  | .speech .pitch => inferInstanceAs (Decidable c.speech.pitch.IsPositive)
  | .speech .volume => inferInstanceAs (Decidable c.speech.volume.InUnit)

/-- All flaws, in the order in which they are named. -/
def Flaw.all : List Flaw :=
  [.emptyLocale, .noSpeed, .noCapacity, .speech .rate, .speech .pitch, .speech .volume]

theorem Flaw.mem_all (flaw : Flaw) : flaw ∈ all := by
  rcases flaw with _ | _ | _ | (_ | _ | _) <;> decide

/-- The settings have the flaw and none of those that come before it. -/
def FirstFlaw (c : Settings) (flaw : Flaw) : Prop :=
  ¬ c.Lacks flaw ∧
    ∃ before after, Flaw.all = before ++ flaw :: after ∧ ∀ earlier ∈ before, c.Lacks earlier

/-! ## Looking for a flaw -/

/-- The first of some flaws that the settings have. -/
def firstOf? (c : Settings) (flaws : List Flaw) : Option Flaw :=
  flaws.find? fun flaw => ¬ c.Lacks flaw

theorem firstOf?_nil (c : Settings) : c.firstOf? [] = none := rfl

theorem firstOf?_cons (c : Settings) (flaw : Flaw) (rest : List Flaw) :
    c.firstOf? (flaw :: rest) = if ¬ c.Lacks flaw then some flaw else c.firstOf? rest := by
  by_cases lacks : c.Lacks flaw <;> simp [firstOf?, lacks]

theorem emptyLocale_iff (c : Settings) :
    (trim c.engine.locale.toList).isEmpty = true ↔ ¬ c.Lacks .emptyLocale := by
  rw [List.isEmpty_iff, trim_eq_nil_iff]
  simp [Lacks]

theorem speech_flaw? (c : Settings) : c.speech.flaw?.map Flaw.speech =
    c.firstOf? [.speech .rate, .speech .pitch, .speech .volume] := by
  simp only [firstOf?_cons, firstOf?_nil, Lacks, ← Parameters.positive_iff,
    ← Parameters.withinUnit_iff, Parameters.flaw?]
  cases Parameters.positive c.speech.rate with
  | false => rfl
  | true =>
    cases Parameters.positive c.speech.pitch with
    | false => rfl
    | true => cases Parameters.withinUnit c.speech.volume <;> rfl

/-- What is found is the first of all flaws. -/
theorem flaw?_eq_firstOf? (c : Settings) : c.flaw? = c.firstOf? Flaw.all := by
  rw [Flaw.all, firstOf?_cons, firstOf?_cons, firstOf?_cons, ← speech_flaw?, flaw?]
  refine if_congr c.emptyLocale_iff rfl (if_congr ?_ rfl (if_congr ?_ rfl rfl))
  · exact not_not.symm
  · exact not_not.symm

theorem flaw?_eq_none_iff {c : Settings} : c.flaw? = none ↔ ∀ flaw, c.Lacks flaw := by
  rw [flaw?_eq_firstOf?, firstOf?, List.find?_eq_none]
  simp [Flaw.mem_all]

theorem flaw?_eq_some_iff {c : Settings} {flaw : Flaw} :
    c.flaw? = some flaw ↔ c.FirstFlaw flaw := by
  rw [flaw?_eq_firstOf?, firstOf?, List.find?_eq_some_iff_append]
  simp [FirstFlaw]

/-! ## What loading says -/

variable {folder : Folder} {path : Option String} {environment : List (String × String)} {t : Tree}
  {c d : Settings}

/-- The wording of a refusal tells the flaw. -/
theorem message_invalid_injective :
    Function.Injective fun flaw => (Fault.invalid flaw).message := by
  have distinct : (Flaw.all.map fun flaw => (Fault.invalid flaw).message).Nodup := by decide
  exact fun first second same =>
    List.inj_on_of_nodup_map distinct first.mem_all second.mem_all same

/-- What becomes of settings that have been read. -/
structure Judged (c : Settings) (outcome : Except Fault Settings) : Prop where
  /-- They are accepted as they are, or a flaw is named. -/
  decided : outcome = .ok c ∨ ∃ flaw, outcome = .error (.invalid flaw)
  accepted_iff : outcome = .ok c ↔ ∀ flaw, c.Lacks flaw
  refused_iff : ∀ flaw, outcome = .error (.invalid flaw) ↔ c.FirstFlaw flaw
  /-- The wording of a refusal is that of the first flaw and of no other one. -/
  worded_iff : ∀ fault, outcome = .error fault →
    ∀ flaw, fault.message = (Fault.invalid flaw).message ↔ c.FirstFlaw flaw

/-- The settings are the same in all that is looked at; supported languages, the delay of the start
and the log may differ. -/
structure AgreesWith (c d : Settings) : Prop where
  locale : c.engine.locale = d.engine.locale
  speed : c.engine.wordsPerMinute = d.engine.wordsPerMinute
  capacity : c.engine.queueCapacity = d.engine.queueCapacity
  speech : c.speech = d.speech

theorem AgreesWith.lacks_iff (agrees : c.AgreesWith d) (flaw : Flaw) :
    c.Lacks flaw ↔ d.Lacks flaw := by
  obtain ⟨locale, speed, capacity, speech⟩ := agrees
  rcases flaw with _ | _ | _ | (_ | _ | _) <;> simp only [Lacks, locale, speed, capacity, speech]

theorem AgreesWith.firstFlaw_iff (agrees : c.AgreesWith d) (flaw : Flaw) :
    c.FirstFlaw flaw ↔ d.FirstFlaw flaw := by
  simp only [FirstFlaw, agrees.lacks_iff]

theorem checked_eq_ok_iff : c.checked = .ok c ↔ ∀ flaw, c.Lacks flaw := by
  rw [← flaw?_eq_none_iff]
  cases found : c.flaw? <;> simp [checked, found]

theorem checked_eq_error_iff {fault : Fault} :
    c.checked = .error fault ↔ ∃ flaw, fault = .invalid flaw ∧ c.FirstFlaw flaw := by
  simp only [← flaw?_eq_some_iff]
  cases found : c.flaw? <;> simp [checked, found, eq_comm]

/-- There is only one first flaw. -/
theorem FirstFlaw.unique {first second : Flaw} (left : c.FirstFlaw first)
    (right : c.FirstFlaw second) : first = second := by
  rw [← flaw?_eq_some_iff] at left right
  exact Option.some.inj (left.symm.trans right)

theorem checked_judged (c : Settings) : Judged c c.checked where
  decided := by
    cases found : c.flaw? with
    | none => exact .inl (checked_eq_ok_iff.mpr (flaw?_eq_none_iff.mp found))
    | some flaw =>
      exact .inr ⟨flaw, checked_eq_error_iff.mpr ⟨flaw, rfl, flaw?_eq_some_iff.mp found⟩⟩
  accepted_iff := checked_eq_ok_iff
  refused_iff flaw := by simp [checked_eq_error_iff]
  worded_iff fault failed flaw := by
    obtain ⟨named, rfl, first⟩ := checked_eq_error_iff.mp failed
    rw [message_invalid_injective.eq_iff]
    constructor
    · rintro rfl
      exact first
    · exact first.unique

/-- What has been read can be computed. -/
theorem exists_sources (read : (sources folder path environment).toOption.bind ofTree? = some c) :
    ∃ t, sources folder path environment = .ok t ∧ ofTree? t = some c := by
  cases merged : sources folder path environment with
  | error fault => simp [merged, Except.toOption] at read
  | ok t => exact ⟨t, rfl, by simpa [merged, Except.toOption] using read⟩

/-- Settings that have been read are accepted just if they lack every flaw: a locale that is more
than blanks, a speed, a capacity, a positive rate and pitch and a volume from zero to one. Otherwise
the first flaw that they have is named, whatever else is in them. Nothing but these six matters. -/
theorem load_judges (merged : sources folder path environment = .ok t)
    (read : ofTree? t = some c) :
    Judged c (load folder path environment) ∧
      ∀ other path' environment' t' d, sources other path' environment' = .ok t' →
        ofTree? t' = some d → c.AgreesWith d → ∀ flaw,
          (load other path' environment' = .error (.invalid flaw) ↔
            load folder path environment = .error (.invalid flaw)) := by
  have judged : Judged c (load folder path environment) := by
    rw [load_of_ofTree? merged read]
    exact c.checked_judged
  refine ⟨judged, ?_⟩
  intro other path' environment' t' d merged' read' agrees flaw
  rw [judged.refused_iff, agrees.firstFlaw_iff, load_of_ofTree? merged' read',
    d.checked_judged.refused_iff]

/-- Of two flaws the first one is named, also where the log is another one; an infinite rate and a
volume of negative zero are no flaws. -/
theorem load_judges_of_three :
    let flawed := [("VOXQUEUE_ENGINE__QUEUE_CAPACITY", "0"), ("VOXQUEUE_SPEECH__RATE", "nan")]
    let quiet := ("VOXQUEUE_LOG__LEVEL", "")
    let sound := [("VOXQUEUE_SPEECH__RATE", "inf"), ("VOXQUEUE_SPEECH__VOLUME", "-0.0")]
    let c : Settings :=
      ⟨{ defaultEngine with queueCapacity := 0 }, { Parameters.default with rate := .nan }, defaultLog⟩
    let d : Settings := { c with log := { defaultLog with level := "" } }
    let e : Settings := { default with speech := ⟨.infinite false, .ofNat 1, .zero true⟩ }
    (∃ t, sources [] none flawed = .ok t ∧ ofTree? t = some c) ∧
      (∃ t, sources [] none (quiet :: flawed) = .ok t ∧ ofTree? t = some d) ∧
      (∃ t, sources [] none sound = .ok t ∧ ofTree? t = some e) ∧
      c.AgreesWith d ∧
      load [] none flawed = .error (.invalid .noCapacity) ∧
      load [] none (quiet :: flawed) = .error (.invalid .noCapacity) ∧
      load [] none sound = .ok e := by
  intro flawed quiet sound c d e
  have reads : (sources [] none flawed).toOption.bind ofTree? = some c ∧
      (sources [] none (quiet :: flawed)).toOption.bind ofTree? = some d ∧
      (sources [] none sound).toOption.bind ofTree? = some e := by
    decide +kernel
  obtain ⟨t, merged, read⟩ := exists_sources reads.1
  obtain ⟨t', merged', read'⟩ := exists_sources reads.2.1
  obtain ⟨u, whole, known⟩ := exists_sources reads.2.2
  obtain ⟨judged, alike⟩ := load_judges merged read
  have agrees : c.AgreesWith d := ⟨rfl, rfl, rfl, rfl⟩
  have first : c.FirstFlaw .noCapacity :=
    ⟨by decide, [.emptyLocale, .noSpeed], _, rfl, by decide +kernel⟩
  have refused := (judged.refused_iff _).mpr first
  have lacking : ∀ flaw ∈ Flaw.all, e.Lacks flaw := by decide +kernel
  refine ⟨⟨t, merged, read⟩, ⟨t', merged', read'⟩, ⟨u, whole, known⟩, agrees, refused, ?_, ?_⟩
  · exact (alike _ _ _ _ _ merged' read' agrees _).mpr refused
  · exact (load_judges whole known).1.accepted_iff.mpr fun flaw => lacking flaw flaw.mem_all

end Settings

end SpeechQueue
