import SpeechQueue.Proofs.Occurrence
import SpeechQueue.Proofs.Words

/-! # Resolution field by field

Resolving goes through two tables and changes whole sets of parameters on the way. Main statement:
`resolve_eq_fieldwise`, what comes out of it is given for rate, pitch and volume apart, by the order
in which the keywords of each take precedence. The text is handed on as it is. -/

namespace SpeechQueue

/-- The value that the run after the first one equal to `keyword` reads as. -/
def dialled? (keyword text : List Char) : Option Single :=
  (((runs text).dropWhile (· ≠ keyword))[1]?).bind Binary.read?

/-- The rate after a text: slow wins over quick, both over normal, and all over a number. -/
def fieldwiseRate (text : List Char) (current : Single) : Single :=
  if Occurs "slowly".toList text then .ofRatio false 1 2
  else if Occurs "quickly".toList text then .ofNat 3
  else if Occurs "normal".toList text then .ofNat 1
  else (dialled? "speed".toList text).getD current

/-- The pitch after a text. What is low in `slowly` is not the pitch. -/
def fieldwisePitch (text : List Char) (current : Single) : Single :=
  if Occurs "high".toList text then .ofNat 3
  else if OccursOutside "slowly".toList "low".toList text then .ofRatio false 1 2
  else if Occurs "normal".toList text then .ofNat 1
  else (dialled? "pitch".toList text).getD current

/-- The volume after a text. -/
def fieldwiseVolume (text : List Char) (current : Single) : Single :=
  if Occurs "loud".toList text then .ofNat 1
  else if Occurs "soft".toList text then .ofRatio false 1 10
  else if Occurs "normal".toList text then .ofRatio false 1 2
  else (dialled? "toot".toList text).getD current

/-- The parameters after a text, each on its own. -/
def fieldwise (text : List Char) (current : Parameters) : Parameters where
  rate := fieldwiseRate text current.rate
  pitch := fieldwisePitch text current.pitch
  volume := fieldwiseVolume text current.volume

theorem wordAfter?_eq (keyword : List Char) (words : List (List Char)) :
    wordAfter? keyword words = (words.dropWhile (· ≠ keyword))[1]? := by
  induction words with
  | nil => rfl
  | cons word rest ih =>
    by_cases same : word = keyword
    · simp [wordAfter?, same, List.head?_eq_getElem?]
    · simp [wordAfter?, same, ih]

theorem valueAfter?_words (keyword text : List Char) :
    valueAfter? keyword (words text) = dialled? keyword text := by
  rw [valueAfter?, wordAfter?_eq, words_eq_runs, dialled?]

namespace Resolved

@[simp] theorem dial_text (r : Resolved) (words : List (List Char)) (d : Dial) :
    (r.dial words d).text = r.text := by
  unfold dial
  split <;> rfl

@[simp] theorem cue_text (r : Resolved) (chars : List Char) (c : Cue) :
    (r.cue chars c).text = r.text := by
  unfold cue
  split <;> rfl

/-- A dial changes a field to what the value it is turned to makes of it, if there is a value. -/
theorem dial_field {α : Type} (field : Parameters → α) (r : Resolved)
    (words : List (List Char)) (d : Dial) : field (r.dial words d).parameters =
      (valueAfter? d.keyword.toList words).elim (field r.parameters)
        fun v => field (d.turn v r.parameters) := by
  unfold dial
  cases valueAfter? d.keyword.toList words <;> rfl

/-- A cue changes a field if it is given. -/
theorem cue_field {α : Type} (field : Parameters → α) (r : Resolved)
    (chars : List Char) (c : Cue) : field (r.cue chars c).parameters =
      if isCued chars c.keyword.toList then field (c.apply r.parameters)
      else field r.parameters := by
  unfold cue
  split <;> rfl

end Resolved

private theorem elim_same {α β : Type} (o : Option α) (b : β) : (o.elim b fun _ => b) = b := by
  cases o <;> rfl

private theorem elim_self {α : Type} (o : Option α) (a : α) : (o.elim a fun v => v) = o.getD a := by
  cases o <;> rfl

variable (text : String) (current : Parameters)

theorem resolve_text : (resolve text current).text = text := by
  simp [resolve, dials, cues]

/-- Every cue but one lies in no longer keyword, so it is given wherever it occurs. -/
private theorem isCued_eq_decide (keyword : String) (alone : shadowing keyword.toList = [])
    (nonempty : keyword.toList ≠ []) :
    isCued text.toList keyword.toList = decide (Occurs keyword.toList text.toList) := by
  rw [Bool.eq_iff_iff, decide_eq_true_eq]
  exact isCued_iff_occurs alone nonempty

/-- What is low is hidden only by what is slow. -/
theorem isCued_low_iff (text : List Char) :
    isCued text "low".toList = true ↔ OccursOutside "slowly".toList "low".toList text :=
  isCued_iff_occursOutside (by decide) (by decide) (by decide) (by decide)

private theorem isCued_low :
    isCued text.toList "low".toList =
      decide (OccursOutside "slowly".toList "low".toList text.toList) := by
  rw [Bool.eq_iff_iff, decide_eq_true_eq]
  exact isCued_low_iff text.toList

theorem resolve_rate :
    (resolve text current).parameters.rate = fieldwiseRate text.toList current.rate := by
  have slowly := isCued_eq_decide text "slowly" (by decide) (by decide)
  have quickly := isCued_eq_decide text "quickly" (by decide) (by decide)
  have normal := isCued_eq_decide text "normal" (by decide) (by decide)
  simp only [resolve, dials, cues, List.foldl_cons, List.foldl_nil,
    Resolved.cue_field Parameters.rate, Resolved.dial_field Parameters.rate, ite_self,
    valueAfter?_words, elim_same, elim_self, slowly, quickly, normal, decide_eq_true_eq,
    Parameters.default, Parameters.defaultRate, fieldwiseRate]

theorem resolve_pitch :
    (resolve text current).parameters.pitch = fieldwisePitch text.toList current.pitch := by
  have high := isCued_eq_decide text "high" (by decide) (by decide)
  have normal := isCued_eq_decide text "normal" (by decide) (by decide)
  simp only [resolve, dials, cues, List.foldl_cons, List.foldl_nil,
    Resolved.cue_field Parameters.pitch, Resolved.dial_field Parameters.pitch, ite_self,
    valueAfter?_words, elim_same, elim_self, isCued_low, high, normal, decide_eq_true_eq,
    Parameters.default, Parameters.defaultPitch, fieldwisePitch]

theorem resolve_volume :
    (resolve text current).parameters.volume = fieldwiseVolume text.toList current.volume := by
  have loud := isCued_eq_decide text "loud" (by decide) (by decide)
  have soft := isCued_eq_decide text "soft" (by decide) (by decide)
  have normal := isCued_eq_decide text "normal" (by decide) (by decide)
  simp only [resolve, dials, cues, List.foldl_cons, List.foldl_nil,
    Resolved.cue_field Parameters.volume, Resolved.dial_field Parameters.volume, ite_self,
    valueAfter?_words, elim_same, elim_self, loud, soft, normal, decide_eq_true_eq,
    Parameters.default, Parameters.defaultVolume, fieldwiseVolume]

/-- Resolving keeps the text and gives each parameter what the keywords for it say. -/
theorem resolve_eq_fieldwise :
    (resolve text current).text = text ∧
      (resolve text current).parameters = fieldwise text.toList current := by
  refine ⟨resolve_text text current, ?_⟩
  calc (resolve text current).parameters
      = ⟨_, _, _⟩ := rfl
    _ = fieldwise text.toList current := by
      rw [resolve_rate, resolve_pitch, resolve_volume, fieldwise]

end SpeechQueue
