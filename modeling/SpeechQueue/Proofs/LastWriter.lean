import Mathlib.Data.List.Induction
import SpeechQueue.Proofs.Resolution

/-! # The last text that sets a value

A text sets rate, pitch or volume to a value of its own, or leaves it as it is; which of the two, and
to what value, is in the text alone. So over any list of texts each of the three ends with the value
of the last text that sets it: `last_setting_wins`. -/

namespace SpeechQueue

/-- One of the three values of the parameters. -/
inductive Parameters.Field where
  | rate
  | pitch
  | volume
deriving DecidableEq, Repr

namespace Parameters.Field

/-- The value of some parameters in a field. -/
def of : Field → Parameters → Single
  | .rate => Parameters.rate
  | .pitch => Parameters.pitch
  | .volume => Parameters.volume

/-- The text sets the field to a value, whatever the parameters were. -/
def Sets (field : Field) (text : String) (value : Single) : Prop :=
  ∀ start, field.of (resolveParameters text start) = value

/-- The text leaves the field as it was. -/
def Spares (field : Field) (text : String) : Prop :=
  ∀ start, field.of (resolveParameters text start) = field.of start

/-- The value that a text has for a field, if it has one. -/
def setting? (text : List Char) : Field → Option Single
  | .rate =>
    if Occurs "slowly".toList text then some (.ofRatio false 1 2)
    else if Occurs "quickly".toList text then some (.ofNat 3)
    else if Occurs "normal".toList text then some (.ofNat 1)
    else dialled? "speed".toList text
  | .pitch =>
    if Occurs "high".toList text then some (.ofNat 3)
    else if OccursOutside "slowly".toList "low".toList text then some (.ofRatio false 1 2)
    else if Occurs "normal".toList text then some (.ofNat 1)
    else dialled? "pitch".toList text
  | .volume =>
    if Occurs "loud".toList text then some (.ofNat 1)
    else if Occurs "soft".toList text then some (.ofRatio false 1 10)
    else if Occurs "normal".toList text then some (.ofRatio false 1 2)
    else dialled? "toot".toList text

/-- Parameters that agree in every field are the same. -/
theorem eq_of_fields {p q : Parameters} (same : ∀ field : Field, field.of p = field.of q) :
    p = q := by
  obtain ⟨rate, pitch, volume⟩ := p
  have rates := same .rate
  have pitches := same .pitch
  have volumes := same .volume
  simp only [of] at rates pitches volumes
  rw [rates, pitches, volumes]

/-- No field has the same value in all parameters. -/
theorem exists_ne (field : Field) : ∃ p q, field.of p ≠ field.of q := by
  refine ⟨⟨.nan, .nan, .nan⟩, ⟨.infinite false, .infinite false, .infinite false⟩, ?_⟩
  intro same
  cases field <;> cases same

/-- The value of a text comes before the one there was. -/
theorem of_resolveParameters (field : Field) (text : String) (current : Parameters) :
    field.of (resolveParameters text current) =
      (field.setting? text.toList).getD (field.of current) := by
  cases field with
  | rate =>
    simp only [of, resolveParameters, resolve_rate, fieldwiseRate, setting?]
    split_ifs <;> simp only [Option.getD_some]
  | pitch =>
    simp only [of, resolveParameters, resolve_pitch, fieldwisePitch, setting?]
    split_ifs <;> simp only [Option.getD_some]
  | volume =>
    simp only [of, resolveParameters, resolve_volume, fieldwiseVolume, setting?]
    split_ifs <;> simp only [Option.getD_some]

variable {field : Field} {text : String} {value : Single}

theorem sets_iff : field.Sets text value ↔ field.setting? text.toList = some value := by
  constructor
  · intro sets
    cases known : field.setting? text.toList with
    | none =>
      -- A text without a value cannot give two different starts the same one.
      obtain ⟨p, q, differ⟩ := field.exists_ne
      have first := sets p
      have second := sets q
      rw [of_resolveParameters, known, Option.getD_none] at first second
      exact absurd (first.trans second.symm) differ
    | some other =>
      have same := sets .default
      rw [of_resolveParameters, known, Option.getD_some] at same
      rw [same]
  · intro known start
    rw [of_resolveParameters, known, Option.getD_some]

theorem spares_iff : field.Spares text ↔ field.setting? text.toList = none := by
  constructor
  · intro spares
    refine Option.eq_none_iff_forall_ne_some.mpr fun value known => ?_
    obtain ⟨p, q, differ⟩ := field.exists_ne
    have sets := sets_iff.mpr known
    have same : field.of p = field.of q := by
      rw [← spares p, ← spares q, sets p, sets q]
    exact differ same
  · intro known start
    rw [of_resolveParameters, known, Option.getD_none]

/-- A text leaves a field alone or sets it to one value, and never both. -/
theorem spares_xor_sets (field : Field) (text : String) :
    Xor (field.Spares text) (∃! value, field.Sets text value) := by
  cases known : field.setting? text.toList with
  | none =>
    refine .inl ⟨spares_iff.mpr known, ?_⟩
    rintro ⟨value, sets, -⟩
    rw [sets_iff, known] at sets
    cases sets
  | some value =>
    refine .inr ⟨⟨value, sets_iff.mpr known, fun other sets => ?_⟩, fun spares => ?_⟩
    · exact (Option.some.inj ((sets_iff.mp sets).symm.trans known))
    · rw [spares_iff, known] at spares
      cases spares

end Parameters.Field

/-- Resolving a text again changes nothing more. -/
theorem resolveParameters_again (text : String) (current : Parameters) :
    resolveParameters text (resolveParameters text current) = resolveParameters text current := by
  apply Parameters.Field.eq_of_fields
  intro field
  rw [field.of_resolveParameters, field.of_resolveParameters]
  cases field.setting? text.toList <;> rfl

/-! ## Texts in turn -/

/-- The parameters that texts lead to in the end. -/
def finalParameters (texts : List String) (start : Parameters) : Parameters :=
  (resolveAll texts start).getLast?.getD start

theorem finalParameters_cons (text : String) (rest : List String) (start : Parameters) :
    finalParameters (text :: rest) start =
      finalParameters rest (resolveParameters text start) := by
  rw [finalParameters, resolveAll, List.getLast?_cons, Option.getD_some]
  rfl

/-- The last text is resolved against what the others lead to. -/
theorem finalParameters_snoc (texts : List String) (text : String) (start : Parameters) :
    finalParameters (texts ++ [text]) start =
      resolveParameters text (finalParameters texts start) := by
  induction texts generalizing start with
  | nil => rfl
  | cons first rest ih => rw [List.cons_append, finalParameters_cons, ih, finalParameters_cons]

/-- What texts in turn leave in a field: what there was, if none sets it, and else what the last
text says that does. -/
inductive Parameters.Field.Ends (field : Field) (start : Parameters) :
    List String → Single → Prop
  | spared {texts : List String} : (∀ text ∈ texts, field.Spares text) →
      Ends field start texts (field.of start)
  | written {before after : List String} {text : String} {value : Single} :
      field.Sets text value → (∀ later ∈ after, field.Spares later) →
      Ends field start (before ++ text :: after) value

/-- A text that leaves the field alone changes nothing at the end. -/
theorem Parameters.Field.Ends.snoc {field : Field} {start : Parameters} {texts : List String}
    {value : Single} {text : String} (ends : field.Ends start texts value)
    (spares : field.Spares text) : field.Ends start (texts ++ [text]) value := by
  have spared {some : List String} (all : ∀ other ∈ some, field.Spares other) :
      ∀ other ∈ some ++ [text], field.Spares other := by
    intro other member
    rcases List.mem_append.mp member with earlier | last
    · exact all other earlier
    · exact List.mem_singleton.mp last ▸ spares
  cases ends with
  | spared all => exact .spared (spared all)
  | @written before after writer value sets later =>
    rw [List.append_assoc, List.cons_append]
    exact .written sets (spared later)

/-- Whatever texts are resolved in turn, and from whatever start, each field ends with what the last
text that sets it gives it alone. Whether a text does so is in the text, and once is enough. -/
theorem last_setting_wins (texts : List String) (start : Parameters) :
    (∀ field : Parameters.Field, field.Ends start texts (field.of (finalParameters texts start))) ∧
    (∀ (field : Parameters.Field) (text : String),
      Xor (field.Spares text) (∃! value, field.Sets text value)) ∧
    ∀ (text : String) (current : Parameters),
      resolveParameters text (resolveParameters text current) =
        resolveParameters text current := by
  refine ⟨?_, Parameters.Field.spares_xor_sets, resolveParameters_again⟩
  intro field
  induction texts using List.reverseRecOn with
  | nil => exact .spared (by simp)
  | append_singleton texts text ih =>
    rw [finalParameters_snoc]
    rcases field.spares_xor_sets text with ⟨spares, -⟩ | ⟨⟨value, sets, -⟩, -⟩
    · rw [spares]
      exact ih.snoc spares
    · rw [sets]
      exact .written sets (by simp)

/-- The second text has the last rate, and the third one pitch and volume. -/
example : finalParameters ["speak slowly", "speed 2 now", "soft and high", "no more"] .default =
    ⟨.ofNat 2, .ofNat 3, .ofRatio false 1 10⟩ := by
  decide +kernel

end SpeechQueue
