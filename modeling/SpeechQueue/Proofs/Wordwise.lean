import SpeechQueue.Proofs.Resolution

/-! # Resolving word by word

No keyword has a blank in it. So an occurrence of one never reaches over a blank, and neither does
an occurrence of a longer keyword that could hide it: a cue is given in a text exactly when one of
its words alone gives it. Main statement: `resolve_wordwise`, nothing but the words of a text decides
what it sets. -/

namespace SpeechQueue

variable {keyword longer before after : List Char} {gap : Char} {position : Nat}

/-! ## Occurrences and blanks -/

/-- What has no blank in it and begins before a blank also ends before it. -/
theorem prefix_append_blank_iff (free : BlankFree keyword) (blank : isBlank gap = true) :
    keyword <+: before ++ gap :: after ↔ keyword <+: before := by
  constructor
  · intro leading
    by_cases short : keyword.length ≤ before.length
    · exact List.prefix_of_prefix_length_le leading (List.prefix_append _ _) short
    · have through : before ++ [gap] <+: before ++ gap :: after :=
        ⟨after, by rw [List.append_assoc, List.singleton_append]⟩
      have covered : before ++ [gap] <+: keyword := by
        refine List.prefix_of_prefix_length_le through leading ?_
        rw [List.length_append, List.length_singleton]
        omega
      have member : gap ∈ keyword :=
        covered.subset (List.mem_append_right before (List.mem_singleton_self gap))
      rw [free gap member] at blank
      cases blank
  · intro leading
    exact leading.trans (List.prefix_append _ _)

/-- An occurrence lies before the blank or after it. -/
theorem occursAt_append_blank_iff (free : BlankFree keyword) (nonempty : keyword ≠ [])
    (blank : isBlank gap = true) :
    OccursAt keyword (before ++ gap :: after) position ↔
      OccursAt keyword before position ∨
        ∃ later, position = before.length + 1 + later ∧ OccursAt keyword after later := by
  by_cases early : position ≤ before.length
  · have left : OccursAt keyword (before ++ gap :: after) position ↔
        OccursAt keyword before position := by
      rw [OccursAt, List.drop_append_of_le_length early]
      exact prefix_append_blank_iff free blank
    rw [left]
    refine (or_iff_left ?_).symm
    rintro ⟨later, rfl, -⟩
    omega
  · obtain ⟨later, rfl⟩ : ∃ later, position = before.length + 1 + later :=
      ⟨position - (before.length + 1), by omega⟩
    have right : OccursAt keyword (before ++ gap :: after) (before.length + 1 + later) ↔
        OccursAt keyword after later := by
      rw [OccursAt, Nat.add_assoc, List.drop_length_add_append, Nat.add_comm 1,
        List.drop_succ_cons, OccursAt]
    rw [right]
    constructor
    · exact fun occurs => .inr ⟨later, rfl, occurs⟩
    · rintro (occurs | ⟨other, same, occurs⟩)
      · exact absurd (occurs.lt_length nonempty) (by omega)
      · rwa [show later = other by omega]

/-- A keyword occurs where its text goes on with it, and it never begins at the end. -/
theorem occurs_iff {text : List Char} (nonempty : keyword ≠ []) :
    Occurs keyword text ↔ ∃ position, OccursAt keyword text position := by
  constructor
  · rintro ⟨position, -, occurs⟩
    exact ⟨position, occurs⟩
  · rintro ⟨position, occurs⟩
    exact ⟨position, occurs.lt_length nonempty, occurs⟩

/-- The bounds on the positions of an occurrence outside of a longer word are those of the text. -/
theorem occursOutside_iff {text : List Char} (nonempty : keyword ≠ [])
    (longerNonempty : longer ≠ []) :
    OccursOutside longer keyword text ↔ ∃ position, OccursAt keyword text position ∧
      ∀ first, OccursAt longer text first →
        ¬ (first ≤ position ∧ position + keyword.length ≤ first + longer.length) := by
  constructor
  · rintro ⟨position, -, occurs, exposed⟩
    exact ⟨position, occurs, fun first covering =>
      exposed first (covering.lt_length longerNonempty) covering⟩
  · rintro ⟨position, occurs, exposed⟩
    exact ⟨position, occurs.lt_length nonempty, occurs, fun first _ => exposed first⟩

theorem occurs_append_blank_iff (free : BlankFree keyword) (nonempty : keyword ≠ [])
    (blank : isBlank gap = true) :
    Occurs keyword (before ++ gap :: after) ↔ Occurs keyword before ∨ Occurs keyword after := by
  simp only [occurs_iff nonempty, occursAt_append_blank_iff free nonempty blank, exists_or]
  refine or_congr_right ?_
  constructor
  · rintro ⟨-, later, -, occurs⟩
    exact ⟨later, occurs⟩
  · rintro ⟨later, occurs⟩
    exact ⟨_, later, rfl, occurs⟩

/-- What hides an occurrence lies on the same side of the blank. -/
theorem occursOutside_append_blank_iff (free : BlankFree keyword) (nonempty : keyword ≠ [])
    (longerFree : BlankFree longer) (longerNonempty : longer ≠ []) (blank : isBlank gap = true) :
    OccursOutside longer keyword (before ++ gap :: after) ↔
      OccursOutside longer keyword before ∨ OccursOutside longer keyword after := by
  simp only [occursOutside_iff nonempty longerNonempty, occursAt_append_blank_iff free nonempty blank,
    occursAt_append_blank_iff longerFree longerNonempty blank]
  constructor
  · rintro ⟨position, occurs | ⟨later, rfl, occurs⟩, exposed⟩
    · exact .inl ⟨position, occurs, fun first covering => exposed first (.inl covering)⟩
    · refine .inr ⟨later, occurs, fun first covering covers => ?_⟩
      exact exposed _ (.inr ⟨first, rfl, covering⟩) (by omega)
  · rintro (⟨position, occurs, exposed⟩ | ⟨later, occurs, exposed⟩)
    · refine ⟨position, .inl occurs, ?_⟩
      rintro first (covering | ⟨other, rfl, -⟩) covers
      · exact exposed first covering covers
      · have inside := occurs.lt_length nonempty
        omega
    · refine ⟨_, .inr ⟨later, rfl, occurs⟩, ?_⟩
      rintro first (covering | ⟨other, rfl, covering⟩) covers
      · have inside := covering.bound longerNonempty
        omega
      · exact exposed other covering (by omega)

/-! ## Cues -/

/-- Every cue lies in no longer keyword, or else is the one that lies in `slowly`. -/
theorem cue_cases {cue : Cue} (member : cue ∈ cues) :
    shadowing cue.keyword.toList = [] ∨ cue.keyword = "low" := by
  simp only [cues, List.mem_cons, List.not_mem_nil, or_false] at member
  rcases member with rfl | rfl | rfl | rfl | rfl | rfl | rfl
  · exact .inl (by decide)
  · exact .inl (by decide)
  · exact .inl (by decide)
  · exact .inr rfl
  · exact .inl (by decide)
  · exact .inl (by decide)
  · exact .inl (by decide)

theorem cue_keyword {cue : Cue} (member : cue ∈ cues) :
    cue.keyword.toList ≠ [] ∧ BlankFree cue.keyword.toList := by
  simp only [cues, List.mem_cons, List.not_mem_nil, or_false] at member
  rcases member with rfl | rfl | rfl | rfl | rfl | rfl | rfl <;> decide

/-- A cue is given on one side of a blank, or not at all. -/
theorem isCued_append_blank_iff {cue : Cue} (member : cue ∈ cues) (before after : List Char)
    (blank : isBlank gap = true) :
    isCued (before ++ gap :: after) cue.keyword.toList = true ↔
      isCued before cue.keyword.toList = true ∨ isCued after cue.keyword.toList = true := by
  obtain ⟨nonempty, free⟩ := cue_keyword member
  rcases cue_cases member with alone | low
  · simp only [isCued_iff_occurs alone nonempty]
    exact occurs_append_blank_iff free nonempty blank
  · rw [low]
    simp only [isCued_low_iff]
    exact occursOutside_append_blank_iff (by decide) (by decide) (by decide) (by decide) blank

/-- What holds of a text exactly when it holds before or after any of its blanks holds exactly when
it holds of a word. -/
theorem iff_exists_word (holds : List Char → Prop) (empty : ¬ holds [])
    (cut : ∀ before gap after, isBlank gap = true →
      (holds (before ++ gap :: after) ↔ holds before ∨ holds after)) (text : List Char) :
    holds text ↔ ∃ word ∈ words text, holds word := by
  by_cases free : BlankFree text
  · by_cases nonempty : text = []
    · subst nonempty
      simpa [words] using empty
    · simp [words_of_blankFree free nonempty]
  · obtain ⟨gap, member, blank⟩ : ∃ gap ∈ text, isBlank gap = true := by
      simpa [BlankFree] using free
    obtain ⟨before, after, rfl⟩ := List.append_of_mem member
    -- Both sides of a blank are shorter texts.
    rw [cut before gap after blank, iff_exists_word holds empty cut before,
      iff_exists_word holds empty cut after, words_append_blank before after blank]
    simp only [List.mem_append, or_and_right, exists_or]
termination_by text.length

/-- A cue is given in a text exactly when one of its words alone gives it. -/
theorem isCued_iff_exists_word {cue : Cue} (member : cue ∈ cues) (text : List Char) :
    isCued text cue.keyword.toList = true ↔
      ∃ word ∈ words text, isCued word cue.keyword.toList = true := by
  refine iff_exists_word (fun text => isCued text cue.keyword.toList = true) ?_ ?_ text
  · simp [isCued, found, successive]
  · exact fun before gap after blank => isCued_append_blank_iff member before after blank

/-! ## Resolution -/

namespace Resolved

/-- Two texts set the same and by the same directives. -/
structure Agrees (r s : Resolved) : Prop where
  parameters : r.parameters = s.parameters
  applied : r.applied = s.applied

theorem Agrees.dial {r s : Resolved} (agrees : r.Agrees s) (words : List (List Char)) (d : Dial) :
    (r.dial words d).Agrees (s.dial words d) := by
  unfold Resolved.dial
  split
  · exact ⟨by rw [agrees.parameters], by rw [agrees.applied]⟩
  · exact agrees

theorem Agrees.cue {r s : Resolved} (agrees : r.Agrees s) {text other : List Char} {c : Cue}
    (same : isCued text c.keyword.toList = isCued other c.keyword.toList) :
    (r.cue text c).Agrees (s.cue other c) := by
  unfold Resolved.cue
  rw [same]
  split
  · exact ⟨by rw [agrees.parameters], by rw [agrees.applied]⟩
  · exact agrees

theorem foldl_dial_applied (words : List (List Char)) (dials : List Dial) (r : Resolved) :
    (dials.foldl (Resolved.dial words) r).applied = r.applied ++
      dials.filterMap fun d => (valueAfter? d.keyword.toList words).map d.report := by
  induction dials generalizing r with
  | nil => simp
  | cons d rest ih =>
    rw [List.foldl_cons, ih]
    cases value : valueAfter? d.keyword.toList words <;> simp [Resolved.dial, value]

theorem foldl_cue_applied (text : List Char) (cues : List Cue) (r : Resolved) :
    (cues.foldl (Resolved.cue text) r).applied = r.applied ++
      (cues.filter fun c => isCued text c.keyword.toList).map Cue.report := by
  induction cues generalizing r with
  | nil => simp
  | cons c rest ih =>
    rw [List.foldl_cons, ih]
    cases cued : isCued text c.keyword.toList <;> simp [Resolved.cue, cued]

end Resolved

/-- The dials that have a value take effect, and then the cues that are given. -/
theorem resolve_applied (text : String) (current : Parameters) :
    (resolve text current).applied =
      (dials.filterMap fun d =>
        (valueAfter? d.keyword.toList (words text.toList)).map d.report) ++
      (cues.filter fun c => isCued text.toList c.keyword.toList).map Cue.report := by
  simp only [resolve, Resolved.foldl_cue_applied, Resolved.foldl_dial_applied, List.nil_append]

/-- A dial reports the value that it is turned to. -/
theorem dial_report_value? : ∀ d ∈ dials, ∀ value, (d.report value).value? = some value := by
  simp [dials, Directive.value?]

/-- A dial reports its own keyword. -/
theorem dial_report_keyword : ∀ d ∈ dials, ∀ value, (d.report value).keyword = d.keyword := by
  simp [dials, Directive.keyword]

/-- A cue reports a directive without a value and with its own keyword. -/
theorem cue_report : ∀ cue ∈ cues,
    cue.report.value? = none ∧ cue.report.keyword = cue.keyword := by
  decide

/-- A cue is reported exactly when it is given. -/
theorem report_mem_applied_iff {cue : Cue} (member : cue ∈ cues) (text : String)
    (current : Parameters) :
    cue.report ∈ (resolve text current).applied ↔
      isCued text.toList cue.keyword.toList = true := by
  simp only [resolve_applied, List.mem_append, List.mem_filterMap, Option.map_eq_some_iff,
    List.mem_map, List.mem_filter]
  constructor
  · rintro (⟨d, dial, value, -, same⟩ | ⟨c, ⟨present, cued⟩, same⟩)
    · have turned := dial_report_value? d dial value
      rw [same, (cue_report cue member).1] at turned
      cases turned
    · rwa [← (cue_report cue member).2, ← same, (cue_report c present).2]
  · exact fun cued => .inr ⟨cue, ⟨member, cued⟩, rfl⟩

/-- Texts with the same words set the same. -/
theorem resolve_agrees {text other : String} (same : words text.toList = words other.toList)
    (current : Parameters) : (resolve text current).Agrees (resolve other current) := by
  unfold resolve
  dsimp only
  rw [same]
  refine List.foldl_rel (r := Resolved.Agrees) ?_ fun cue member r s agrees => agrees.cue ?_
  · exact List.foldl_rel (r := Resolved.Agrees) ⟨rfl, rfl⟩
      fun dial _ r s agrees => agrees.dial _ dial
  · rw [Bool.eq_iff_iff, isCued_iff_exists_word member, isCued_iff_exists_word member, same]

/-- Other blanks between two texts leave the words as they are, and so do more or fewer of them
unless the last one goes that keeps two words apart. -/
theorem words_other_blanks {before gap other after : List Char}
    (blank : ∀ c ∈ gap, isBlank c = true) (otherBlank : ∀ c ∈ other, isBlank c = true)
    (apart : gap ≠ [] ∧ other ≠ [] ∨ before = [] ∨ after = []) :
    words (before ++ gap ++ after) = words (before ++ other ++ after) := by
  rcases apart with ⟨nonempty, otherNonempty⟩ | rfl | rfl
  · rw [words_append_blanks_append before after blank nonempty,
      words_append_blanks_append before after otherBlank otherNonempty]
  · rw [List.nil_append, List.nil_append, words_blanks_append blank, words_blanks_append otherBlank]
  · rw [List.append_nil, List.append_nil, words_append_blanks before blank,
      words_append_blanks before otherBlank]

/-- Nothing but its words decides what a text sets: texts with the same words agree, a cue takes
effect exactly when one of the words alone gives it, and trimming or other blanks between, before or
after words change nothing. -/
theorem resolve_wordwise (current : Parameters) :
    (∀ text other : String, words text.toList = words other.toList →
      (resolve text current).Agrees (resolve other current)) ∧
    (∀ cue ∈ cues, ∀ text : String, cue.report ∈ (resolve text current).applied ↔
      ∃ word ∈ words text.toList, cue.report ∈ (resolve (String.ofList word) current).applied) ∧
    (∀ text : String,
      (resolve (String.ofList (trim text.toList)) current).Agrees (resolve text current)) ∧
    (∀ before gap other after : List Char, (∀ c ∈ gap, isBlank c = true) →
      (∀ c ∈ other, isBlank c = true) → gap ≠ [] ∧ other ≠ [] ∨ before = [] ∨ after = [] →
      (resolve (String.ofList (before ++ gap ++ after)) current).Agrees
        (resolve (String.ofList (before ++ other ++ after)) current)) := by
  refine ⟨fun text other same => resolve_agrees same current, ?_, ?_, ?_⟩
  · intro cue member text
    simp only [report_mem_applied_iff member, String.toList_ofList]
    exact isCued_iff_exists_word member text.toList
  · intro text
    refine resolve_agrees ?_ current
    rw [String.toList_ofList, words_trim]
  · intro before gap other after blank otherBlank apart
    refine resolve_agrees ?_ current
    rw [String.toList_ofList, String.toList_ofList, words_other_blanks blank otherBlank apart]

/-- An ideographic space and a tabulator keep two words apart as any other blank does, and the second
word is low although the first one is slow. -/
theorem resolve_wordwise_of_tab :
    words "slowly\u3000\tlow".toList = words " slowly low\n".toList ∧
      (resolve "slowly\u3000\tlow" .default).Agrees (resolve " slowly low\n" .default) ∧
      (Directive.low ∈ (resolve "slowly\u3000\tlow" .default).applied ↔
        ∃ word ∈ words "slowly\u3000\tlow".toList,
          Directive.low ∈ (resolve (String.ofList word) .default).applied) ∧
      (resolve (String.ofList ("slowly".toList ++ ['\u3000', '\t'] ++ "low".toList)) .default).Agrees
        (resolve (String.ofList ("slowly".toList ++ [' '] ++ "low".toList)) .default) := by
  have same : words "slowly\u3000\tlow".toList = words " slowly low\n".toList := by decide
  obtain ⟨agree, wordwise, -, gaps⟩ := resolve_wordwise .default
  refine ⟨same, agree _ _ same, ?_, ?_⟩
  · exact wordwise ⟨"low", .low, fun p => { p with pitch := .ofRatio false 1 2 }⟩ (by simp [cues]) _
  · exact gaps _ _ _ _ (List.all_eq_true.mp rfl) (List.all_eq_true.mp rfl) (.inl (by decide))

end SpeechQueue
