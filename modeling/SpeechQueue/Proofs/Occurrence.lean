import Mathlib.Data.List.Infix
import SpeechQueue.Directive.Resolve

/-! # Occurrences of a keyword

A keyword occurs at a position when the text goes on with it there, whatever stands at other
positions. The search behind `found` skips what its last match covers. It still finds something
whenever there is something to be found, and it finds every occurrence of a keyword that cannot
overlap itself, so nothing is lost in deciding whether a cue is given. -/

namespace SpeechQueue

variable {keyword longer text : List Char} {position : Nat}

/-- The text goes on with the keyword at a position. -/
def OccursAt (keyword text : List Char) (position : Nat) : Prop :=
  keyword <+: text.drop position

instance (keyword text : List Char) (position : Nat) :
    Decidable (OccursAt keyword text position) :=
  inferInstanceAs (Decidable (_ <+: _))

/-- The keyword occurs at some position of the text. -/
def Occurs (keyword text : List Char) : Prop :=
  ∃ position < text.length, OccursAt keyword text position

instance (keyword text : List Char) : Decidable (Occurs keyword text) :=
  inferInstanceAs (Decidable (∃ position < text.length, OccursAt keyword text position))

/-- Some occurrence of the keyword lies within no occurrence of the longer word. -/
def OccursOutside (longer keyword text : List Char) : Prop :=
  ∃ position < text.length, OccursAt keyword text position ∧
    ∀ first < text.length, OccursAt longer text first →
      ¬ (first ≤ position ∧ position + keyword.length ≤ first + longer.length)

instance (longer keyword text : List Char) : Decidable (OccursOutside longer keyword text) :=
  inferInstanceAs (Decidable (∃ position < text.length, OccursAt keyword text position ∧
    ∀ first < text.length, OccursAt longer text first →
      ¬ (first ≤ position ∧ position + keyword.length ≤ first + longer.length)))

/-- No proper ending of the keyword is also a beginning of it. -/
def Unbordered (keyword : List Char) : Prop :=
  ∀ shift < keyword.length, 0 < shift → ¬ keyword.drop shift <+: keyword

instance (keyword : List Char) : Decidable (Unbordered keyword) :=
  inferInstanceAs (Decidable (∀ shift < keyword.length, 0 < shift → ¬ keyword.drop shift <+: keyword))

theorem OccursAt.bound (occurs : OccursAt keyword text position) (nonempty : keyword ≠ []) :
    position + keyword.length ≤ text.length := by
  have length := occurs.length_le
  have positive := List.length_pos_iff.mpr nonempty
  rw [List.length_drop] at length
  omega

theorem OccursAt.lt_length (occurs : OccursAt keyword text position) (nonempty : keyword ≠ []) :
    position < text.length := by
  have bound := occurs.bound nonempty
  have positive := List.length_pos_iff.mpr nonempty
  omega

/-- Two occurrences of a keyword that cannot overlap itself do not overlap. -/
theorem OccursAt.apart {first second : Nat} (left : OccursAt keyword text first)
    (right : OccursAt keyword text second) (unbordered : Unbordered keyword)
    (before : first < second) : first + keyword.length ≤ second := by
  refine Nat.le_of_not_lt fun overlap => ?_
  have ending : keyword.drop (second - first) <+: text.drop second := by
    have shifted := List.IsPrefix.drop left (second - first)
    rwa [List.drop_drop, show first + (second - first) = second by omega] at shifted
  have shorter : (keyword.drop (second - first)).length ≤ keyword.length := by
    rw [List.length_drop]
    omega
  exact unbordered (second - first) (by omega) (by omega)
    (List.prefix_of_prefix_length_le ending right shorter)

/-- The search only reports occurrences, and none that begins within the last match. -/
theorem occursAt_of_mem_successive {start skip first : Nat}
    (member : start ∈ successive keyword first skip text) :
    ∃ position, start = first + position ∧ skip ≤ position ∧ OccursAt keyword text position := by
  induction text generalizing first skip with
  | nil => cases skip <;> simp [successive] at member
  | cons c rest ih =>
    cases skip with
    | succ skip =>
      obtain ⟨position, rfl, later, occurs⟩ := ih member
      exact ⟨position + 1, by omega, by omega, occurs⟩
    | zero =>
      rw [successive] at member
      split at member
      · next matched =>
        rcases List.mem_cons.mp member with rfl | member
        · exact ⟨0, rfl, Nat.le_refl 0, List.isPrefixOf_iff_prefix.mp matched⟩
        · obtain ⟨position, rfl, later, occurs⟩ := ih member
          exact ⟨position + 1, by omega, by omega, occurs⟩
      · obtain ⟨position, rfl, later, occurs⟩ := ih member
        exact ⟨position + 1, by omega, by omega, occurs⟩

/-- Of a keyword that cannot overlap itself, the search reports every occurrence. What it skips
after a match cannot be the beginning of another one. -/
theorem mem_successive_of_occursAt {skip first : Nat} (unbordered : Unbordered keyword)
    (nonempty : keyword ≠ []) (occurs : OccursAt keyword text position) (later : skip ≤ position) :
    first + position ∈ successive keyword first skip text := by
  induction text generalizing first skip position with
  | nil => exact absurd (occurs.lt_length nonempty) (Nat.not_lt_zero _)
  | cons c rest ih =>
    cases skip with
    | succ skip =>
      obtain ⟨position, rfl⟩ : ∃ earlier, position = earlier + 1 := ⟨position - 1, by omega⟩
      rw [show first + (position + 1) = first + 1 + position by omega]
      exact ih occurs (by omega)
    | zero =>
      rw [successive]
      cases position with
      | zero =>
        have matched : keyword.isPrefixOf (c :: rest) = true := List.isPrefixOf_iff_prefix.mpr occurs
        rw [if_pos matched]
        exact List.mem_cons_self
      | succ position =>
        rw [show first + (position + 1) = first + 1 + position by omega]
        split
        · next matched =>
          have head : OccursAt keyword (c :: rest) 0 := List.isPrefixOf_iff_prefix.mp matched
          have apart := head.apart occurs unbordered (Nat.succ_pos position)
          exact List.mem_cons_of_mem _ (ih occurs (by omega))
        · exact ih occurs (Nat.zero_le _)

/-- The first occurrence is never skipped. -/
theorem successive_ne_nil_of_occursAt {first : Nat} (nonempty : keyword ≠ [])
    (occurs : OccursAt keyword text position) : successive keyword first 0 text ≠ [] := by
  induction text generalizing first position with
  | nil => exact absurd (occurs.lt_length nonempty) (Nat.not_lt_zero _)
  | cons c rest ih =>
    rw [successive]
    split
    · exact List.cons_ne_nil _ _
    · next unmatched =>
      cases position with
      | zero => exact absurd (List.isPrefixOf_iff_prefix.mpr occurs) unmatched
      | succ position => exact ih occurs

theorem occursAt_of_mem_found {start : Nat} (member : start ∈ found keyword text) :
    OccursAt keyword text start := by
  obtain ⟨position, rfl, -, occurs⟩ := occursAt_of_mem_successive member
  simpa only [Nat.zero_add] using occurs

/-- The skipping search finds exactly the occurrences of a keyword that cannot overlap itself. -/
theorem mem_found_iff (unbordered : Unbordered keyword) (nonempty : keyword ≠ []) :
    position ∈ found keyword text ↔ OccursAt keyword text position := by
  constructor
  · exact occursAt_of_mem_found
  · intro occurs
    have member : 0 + position ∈ found keyword text :=
      mem_successive_of_occursAt unbordered nonempty occurs (Nat.zero_le _)
    rwa [Nat.zero_add] at member

/-- The skipping search finds something exactly when there is an occurrence. -/
theorem exists_mem_found_iff (nonempty : keyword ≠ []) :
    (∃ start, start ∈ found keyword text) ↔ Occurs keyword text := by
  constructor
  · rintro ⟨start, member⟩
    have occurs := occursAt_of_mem_found member
    exact ⟨start, occurs.lt_length nonempty, occurs⟩
  · rintro ⟨position, -, occurs⟩
    exact List.exists_mem_of_ne_nil _ (successive_ne_nil_of_occursAt nonempty occurs)

theorem mem_shadowing_iff (nonempty : keyword ≠ []) :
    longer ∈ shadowing keyword ↔
      longer ∈ keywords.map String.toList ∧ keyword.length < longer.length ∧
        Occurs keyword longer := by
  have finds : (!(found keyword longer).isEmpty) = true ↔ Occurs keyword longer := by
    rw [← exists_mem_found_iff nonempty, Bool.not_eq_true', List.isEmpty_eq_false_iff_exists_mem]
  rw [shadowing, List.mem_filter, Bool.and_eq_true, decide_eq_true_eq, finds]

/-- A cue that lies in no longer keyword is given wherever its keyword occurs. -/
theorem isCued_iff_occurs (alone : shadowing keyword = []) (nonempty : keyword ≠ []) :
    isCued text keyword = true ↔ Occurs keyword text := by
  rw [← exists_mem_found_iff nonempty]
  simp only [isCued, isShadowed, alone, List.any_nil, Bool.not_false, List.any_eq_true, and_true]

/-- A cue is given where its keyword occurs outside of the longer ones, if none of them can overlap
itself: then every occurrence is a match. -/
theorem isCued_iff_uncovered (nonempty : keyword ≠ []) (unbordered : Unbordered keyword)
    (longerUnbordered : ∀ longer ∈ shadowing keyword, Unbordered longer) :
    isCued text keyword = true ↔ ∃ position < text.length, OccursAt keyword text position ∧
      ∀ longer ∈ shadowing keyword, ∀ first < text.length, OccursAt longer text first →
        ¬ (first ≤ position ∧ position + keyword.length ≤ first + longer.length) := by
  have longerNonempty (longer : List Char) (member : longer ∈ shadowing keyword) : longer ≠ [] := by
    have length := ((mem_shadowing_iff nonempty).mp member).2.1
    exact List.ne_nil_of_length_pos (Nat.zero_lt_of_lt length)
  simp only [isCued, isShadowed, List.any_eq_true, Bool.not_eq_true', List.any_eq_false,
    Bool.and_eq_true, decide_eq_true_eq, mem_found_iff unbordered nonempty]
  constructor
  · rintro ⟨position, occurs, uncovered⟩
    refine ⟨position, occurs.lt_length nonempty, occurs, ?_⟩
    intro longer member first _ covering within
    have hit := (mem_found_iff (longerUnbordered longer member) (longerNonempty longer member)).mpr
      covering
    exact uncovered longer member ⟨first, hit, within⟩
  · rintro ⟨position, _, occurs, uncovered⟩
    refine ⟨position, occurs, ?_⟩
    rintro longer member ⟨first, hit, within⟩
    have covering := occursAt_of_mem_found hit
    have inside := covering.lt_length (longerNonempty longer member)
    exact uncovered longer member first inside covering within

/-- A cue that lies in one longer keyword is given where its keyword occurs outside of it. -/
theorem isCued_iff_occursOutside (only : shadowing keyword = [longer])
    (nonempty : keyword ≠ []) (unbordered : Unbordered keyword)
    (longerUnbordered : Unbordered longer) :
    isCued text keyword = true ↔ OccursOutside longer keyword text := by
  rw [isCued_iff_uncovered nonempty unbordered, only]
  · simp only [List.forall_mem_singleton, OccursOutside]
  · simpa only [only, List.forall_mem_singleton] using longerUnbordered

end SpeechQueue
