import Mathlib.Data.Finset.Card
import Mathlib.Data.Finset.Range
import SpeechQueue.Proofs.Resolution

/-! # Keywords that stand outside of longer ones

The search behind a cue looks only at matches that do not overlap, of the keyword and of the longer
keywords that contain it. It misses nothing all the same. A keyword that can overlap itself lies in no
longer one, so its first match decides; where longer ones matter, neither they nor the keyword can
overlap themselves, so every occurrence is a match. Main statement: `cued_where_exposed`. -/

namespace SpeechQueue

variable {keyword longer text : List Char} {position place : Nat}

/-- Some occurrence of the keyword lies within no occurrence of a longer keyword that contains it,
all positions counted. -/
def Exposed (keyword text : List Char) : Prop :=
  ∃ position < text.length, OccursAt keyword text position ∧
    ∀ longer ∈ keywords.map String.toList, keyword.length < longer.length → Occurs keyword longer →
      ∀ first < text.length, OccursAt longer text first →
        ¬ (first ≤ position ∧ position + keyword.length ≤ first + longer.length)

instance (keyword text : List Char) : Decidable (Exposed keyword text) :=
  inferInstanceAs (Decidable (∃ position < text.length, OccursAt keyword text position ∧
    ∀ longer ∈ keywords.map String.toList, keyword.length < longer.length → Occurs keyword longer →
      ∀ first < text.length, OccursAt longer text first →
        ¬ (first ≤ position ∧ position + keyword.length ≤ first + longer.length)))

/-! ## The search -/

/-- The search for the keyword can be relied on: no longer keyword matters, or none of those that do
can overlap itself, nor can the keyword. -/
def Searchable (keyword : List Char) : Prop :=
  shadowing keyword = [] ∨
    Unbordered keyword ∧ ∀ longer ∈ shadowing keyword, Unbordered longer

instance (keyword : List Char) : Decidable (Searchable keyword) :=
  inferInstanceAs (Decidable (_ ∨ _ ∧ ∀ longer ∈ shadowing keyword, Unbordered longer))

/-- Among the keywords of cues only `high` can overlap itself, and it lies in no other keyword. -/
theorem searchable_of_mem_cues :
    ∀ cue ∈ cues, cue.keyword.toList ≠ [] ∧ Searchable cue.keyword.toList := by
  decide

/-- A cue is given where its keyword is exposed, if the search for it can be relied on. -/
theorem isCued_iff_exposed (searchable : Searchable keyword) (nonempty : keyword ≠ []) :
    isCued text keyword = true ↔ Exposed keyword text := by
  have exposed : Exposed keyword text ↔ ∃ position < text.length, OccursAt keyword text position ∧
      ∀ longer ∈ shadowing keyword, ∀ first < text.length, OccursAt longer text first →
        ¬ (first ≤ position ∧ position + keyword.length ≤ first + longer.length) := by
    simp only [Exposed, mem_shadowing_iff nonempty, and_imp]
  rw [exposed]
  rcases searchable with alone | ⟨unbordered, longerUnbordered⟩
  · rw [isCued_iff_occurs alone nonempty, alone]
    simp only [List.not_mem_nil, false_imp_iff, implies_true, and_true, Occurs]
  · exact isCued_iff_uncovered nonempty unbordered longerUnbordered

/-! ## Counting -/

/-- All positions at which a keyword occurs, whether or not the occurrences overlap. -/
def positions (keyword text : List Char) : Finset Nat :=
  (Finset.range text.length).filter (OccursAt keyword text)

theorem mem_positions (nonempty : keyword ≠ []) :
    position ∈ positions keyword text ↔ OccursAt keyword text position := by
  rw [positions, Finset.mem_filter, Finset.mem_range, and_iff_right_iff_imp]
  exact fun occurs => occurs.lt_length nonempty

/-- What lies in a word lies in the text wherever the word does. -/
theorem OccursAt.trans {first : Nat} (inner : OccursAt keyword longer place)
    (around : OccursAt longer text first) : OccursAt keyword text (first + place) := by
  have shifted := List.IsPrefix.drop around place
  rw [List.drop_drop] at shifted
  exact List.IsPrefix.trans inner shifted

/-- What lies within an occurrence of a longer word lies in that word. -/
theorem OccursAt.within {first : Nat} (occurs : OccursAt keyword text position)
    (around : OccursAt longer text first) (start : first ≤ position)
    (stop : position + keyword.length ≤ first + longer.length) :
    OccursAt keyword longer (position - first) := by
  have shifted := List.IsPrefix.drop around (position - first)
  rw [List.drop_drop, show first + (position - first) = position by omega] at shifted
  refine List.prefix_of_prefix_length_le occurs shifted ?_
  rw [List.length_drop]
  omega

section Once

/-! The keyword has one place in the longer word. -/

variable (once : positions keyword longer = {place}) (nonempty : keyword ≠ [])
  (longerNonempty : longer ≠ [])

include once nonempty

theorem occursAt_iff_eq_place : OccursAt keyword longer position ↔ position = place := by
  rw [← mem_positions nonempty, once, Finset.mem_singleton]

include longerNonempty

/-- The longer word covers the keyword just where it begins that much earlier. -/
theorem OccursAt.covered_iff (occurs : OccursAt keyword text position) :
    (∃ first < text.length, OccursAt longer text first ∧
        first ≤ position ∧ position + keyword.length ≤ first + longer.length) ↔
      position ∈ (positions longer text).image (· + place) := by
  simp only [Finset.mem_image, mem_positions longerNonempty]
  constructor
  · rintro ⟨first, -, around, start, stop⟩
    have offset := (occursAt_iff_eq_place once nonempty).mp (occurs.within around start stop)
    exact ⟨first, around, by omega⟩
  · rintro ⟨first, around, rfl⟩
    have inner := (occursAt_iff_eq_place once nonempty).mpr rfl
    have bound := inner.bound nonempty
    exact ⟨first, around.lt_length longerNonempty, around, by omega, by omega⟩

/-- Every occurrence of the longer word covers one of the keyword and no two the same, so some are
left if and only if the keyword occurs more often. -/
theorem occursOutside_iff_card :
    OccursOutside longer keyword text ↔
      (positions longer text).card < (positions keyword text).card := by
  have inner := (occursAt_iff_eq_place once nonempty).mpr rfl
  have covered : (positions longer text).image (· + place) ⊆ positions keyword text := by
    intro position member
    obtain ⟨first, around, rfl⟩ := Finset.mem_image.mp member
    exact (mem_positions nonempty).mpr (inner.trans ((mem_positions longerNonempty).mp around))
  have size : ((positions longer text).image (· + place)).card = (positions longer text).card :=
    Finset.card_image_of_injective _ fun _ _ same => Nat.add_right_cancel same
  rw [← size]
  constructor
  · rintro ⟨position, _, occurs, uncovered⟩
    refine Finset.card_lt_card ⟨covered, fun all => ?_⟩
    have member := all ((mem_positions nonempty).mpr occurs)
    obtain ⟨first, inside, around, within⟩ :=
      (occurs.covered_iff once nonempty longerNonempty).mpr member
    exact uncovered first inside around within
  · intro fewer
    obtain ⟨position, member, uncovered⟩ := Finset.exists_mem_notMem_of_card_lt_card fewer
    have occurs := (mem_positions nonempty).mp member
    refine ⟨position, occurs.lt_length nonempty, occurs, ?_⟩
    intro first inside around within
    exact uncovered ((occurs.covered_iff once nonempty longerNonempty).mp
      ⟨first, inside, around, within⟩)

end Once

/-! ## Every cue -/

/-- A cue is given if and only if its keyword occurs at some position that no longer keyword covers;
what is low is so if and only if there are more positions of it than of what is slow. -/
theorem cued_where_exposed :
    (∀ cue ∈ cues, ∀ text : List Char,
      isCued text cue.keyword.toList = true ↔ Exposed cue.keyword.toList text) ∧
    ∀ text : List Char, isCued text "low".toList = true ↔
      (positions "slowly".toList text).card < (positions "low".toList text).card := by
  constructor
  · intro cue member text
    obtain ⟨nonempty, searchable⟩ := searchable_of_mem_cues cue member
    exact isCued_iff_exposed searchable nonempty
  · intro text
    have once : positions "low".toList "slowly".toList = {1} := by decide
    rw [isCued_low_iff]
    exact occursOutside_iff_card once (by decide) (by decide)

/-- Of two overlapping matches the search skips one, and the cue is given all the same. -/
theorem cued_where_exposed_of_overlap :
    ∃ cue ∈ cues, cue.keyword = "high" ∧
      found "high".toList "highigh".toList = [0] ∧
      positions "high".toList "highigh".toList = {0, 3} ∧
      Exposed "high".toList "highigh".toList ∧
      isCued "highigh".toList "high".toList = true ∧
      isCued "slowly, slowly".toList "low".toList = false ∧
      isCued "slowlow".toList "low".toList = true := by
  obtain ⟨exposed, more⟩ := cued_where_exposed
  let cue : Cue := ⟨"high", .high, fun p => { p with pitch := .ofNat 3 }⟩
  have member : cue ∈ cues := by simp [cue, cues]
  refine ⟨cue, member, rfl, by decide, by decide, by decide, ?_, ?_, ?_⟩
  · exact (exposed cue member _).mpr (by decide)
  · rw [← Bool.not_eq_true, more]
    decide
  · rw [more]
    decide

end SpeechQueue
