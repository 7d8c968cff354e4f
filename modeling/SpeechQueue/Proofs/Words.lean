import Mathlib.Data.List.TakeWhile
import SpeechQueue.Text.Blank

/-! # Words as runs between blanks

The words of a text are computed from its end. Here they are tied to what they are meant to be: the
pieces into which the blanks cut the text, without the empty ones. Trimming takes blanks from both ends
of a text and none of its words. -/

namespace SpeechQueue

/-- The maximal runs of characters that are not blank, in order. -/
def runs (text : List Char) : List (List Char) :=
  (text.splitOnP isBlank).filter (· ≠ [])

theorem runs_cons_blank {c : Char} (blank : isBlank c = true) (rest : List Char) :
    runs (c :: rest) = runs rest := by
  rw [runs, List.splitOnP_cons_eq_if_modifyHead, if_pos blank]
  rfl

/-- A character before a blank, or at the end, is a run of its own. -/
theorem runs_cons_of_blank_next {c d : Char} (letter : isBlank c = false)
    (blank : isBlank d = true) (rest : List Char) :
    runs (c :: d :: rest) = [c] :: runs (d :: rest) := by
  rw [runs, runs_cons_blank blank]
  simp [List.splitOnP_cons_eq_if_modifyHead, letter, blank, runs]

/-- A character before another one that is not blank belongs to the same run. -/
theorem runs_cons_of_letter_next {c d : Char} (letter : isBlank c = false)
    (next : isBlank d = false) (rest : List Char) :
    ∃ run more, runs (d :: rest) = run :: more ∧ runs (c :: d :: rest) = (c :: run) :: more := by
  obtain ⟨piece, pieces, split⟩ :=
    List.exists_cons_of_ne_nil (List.splitOnP_ne_nil isBlank rest)
  refine ⟨d :: piece, pieces.filter (· ≠ []), ?_, ?_⟩ <;>
    simp [runs, List.splitOnP_cons_eq_if_modifyHead, letter, next, split]

/-- The words of a text are the runs between its blanks. -/
theorem words_eq_runs (text : List Char) : words text = runs text := by
  induction text with
  | nil => rfl
  | cons c rest ih =>
    rw [words, ih]
    cases blank : isBlank c with
    | true => rw [if_pos rfl, runs_cons_blank blank]
    | false =>
      rw [if_neg Bool.false_ne_true]
      cases rest with
      | nil => simp [consWord, runs, List.splitOnP_cons_eq_if_modifyHead, blank]
      | cons d tail =>
        cases next : isBlank d with
        | true =>
          rw [runs_cons_of_blank_next blank next]
          cases runs (d :: tail) <;> simp [consWord, next]
        | false =>
          obtain ⟨run, more, same, longer⟩ := runs_cons_of_letter_next blank next tail
          rw [same, longer]
          simp [consWord, next]

/-- The text has no blank in it. -/
def BlankFree (text : List Char) : Prop := ∀ c ∈ text, isBlank c = false

instance (text : List Char) : Decidable (BlankFree text) :=
  decidable_of_iff (text.all fun c => !isBlank c) (by simp [BlankFree])

/-- A blank ends a word and begins another one. -/
theorem words_append_blank (before after : List Char) {gap : Char} (blank : isBlank gap = true) :
    words (before ++ gap :: after) = words before ++ words after := by
  simp only [words_eq_runs, runs, List.splitOnP_append_cons before after blank, List.filter_append]

/-- A text without a blank is one word, unless it is empty. -/
theorem words_of_blankFree {text : List Char} (free : BlankFree text) (nonempty : text ≠ []) :
    words text = [text] := by
  rw [words_eq_runs, runs, List.splitOnP_eq_singleton free]
  simp [nonempty]

/-- Blanks before a text hold no words of it. -/
theorem words_blanks_append {gap : List Char} (blank : ∀ c ∈ gap, isBlank c = true)
    (text : List Char) : words (gap ++ text) = words text := by
  induction gap with
  | nil => rfl
  | cons c rest ih =>
    rw [List.cons_append, words, if_pos (blank c List.mem_cons_self)]
    exact ih fun d member => blank d (List.mem_cons_of_mem c member)

/-- However many blanks there are between two texts, the words are those of the one and then those
of the other. -/
theorem words_append_blanks_append (before after : List Char) {gap : List Char}
    (blank : ∀ c ∈ gap, isBlank c = true) (nonempty : gap ≠ []) :
    words (before ++ gap ++ after) = words before ++ words after := by
  obtain ⟨c, rest, rfl⟩ := List.exists_cons_of_ne_nil nonempty
  rw [List.append_assoc, List.cons_append, words_append_blank _ _ (blank c List.mem_cons_self),
    words_blanks_append fun d member => blank d (List.mem_cons_of_mem c member)]

/-- Blanks after a text hold no words of it. -/
theorem words_append_blanks (text : List Char) {gap : List Char}
    (blank : ∀ c ∈ gap, isBlank c = true) : words (text ++ gap) = words text := by
  cases gap with
  | nil => rw [List.append_nil]
  | cons c rest =>
    have apart := words_append_blanks_append text [] blank (List.cons_ne_nil c rest)
    simpa [words] using apart

theorem words_trimStart (text : List Char) : words (trimStart text) = words text := by
  calc words (trimStart text)
      = words (text.takeWhile isBlank ++ trimStart text) :=
        (words_blanks_append (List.all_eq_true.mp List.all_takeWhile) _).symm
    _ = words text := by rw [trimStart, List.takeWhile_append_dropWhile]

theorem words_trimEnd (text : List Char) : words (trimEnd text) = words text := by
  have blank : ∀ c ∈ (text.reverse.takeWhile isBlank).reverse, isBlank c = true :=
    fun c member => List.all_eq_true.mp List.all_takeWhile c (List.mem_reverse.mp member)
  calc words (trimEnd text)
      = words (trimEnd text ++ (text.reverse.takeWhile isBlank).reverse) :=
        (words_append_blanks _ blank).symm
    _ = words text := by
      rw [trimEnd, ← List.reverse_append, List.takeWhile_append_dropWhile, List.reverse_reverse]

/-- Trimming a text takes no word from it. -/
theorem words_trim (text : List Char) : words (trim text) = words text := by
  rw [trim, words_trimEnd, words_trimStart]

/-! ## Trimming -/

theorem trimStart_blanks_append {gap : List Char} (blank : ∀ c ∈ gap, isBlank c = true)
    (text : List Char) : trimStart (gap ++ text) = trimStart text :=
  List.dropWhile_append_of_pos blank

theorem trimEnd_append_blanks {gap : List Char} (blank : ∀ c ∈ gap, isBlank c = true)
    (text : List Char) : trimEnd (text ++ gap) = trimEnd text := by
  rw [trimEnd, List.reverse_append, List.dropWhile_append_of_pos, trimEnd]
  intro c member
  exact blank c (List.mem_reverse.mp member)

theorem trimStart_blanks {gap : List Char} (blank : ∀ c ∈ gap, isBlank c = true) :
    trimStart gap = [] :=
  List.dropWhile_eq_nil_iff.mpr blank

/-- Blanks around a text are no part of its content. -/
theorem trim_pad {before after : List Char} (text : List Char)
    (blankBefore : ∀ c ∈ before, isBlank c = true) (blankAfter : ∀ c ∈ after, isBlank c = true) :
    trim (before ++ text ++ after) = trim text := by
  rw [List.append_assoc, trim, trimStart_blanks_append blankBefore, trim]
  by_cases empty : trimStart text = []
  · -- A text of blanks ends within what is taken from its start.
    have blank : ∀ c ∈ text ++ after, isBlank c = true := by
      intro c member
      rcases List.mem_append.mp member with inside | behind
      · exact List.dropWhile_eq_nil_iff.mp empty c inside
      · exact blankAfter c behind
    rw [trimStart_blanks blank, empty]
  · have kept : trimStart (text ++ after) = trimStart text ++ after := by
      rw [trimStart, List.dropWhile_append, if_neg]
      · rfl
      · simpa [trimStart, List.isEmpty_iff] using empty
    rw [kept, trimEnd_append_blanks blankAfter]

/-- Trimming leaves nothing of a text just if all of it is blank. -/
theorem trim_eq_nil_iff {text : List Char} : trim text = [] ↔ ∀ c ∈ text, isBlank c = true := by
  constructor
  · intro empty
    have blank : ∀ c ∈ trimStart text, isBlank c = true := by
      simpa only [trim, trimEnd, List.reverse_eq_nil_iff, List.dropWhile_eq_nil_iff,
        List.mem_reverse] using empty
    -- What is left from the start would begin with a letter.
    have nothing : trimStart text = [] := by
      refine Decidable.byContradiction fun filled => ?_
      have first := List.head_dropWhile_not isBlank filled
      exact Bool.false_ne_true (first.symm.trans (blank _ (List.head_mem filled)))
    exact List.dropWhile_eq_nil_iff.mp nothing
  · intro blank
    rw [trim, trimStart_blanks blank]
    rfl

/-- The last character of a content is not blank. -/
theorem trim_getLast? {text : List Char} {c : Char} (last : (trim text).getLast? = some c) :
    isBlank c = false := by
  rw [trim, trimEnd, List.getLast?_reverse] at last
  have nonblank := List.head?_dropWhile_not isBlank (trimStart text).reverse
  rw [last] at nonblank
  simpa using nonblank

end SpeechQueue
