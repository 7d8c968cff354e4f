import SpeechQueue.Proofs.Wordwise

/-! # Two texts put together

Between two texts with a blank in between nothing new arises, with one exception: where the keyword
of a dial ends the first text, the value is the first word of the second. Main statement:
`resolve_joined`, which cues are given and what each dial is turned to in the joined text. -/

namespace SpeechQueue

/-! ## The word after a keyword -/

section WordAfter

variable {keyword : List Char} {words : List (List Char)}

/-- Words without the keyword are passed over. -/
theorem wordAfter?_append_of_not_mem (absent : keyword ∉ words) (later : List (List Char)) :
    wordAfter? keyword (words ++ later) = wordAfter? keyword later := by
  induction words with
  | nil => rfl
  | cons word rest ih =>
    rw [List.mem_cons, not_or] at absent
    rw [List.cons_append, wordAfter?, if_neg (Ne.symm absent.1), ih absent.2]

/-- What is looked up comes right after the keyword where it stands first. -/
theorem wordAfter?_append_cons (absent : keyword ∉ words) (later : List (List Char)) :
    wordAfter? keyword (words ++ keyword :: later) = later.head? := by
  rw [wordAfter?_append_of_not_mem absent, wordAfter?, if_pos rfl]

end WordAfter

/-! ## What a dial is turned to -/

/-- The value that was reported for a dial, if it was turned. -/
def Resolved.turned? (r : Resolved) (d : Dial) : Option Single :=
  (r.applied.find? fun entry => entry.keyword = d.keyword).bind Directive.value?

/-- No cue has the keyword of a dial. -/
theorem cue_keyword_ne_dial :
    ∀ d ∈ dials, ∀ cue ∈ cues, cue.report.keyword ≠ d.keyword := by
  simp [dials, cues, Directive.keyword]

/-- No two dials have the same keyword. -/
theorem dial_eq_of_keyword :
    ∀ d ∈ dials, ∀ other ∈ dials, other.keyword = d.keyword → other = d := by
  simp [dials]

section Turned

variable {d : Dial} {text : String} {current : Parameters}

/-- What is reported with the keyword of a dial is the value that the dial reads. -/
theorem exists_value_of_mem_applied (member : d ∈ dials) {entry : Directive}
    (applied : entry ∈ (resolve text current).applied) (same : entry.keyword = d.keyword) :
    ∃ value, valueAfter? d.keyword.toList (words text.toList) = some value ∧
      entry = d.report value := by
  simp only [resolve_applied, List.mem_append, List.mem_filterMap, Option.map_eq_some_iff,
    List.mem_map, List.mem_filter] at applied
  rcases applied with ⟨other, dial, value, reads, rfl⟩ | ⟨cue, ⟨given, -⟩, rfl⟩
  · rw [dial_report_keyword other dial] at same
    obtain rfl := dial_eq_of_keyword d member other dial same
    exact ⟨value, reads, rfl⟩
  · exact absurd same (cue_keyword_ne_dial d member cue given)

/-- A dial is turned to the value after the first word that is its keyword. -/
theorem turned?_resolve (member : d ∈ dials) (text : String) (current : Parameters) :
    (resolve text current).turned? d = valueAfter? d.keyword.toList (words text.toList) := by
  rw [Resolved.turned?]
  cases found : (resolve text current).applied.find? fun entry => entry.keyword = d.keyword with
  | none =>
    rw [Option.bind_none]
    refine (Option.eq_none_iff_forall_ne_some.mpr fun value reads => ?_).symm
    -- A value that was read would have been reported.
    have applied : d.report value ∈ (resolve text current).applied := by
      rw [resolve_applied, List.mem_append, List.mem_filterMap]
      exact .inl ⟨d, member, by rw [reads, Option.map_some]⟩
    have missed := List.find?_eq_none.mp found _ applied
    exact missed (decide_eq_true (dial_report_keyword d member value))
  | some entry =>
    have same : entry.keyword = d.keyword := by simpa using List.find?_some found
    obtain ⟨value, reads, rfl⟩ :=
      exists_value_of_mem_applied member (List.mem_of_find?_eq_some found) same
    rw [reads, Option.bind_some, dial_report_value? d member]

end Turned

/-! ## Joining -/

theorem toList_joined (before after : String) (gap : Char) :
    (before.push gap ++ after).toList = before.toList ++ gap :: after.toList := by
  rw [String.toList_append, String.toList_push, List.append_assoc, List.singleton_append]

/-- Over a blank each cue is given exactly when one of the two texts gives it. A dial whose keyword
has a word after it in the first text is turned as there, to that word if it is a value and else not
at all. If the keyword first stands at the end of the first text, the value is the first word of the
second. If it is no word of the first text, the dial is turned as in the second. -/
theorem resolve_joined (before after : String) {gap : Char} (blank : isBlank gap = true)
    (current : Parameters) :
    (∀ cue ∈ cues, cue.report ∈ (resolve (before.push gap ++ after) current).applied ↔
      cue.report ∈ (resolve before current).applied ∨
        cue.report ∈ (resolve after current).applied) ∧
    ∀ d ∈ dials,
      (∀ front next back, words before.toList = front ++ d.keyword.toList :: next :: back →
        d.keyword.toList ∉ front →
          (resolve (before.push gap ++ after) current).turned? d =
            (resolve before current).turned? d ∧
          (resolve before current).turned? d = Binary.read? next) ∧
      (∀ front, words before.toList = front ++ [d.keyword.toList] → d.keyword.toList ∉ front →
        (resolve (before.push gap ++ after) current).turned? d =
          (words after.toList).head?.bind Binary.read?) ∧
      (d.keyword.toList ∉ words before.toList →
        (resolve (before.push gap ++ after) current).turned? d =
          (resolve after current).turned? d) := by
  constructor
  · intro cue member
    simp only [report_mem_applied_iff member, toList_joined]
    exact isCued_append_blank_iff member before.toList after.toList blank
  · intro d member
    simp only [turned?_resolve member, toList_joined, words_append_blank _ _ blank, valueAfter?]
    refine ⟨?_, ?_, ?_⟩
    · intro front next back split absent
      have alone := wordAfter?_append_cons absent (next :: back)
      have joined := wordAfter?_append_cons absent (next :: back ++ words after.toList)
      rw [split, alone, List.append_assoc, List.cons_append, joined]
      exact ⟨rfl, rfl⟩
    · intro front split absent
      rw [split, List.append_assoc, List.singleton_append, wordAfter?_append_cons absent]
    · intro absent
      rw [wordAfter?_append_of_not_mem absent]

/-- Without a blank in between, two texts may give a cue that neither of them gives. -/
example : isCued ("slow".toList ++ "ly".toList) "slowly".toList = true ∧
    isCued "slow".toList "slowly".toList = false ∧ isCued "ly".toList "slowly".toList = false := by
  decide

/-- A number after the blank belongs to the keyword before it, a later pair does not make up for a
word that is no number, and what is low after the blank is low although what is before it is slow. -/
theorem resolve_joined_of_split :
    isBlank '\u3000' = true ∧
      (Directive.low ∈ (resolve ("pitch up slowly speed".push '\u3000' ++ "2 toot 3 pitch 5 low")
          .default).applied ↔
        Directive.low ∈ (resolve "pitch up slowly speed" .default).applied ∨
          Directive.low ∈ (resolve "2 toot 3 pitch 5 low" .default).applied) ∧
      (resolve ("pitch up slowly speed".push '\u3000' ++ "2 toot 3 pitch 5 low") .default).turned?
        dials[0] = some (.ofNat 2) ∧
      (resolve ("pitch up slowly speed".push '\u3000' ++ "2 toot 3 pitch 5 low") .default).turned?
        dials[1] = none ∧
      (resolve ("pitch up slowly speed".push '\u3000' ++ "2 toot 3 pitch 5 low") .default).turned?
        dials[2] = (resolve "2 toot 3 pitch 5 low" .default).turned? dials[2] := by
  have blank : isBlank '\u3000' = true := by decide
  obtain ⟨given, turned⟩ := resolve_joined "pitch up slowly speed" "2 toot 3 pitch 5 low" blank .default
  obtain ⟨-, split, -⟩ := turned dials[0] (List.getElem_mem _)
  obtain ⟨followed, -, -⟩ := turned dials[1] (List.getElem_mem _)
  obtain ⟨-, -, absent⟩ := turned dials[2] (List.getElem_mem _)
  refine ⟨blank, given cues[3] (List.getElem_mem _), ?_, ?_, absent (by decide)⟩
  · rw [split ["pitch".toList, "up".toList, "slowly".toList] (by decide) (by decide)]
    decide +kernel
  · obtain ⟨alike, reads⟩ := followed [] "up".toList ["slowly".toList, "speed".toList] (by decide)
      (by decide)
    rw [alike, reads]
    decide

end SpeechQueue
