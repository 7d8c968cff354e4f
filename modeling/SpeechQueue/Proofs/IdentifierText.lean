import Mathlib.Algebra.Ring.Nat
import Mathlib.Data.List.Basic
import SpeechQueue.Text.Quoted
import SpeechQueue.Utterance

/-! # The text of an identifier

Main statements: `UtteranceId.read?_text`, the written form of an identifier is read back, and
`quotedOption_text_inj`, the log shows no two identifiers alike. -/

namespace SpeechQueue

namespace UtteranceId

/-! ## Digits -/

theorem hexValue?_digitChar {d : Nat} (small : d < 16) : hexValue? d.digitChar = some d := by
  have all : ∀ d : Fin 16, hexValue? (Nat.digitChar d) = some d.val := by decide
  exact all ⟨d, small⟩

theorem hexDigits_succ (count n : Nat) :
    hexDigits (count + 1) n = Nat.digitChar (n / 16 ^ count % 16) :: hexDigits count n := by
  simp [hexDigits, List.range_succ]

theorem length_hexDigits (count n : Nat) : (hexDigits count n).length = count := by
  simp [hexDigits]

/-- The values of the digits. -/
theorem mapM_hexDigits (count n : Nat) : (hexDigits count n).mapM hexValue? =
    some ((List.range count).reverse.map fun k => n / 16 ^ k % 16) := by
  induction count with
  | zero => rfl
  | succ count ih =>
    have value := hexValue?_digitChar (Nat.mod_lt (n / 16 ^ count) (by decide : 0 < 16))
    simp [hexDigits_succ, List.mapM_cons, ih, value, List.range_succ]

/-- What comes after the leading digits are those of the remainder. -/
theorem foldl_range (count n leading : Nat) :
    ((List.range count).reverse.map fun k => n / 16 ^ k % 16).foldl (fun n d => 16 * n + d) leading =
      leading * 16 ^ count + n % 16 ^ count := by
  induction count generalizing leading with
  | zero => simp [Nat.mod_one]
  | succ count ih =>
    rw [List.range_succ, List.reverse_append, List.reverse_singleton, List.singleton_append,
      List.map_cons, List.foldl_cons, ih, Nat.mod_pow_succ, Nat.pow_succ]
    grind

/-- Digits are read as the number whose lowest ones they are. -/
theorem hexNumber?_hexDigits (count n : Nat) :
    hexNumber? (hexDigits count n) = some (n % 16 ^ count) := by
  rw [hexNumber?, mapM_hexDigits, Option.map_some, foldl_range, Nat.zero_mul, Nat.zero_add]

/-! ## Hyphens -/

/-- Hyphens are taken out where they were put in. -/
theorem unhyphenate?_hyphenate {counts : List Nat} {digits : List Char} (some_groups : counts ≠ [])
    (all : digits.length = counts.sum) :
    unhyphenate? counts (hyphenate counts digits) = some digits := by
  induction counts generalizing digits with
  | nil => exact absurd rfl some_groups
  | cons count rest ih =>
    cases rest with
    | nil =>
      have whole : digits.take count = digits := List.take_of_length_le (by simp [all])
      simp [hyphenate, unhyphenate?, whole, all]
    | cons next rest =>
      have long : (digits.take count).length = count := by
        rw [List.length_take, all, List.sum_cons]
        omega
      have remaining : (digits.drop count).length = (next :: rest).sum := by
        rw [List.length_drop, all, List.sum_cons]
        omega
      have after : (digits.take count ++ '-' :: hyphenate (next :: rest) (digits.drop count)).drop
          count = '-' :: hyphenate (next :: rest) (digits.drop count) := List.drop_left' long
      have before : (digits.take count ++ '-' :: hyphenate (next :: rest) (digits.drop count)).take
          count = digits.take count := List.take_left' long
      simp only [hyphenate, unhyphenate?, after, before, long, if_true,
        ih (List.cons_ne_nil _ _) remaining, Option.map_some, List.take_append_drop]

theorem length_hyphenate {counts : List Nat} {digits : List Char} (some_groups : counts ≠ [])
    (all : digits.length = counts.sum) :
    (hyphenate counts digits).length + 1 = counts.sum + counts.length := by
  induction counts generalizing digits with
  | nil => exact absurd rfl some_groups
  | cons count rest ih =>
    cases rest with
    | nil => simp [hyphenate, all]
    | cons next rest =>
      have remaining : (digits.drop count).length = (next :: rest).sum := by
        rw [List.length_drop, all, List.sum_cons]
        omega
      have shorter := ih (List.cons_ne_nil _ _) remaining
      simp only [hyphenate, List.length_append, List.length_cons, List.length_take, all,
        List.sum_cons] at shorter ⊢
      omega

/-- The written form of an identifier stands for it and for no other one. -/
theorem read?_text (id : UtteranceId) : read? id.text = some id := by
  have digits : (hexDigits 32 id.bits.toNat).length = groups.sum := length_hexDigits ..
  have unhyphenated : ofHyphenated? (hyphenate groups (hexDigits 32 id.bits.toNat)) = some id := by
    have bounded : id.bits.toNat % 16 ^ 32 = id.bits.toNat := Nat.mod_eq_of_lt id.bits.isLt
    rw [ofHyphenated?, unhyphenate?_hyphenate (by decide) digits, Option.bind_some, ofDigits?,
      if_pos (length_hexDigits ..), hexNumber?_hexDigits, bounded, Option.map_some, BitVec.ofNat_toNat,
      BitVec.setWidth_eq]
  have hyphens : ofDigits? (hyphenate groups (hexDigits 32 id.bits.toNat)) = none := by
    have long : (hyphenate groups (hexDigits 32 id.bits.toNat)).length + 1 =
        groups.sum + groups.length := length_hyphenate (by decide) digits
    rw [ofDigits?, if_neg]
    intro short
    rw [short] at long
    exact absurd long (by decide)
  simp only [read?, text, String.toList_ofList, unhyphenated, hyphens]

theorem text_inj {id other : UtteranceId} : id.text = other.text ↔ id = other := by
  refine ⟨fun same => ?_, congrArg text⟩
  have read := read?_text other
  rw [← same, read?_text] at read
  exact Option.some.inj read

/-! ## In the log -/

theorem mem_hyphenate {counts : List Nat} {digits : List Char} {c : Char}
    (inside : c ∈ hyphenate counts digits) : c = '-' ∨ c ∈ digits := by
  induction counts generalizing digits with
  | nil => cases inside
  | cons count rest ih =>
    cases rest with
    | nil => exact .inr (List.mem_of_mem_take inside)
    | cons next rest =>
      rcases List.mem_append.mp inside with before | after
      · exact .inr (List.mem_of_mem_take before)
      · rcases List.mem_cons.mp after with hyphen | after
        · exact .inl hyphen
        · exact (ih after).imp_right List.mem_of_mem_drop

/-- No character of an identifier is escaped. -/
theorem escaped_text {id : UtteranceId} {c : Char} (inside : c ∈ id.text.toList) :
    escaped c = [c] := by
  have plain : ∀ d : Fin 16, escaped (Nat.digitChar d) = [Nat.digitChar d] := by decide +kernel
  rw [text, String.toList_ofList] at inside
  rcases mem_hyphenate inside with rfl | digit
  · decide +kernel
  · obtain ⟨k, -, rfl⟩ := List.mem_map.mp digit
    exact plain ⟨id.bits.toNat / Nat.pow 16 k % 16, Nat.mod_lt _ (by decide)⟩

theorem quoted_text (id : UtteranceId) :
    quoted id.text = String.ofList ('"' :: id.text.toList ++ ['"']) := by
  have plain : id.text.toList.flatMap escaped = id.text.toList := by
    rw [List.flatMap_congr fun c inside => escaped_text inside, List.flatMap_singleton']
  rw [quoted, plain]

end UtteranceId

/-- The log shows no two identifiers alike, and none like a missing one. -/
theorem quotedOption_text_inj {id other : Option UtteranceId} :
    quotedOption (id.map UtteranceId.text) = quotedOption (other.map UtteranceId.text) ↔
      id = other := by
  have missing (id : UtteranceId) : quotedOption (some id.text) ≠ quotedOption none := by
    intro same
    have lengths := congrArg String.toList same
    simp [quotedOption] at lengths
  refine ⟨fun same => ?_, fun same => by rw [same]⟩
  cases id with
  | none =>
    cases other with
    | none => rfl
    | some other => exact absurd same.symm (missing other)
  | some id =>
    cases other with
    | none => exact absurd same (missing id)
    | some other =>
      have texts := congrArg String.toList same
      simp only [Option.map_some, quotedOption, UtteranceId.quoted_text, String.toList_append,
        String.toList_ofList, List.append_cancel_left_eq, List.append_cancel_right_eq,
        List.cons_append, List.cons.injEq, true_and] at texts
      rw [UtteranceId.text_inj.mp (String.toList_injective texts)]

end SpeechQueue
