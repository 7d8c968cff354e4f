import Mathlib.Data.List.TakeWhile
import SpeechQueue.Proofs.NumberText
import SpeechQueue.Settings.Tree

/-! # Paths in keys

A key is read as a path before a tree is changed, and its names are put in lower case after. The two
can be exchanged, and the first name of a path is a path of one step: so the keys that a tree has are
never read as longer paths when the tree is merged into another one. Main statement:
`pathOf_first_toLower`. -/

namespace SpeechQueue

namespace Tree

/-- A step with its name in lower case. -/
def Step.lower : Step → Step
  | .key name => .key name.toLower
  | .index position => .index position

/-! ## Letters in either case -/

theorem isUpper_iff {c : Char} : c.isUpper = true ↔ 65 ≤ c.toNat ∧ c.toNat ≤ 90 :=
  decide_eq_true_iff

theorem isLower_iff {c : Char} : c.isLower = true ↔ 97 ≤ c.toNat ∧ c.toNat ≤ 122 := by
  have bounds : c.isLower = (decide (97 ≤ c.toNat) && decide (c.toNat ≤ 122)) := rfl
  rw [bounds, Bool.and_eq_true, decide_eq_true_iff, decide_eq_true_iff]

/-- Only a capital letter has another lower case than itself, and that is a small letter. -/
theorem toLower_cases (c : Char) :
    c.toLower = c ∨ c.isUpper = true ∧ c.toLower.isLower = true := by
  unfold Char.toLower
  split
  · next upper =>
    have bounds : 65 ≤ c.toNat ∧ c.toNat ≤ 90 := upper
    have offset : ('a'.val - 'A'.val).toNat = 32 := rfl
    refine .inr ⟨isUpper_iff.mpr bounds, isLower_iff.mpr ?_⟩
    rw [← Char.toNat_val, UInt32.toNat_add, Char.toNat_val, offset]
    omega
  · exact .inl rfl

/-- What is said of a class of characters that has all letters or none can be said in either case. -/
theorem class_toLower {p : Char → Bool} (b : Bool) (upper : ∀ c : Char, c.isUpper = true → p c = b)
    (lower : ∀ c : Char, c.isLower = true → p c = b) (c : Char) : p c.toLower = p c := by
  rcases toLower_cases c with same | ⟨up, low⟩
  · rw [same]
  · rw [lower _ low, upper _ up]

theorem isNameChar_toLower (c : Char) : isNameChar c.toLower = isNameChar c := by
  have letter (c : Char) : c.isAlphanum = (c.isUpper || c.isLower || c.isDigit) := rfl
  exact class_toLower true (fun c upper => by simp [isNameChar, letter, upper])
    (fun c lower => by simp [isNameChar, letter, lower]) c

/-- A character that is no letter is in lower case what it was before. -/
theorem toLower_eq_iff {c d : Char} (noCapital : d.isUpper = false) (noSmall : d.isLower = false) :
    c.toLower = d ↔ c = d := by
  rcases toLower_cases c with same | ⟨upper, lower⟩
  · rw [same]
  · refine iff_of_false ?_ ?_
    · rintro rfl
      exact absurd (lower.symm.trans noSmall) nofun
    · rintro rfl
      exact absurd (upper.symm.trans noCapital) nofun

theorem isDigit_toLower (c : Char) : c.toLower.isDigit = c.isDigit := by
  have digit_iff {c : Char} : c.isDigit = true ↔ 48 ≤ c.toNat ∧ c.toNat ≤ 57 := by
    simp [Char.isDigit, UInt32.le_iff_toNat_le, ← Char.toNat_val]
  refine class_toLower false (fun c upper => ?_) (fun c lower => ?_) c
  · have bounds := isUpper_iff.mp upper
    rw [← Bool.not_eq_true, digit_iff]
    omega
  · have bounds := isLower_iff.mp lower
    rw [← Bool.not_eq_true, digit_iff]
    omega

theorem isSpace_toLower (c : Char) : isSpace c.toLower = isSpace c := by
  simp [isSpace, toLower_eq_iff]

/-- Digits are the same in lower case. -/
theorem map_toLower_digits {digits : List Char} (all : ∀ c ∈ digits, c.isDigit = true) :
    digits.map Char.toLower = digits :=
  (List.map_congr_left fun c member => toLower_of_isDigit (all c member)).trans (List.map_id _)

theorem toLower_toLower (c : Char) : c.toLower.toLower = c.toLower := by
  rcases toLower_cases c with same | ⟨-, lower⟩
  · rw [same, same]
  · rcases toLower_cases c.toLower with same | ⟨upper, -⟩
    · exact same
    · have capital := isUpper_iff.mp upper
      have small := isLower_iff.mp lower
      omega

@[simp] theorem toList_toLower (s : String) : s.toLower.toList = s.toList.map Char.toLower :=
  String.toList_map

@[simp] theorem ofList_map_toLower (cs : List Char) :
    String.ofList (cs.map Char.toLower) = (String.ofList cs).toLower := by
  apply String.toList_injective
  simp

@[simp] theorem toLower_idem (s : String) : s.toLower.toLower = s.toLower := by
  apply String.toList_injective
  simp only [toList_toLower, List.map_map, Function.comp_def, toLower_toLower]

/-! ## Paths in either case -/

theorem takeWhile_toLower {p : Char → Bool} (same : ∀ c : Char, p c.toLower = p c) (text : List Char) :
    (text.map Char.toLower).takeWhile p = (text.takeWhile p).map Char.toLower := by
  rw [List.takeWhile_map, show p ∘ Char.toLower = p from funext same]

theorem dropWhile_toLower {p : Char → Bool} (same : ∀ c : Char, p c.toLower = p c) (text : List Char) :
    (text.map Char.toLower).dropWhile p = (text.dropWhile p).map Char.toLower := by
  rw [List.dropWhile_map, show p ∘ Char.toLower = p from funext same]

/-- The position after an optional sign, and what follows its bracket. -/
def closePosition? (negative : Bool) (text : List Char) : Option (Int × List Char) :=
  let digits := text.takeWhile Char.isDigit
  let n : Int := Numeral.digitsValue digits
  let position := if negative then -n else n
  match (text.drop digits.length).dropWhile isSpace with
  | ']' :: rest =>
    if digits ≠ [] ∧ -(Nat.pow 2 63 : Int) ≤ position ∧ position < (Nat.pow 2 63 : Int) then
      some (position, rest)
    else none
  | _ => none

theorem readPosition?_eq (text : List Char) : readPosition? text =
    match text.dropWhile isSpace with
    | '-' :: rest => closePosition? true rest
    | rest => closePosition? false rest := by
  unfold readPosition?
  cases text.dropWhile isSpace with
  | nil => rfl
  | cons c rest =>
    by_cases minus : c = '-'
    · subst minus
      rfl
    · have other (tail : List Char) : c :: rest = '-' :: tail → False := by
        rintro ⟨⟩
        exact minus rfl
      simp only
      rfl

theorem closePosition?_toLower (negative : Bool) (text : List Char) :
    closePosition? negative (text.map Char.toLower) =
      (closePosition? negative text).map fun (position, rest) => (position, rest.map Char.toLower) := by
  have digits : (text.takeWhile Char.isDigit).map Char.toLower = text.takeWhile Char.isDigit :=
    map_toLower_digits fun c member => List.all_eq_true.mp List.all_takeWhile c member
  simp only [closePosition?, takeWhile_toLower isDigit_toLower, digits, ← List.map_drop,
    dropWhile_toLower isSpace_toLower]
  cases (text.drop (text.takeWhile Char.isDigit).length).dropWhile isSpace with
  | nil => rfl
  | cons c rest =>
    by_cases closes : c = ']'
    · subst closes
      simp only [List.map_cons, show Char.toLower ']' = ']' from rfl, apply_ite (Option.map _),
        Option.map_some, Option.map_none]
    · have still : c.toLower ≠ ']' := fun same => closes ((toLower_eq_iff rfl rfl).mp same)
      simp [closes, still]

theorem readPosition?_toLower (text : List Char) : readPosition? (text.map Char.toLower) =
    (readPosition? text).map fun (position, rest) => (position, rest.map Char.toLower) := by
  rw [readPosition?_eq, readPosition?_eq, dropWhile_toLower isSpace_toLower]
  cases text.dropWhile isSpace with
  | nil => exact closePosition?_toLower false []
  | cons c rest =>
    by_cases minus : c = '-'
    · subst minus
      exact closePosition?_toLower true rest
    · have still : c.toLower ≠ '-' := fun same => minus ((toLower_eq_iff rfl rfl).mp same)
      have unsigned := closePosition?_toLower false (c :: rest)
      rw [List.map_cons] at unsigned ⊢
      simpa [minus, still] using unsigned

theorem readSteps?_toLower (fuel : Nat) (text : List Char) :
    readSteps? fuel (text.map Char.toLower) = (readSteps? fuel text).map (·.map Step.lower) := by
  induction fuel generalizing text with
  | zero => cases text <;> rfl
  | succ fuel ih =>
    cases text with
    | nil => rfl
    | cons c rest =>
      simp only [List.map_cons, readSteps?, toLower_eq_iff (d := '.') rfl rfl,
        toLower_eq_iff (d := '[') rfl rfl, takeWhile_toLower isNameChar_toLower,
        readPosition?_toLower, List.map_eq_nil_iff, List.length_map, ← List.map_drop, ih]
      by_cases dot : c = '.'
      · by_cases empty : rest.takeWhile isNameChar = []
        · simp [dot, empty]
        · simp only [dot, empty, if_true, if_false, Option.map_map, ofList_map_toLower]
          rfl
      · by_cases bracket : c = '['
        · cases readPosition? rest with
          | none => simp [bracket]
          | some found => cases steps : readSteps? fuel found.2 <;> simp [bracket, ih, steps, Step.lower]
        · simp [dot, bracket]

/-- A key in lower case is read as the path in lower case. -/
theorem pathOf_toLower (key : String) : pathOf key.toLower = (pathOf key).map Step.lower := by
  simp only [pathOf, toList_toLower, takeWhile_toLower isNameChar_toLower, List.map_eq_nil_iff,
    List.length_map, ← List.map_drop, readSteps?_toLower]
  split
  · rfl
  · cases readSteps? _ _ with
    | none => rfl
    | some steps => simp [Step.lower]

/-- A name is a path of one step. -/
theorem pathOf_name {name : List Char} (nonempty : name ≠ []) (all : ∀ c ∈ name, isNameChar c = true) :
    pathOf (String.ofList name) = [.key (String.ofList name)] := by
  have whole : name.takeWhile isNameChar = name := List.takeWhile_eq_self_iff.mpr all
  simp only [pathOf, String.toList_ofList, whole, nonempty, if_false, List.drop_length]
  cases name.length <;> rfl

/-- The first step of a path is a name that is a path of one step. -/
theorem pathOf_first (key : String) :
    ∃ name rest, pathOf key = .key name :: rest ∧ pathOf name = [.key name] := by
  have literal (alone : pathOf key = [.key key]) :
      ∃ name rest, pathOf key = .key name :: rest ∧ pathOf name = [.key name] :=
    ⟨key, [], alone, alone⟩
  by_cases empty : key.toList.takeWhile isNameChar = []
  · exact literal (by simp [pathOf, empty])
  · cases read : readSteps? key.toList.length
        (key.toList.drop (key.toList.takeWhile isNameChar).length) with
    | none => exact literal (by simp [pathOf, read])
    | some steps =>
      refine ⟨_, steps, by simp [pathOf, empty, read], pathOf_name empty ?_⟩
      exact fun c member => List.all_eq_true.mp List.all_takeWhile c member

/-- In lower case too, the first name of a path is a path of one step. -/
theorem pathOf_first_toLower {key name : String} {rest : List Step}
    (path : pathOf key = .key name :: rest) : pathOf name.toLower = [.key name.toLower] := by
  obtain ⟨first, more, found, alone⟩ := pathOf_first key
  obtain ⟨⟨⟩, -⟩ := List.cons.inj (found.symm.trans path)
  rw [pathOf_toLower, alone]
  rfl

end Tree

end SpeechQueue
