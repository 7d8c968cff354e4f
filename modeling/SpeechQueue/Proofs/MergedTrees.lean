import Mathlib.Data.List.Nodup
import SpeechQueue.Proofs.KeyPaths

/-! # What is in a tree after a merge

Whatever is merged into a tree, its sections name every key once and in lower case (`Tidy`), and of
several values for one key the last one is held. A path that starts with a name changes the value of
this key alone. -/

namespace SpeechQueue

namespace Tree

variable {t : Tree} {held : List (String × Tree)} {key name : String} {value : Tree}

/-! ## Giving a key another value -/

theorem lookup_cons_ite {α : Type} (name key : String) (value : α) (held : List (String × α)) :
    ((key, value) :: held).lookup name = if name = key then some value else held.lookup name := by
  by_cases same : name = key
  · simp [same]
  · simp [List.lookup_cons, same, beq_false_of_ne same]

theorem lookup_eq_none_iff {α : Type} {name : String} {held : List (String × α)} :
    held.lookup name = none ↔ name ∉ held.map Prod.fst := by
  rw [List.lookup_eq_none_iff, List.mem_map]
  refine ⟨?_, fun absent entry member => bne_iff_ne.mpr ?_⟩
  · rintro different ⟨entry, member, rfl⟩
    exact bne_iff_ne.mp (different entry member) rfl
  · rintro rfl
    exact absent ⟨entry, member, rfl⟩

theorem mem_of_lookup {α : Type} {name : String} {value : α} {held : List (String × α)}
    (found : held.lookup name = some value) : (name, value) ∈ held := by
  obtain ⟨before, after, rfl, -⟩ := List.lookup_eq_some_iff.mp found
  simp

/-- Of entries with different keys each is found under its key. -/
theorem lookup_of_mem {α : Type} {held : List (String × α)} (once : (held.map Prod.fst).Nodup)
    {entry : String × α} (member : entry ∈ held) : held.lookup entry.1 = some entry.2 := by
  induction held with
  | nil => cases member
  | cons first held ih =>
    obtain ⟨fresh, later⟩ := List.nodup_cons.mp once
    rw [lookup_cons_ite]
    rcases List.mem_cons.mp member with rfl | member
    · exact if_pos rfl
    · rw [if_neg, ih later member]
      intro same
      exact fresh (List.mem_map.mpr ⟨entry, member, same⟩)

/-- Of entries with different keys at most one has a given key. -/
theorem flatMap_of_once {α β : Type} (f : α → List β) (name : String) {held : List (String × α)}
    (once : (held.map Prod.fst).Nodup) :
    (held.flatMap fun entry => if entry.1 = name then f entry.2 else []) =
      ((held.lookup name).map f).getD [] := by
  induction held with
  | nil => rfl
  | cons entry held ih =>
    obtain ⟨key, value⟩ := entry
    obtain ⟨fresh, later⟩ := List.nodup_cons.mp once
    rw [List.flatMap_cons, ih later, lookup_cons_ite]
    by_cases same : key = name
    · subst same
      simp [lookup_eq_none_iff.mpr fresh]
    · simp [same, Ne.symm same]

theorem lookup_replace : (replace key value held).lookup name =
    if name = key then some value else held.lookup name := by
  induction held with
  | nil => exact lookup_cons_ite ..
  | cons entry held ih =>
    obtain ⟨k, v⟩ := entry
    by_cases same : k = key
    · subst same
      simp only [replace, if_true, lookup_cons_ite]
      split <;> rfl
    · simp only [replace, same, if_false, lookup_cons_ite, ih]
      by_cases other : name = k
      · simp [other, same]
      · simp [other]

theorem keys_replace : (replace key value held).map Prod.fst =
    if key ∈ held.map Prod.fst then held.map Prod.fst else held.map Prod.fst ++ [key] := by
  induction held with
  | nil => rfl
  | cons entry held ih =>
    obtain ⟨k, v⟩ := entry
    by_cases same : k = key
    · simp [replace, same]
    · have other : ¬ key = k := fun eq => same eq.symm
      simp only [replace, same, if_false, List.map_cons, ih, List.mem_cons, other, false_or]
      split <;> rfl

/-- A section that names every key once and in lower case. -/
structure Tidy (entries : List (String × Tree)) : Prop where
  once : (entries.map Prod.fst).Nodup
  lower : ∀ key ∈ entries.map Prod.fst, key.toLower = key

theorem Tidy.nil : Tidy [] := ⟨List.nodup_nil, by simp⟩

theorem Tidy.replace (tidy : Tidy held) (lower : key.toLower = key) :
    Tidy (replace key value held) := by
  constructor
  · rw [keys_replace]
    split
    · exact tidy.once
    · next fresh => exact List.concat_eq_append ▸ List.Nodup.concat fresh tidy.once
  · intro other member
    rw [keys_replace] at member
    split at member
    · exact tidy.lower other member
    · rcases List.mem_append.mp member with earlier | last
      · exact tidy.lower other earlier
      · rw [List.mem_singleton.mp last, lower]

/-! ## Merging a section -/

/-- The value is a section. -/
def IsBranch (t : Tree) : Prop := ∃ entries, t = .branch entries

instance : (t : Tree) → Decidable t.IsBranch
  | .branch entries => .isTrue ⟨entries, rfl⟩
  | .missing | .boolean _ | .integer _ | .decimal _ | .string _ | .list _ => .isFalse nofun

/-- A value that is no section is held as it is. -/
theorem assign_leaf (leaf : ¬ value.IsBranch) :
    assign key value t = .branch (replace key.toLower value t.entries) := by
  rw [assign]
  exact fun entries branch => leaf ⟨entries, branch⟩

/-- Whatever a key of a section is given, the section holds a value for it, and it is the same as
before for the other keys. -/
theorem assign_eq (key : String) (value t : Tree) :
    ∃ held, assign key value t = .branch (replace key.toLower held t.entries) := by
  by_cases branch : value.IsBranch
  · obtain ⟨entries, rfl⟩ := branch
    exact ⟨_, by rw [assign]⟩
  · exact ⟨value, assign_leaf branch⟩

theorem Tidy.assign (tidy : Tidy t.entries) (key : String) (value : Tree) :
    Tidy (assign key value t).entries := by
  obtain ⟨held, same⟩ := assign_eq key value t
  rw [same]
  exact tidy.replace (toLower_idem key)

theorem Tidy.assignAll (entries : List (String × Tree)) (tidy : Tidy t.entries) :
    Tidy (assignAll entries t).entries := by
  induction entries generalizing t with
  | nil => exact tidy
  | cons entry entries ih => exact ih (tidy.assign entry.1 entry.2)

theorem IsBranch.assignAll (entries : List (String × Tree)) (branch : t.IsBranch) :
    (assignAll entries t).IsBranch := by
  induction entries generalizing t with
  | nil => exact branch
  | cons entry entries ih =>
    obtain ⟨held, same⟩ := assign_eq entry.1 entry.2 t
    exact ih ⟨_, same⟩

/-- The values that entries have for a key, in either case of its letters. -/
def named (name : String) (entries : List (String × Tree)) : List Tree :=
  entries.flatMap fun entry => if entry.1.toLower = name then [entry.2] else []

/-- Of keys that are there once, at most one has a name, if none has it in capitals. -/
theorem named_of_once {name : String} {held : List (String × Tree)} (lower : name.toLower = name)
    (once : (held.map Prod.fst).Nodup)
    (plain : ∀ key ∈ held.map Prod.fst, key.toLower = name → key = name) :
    named name held = (held.lookup name).toList := by
  have same : named name held =
      held.flatMap fun entry => if entry.1 = name then [entry.2] else [] := by
    refine List.flatMap_congr fun entry member => if_congr ⟨?_, ?_⟩ rfl rfl
    · exact plain entry.1 (List.mem_map_of_mem member)
    · intro same
      rw [same, lower]
  rw [same, flatMap_of_once (fun v => [v]) name once]
  cases held.lookup name <;> rfl

/-- Of the values for one key the last one is held, if none of them is a section. -/
theorem lookup_assignAll (entries : List (String × Tree))
    (leaves : ∀ value ∈ named name entries, ¬ value.IsBranch) :
    (assignAll entries t).entries.lookup name =
      ((named name entries).getLast?).or (t.entries.lookup name) := by
  induction entries generalizing t with
  | nil => rfl
  | cons entry entries ih =>
    obtain ⟨key, value⟩ := entry
    rw [assignAll]
    by_cases same : key.toLower = name
    · have split : named name ((key, value) :: entries) = value :: named name entries := by
        simp [named, same]
      rw [split] at leaves ⊢
      rw [ih fun v member => leaves v (List.mem_cons_of_mem _ member),
        assign_leaf (leaves value List.mem_cons_self)]
      cases named name entries <;> simp [Tree.entries, lookup_replace, same, List.getLast?_cons]
    · have split : named name ((key, value) :: entries) = named name entries := by
        simp [named, same]
      obtain ⟨held, assigned⟩ := assign_eq key value t
      rw [split] at leaves ⊢
      rw [ih leaves, assigned]
      simp [Tree.entries, lookup_replace, Ne.symm same]

/-! ## Merging along a path -/

/-- A position that any list can be made long enough for. -/
def Step.IsPossible : Step → Prop
  | .key _ => True
  | .index position => 0 ≤ position ∧ position < assumedMaxItems

instance : (step : Step) → Decidable step.IsPossible
  | .key _ => .isTrue trivial
  | .index position => inferInstanceAs (Decidable (0 ≤ position ∧ position < assumedMaxItems))

theorem alterItem?_isSome {position : Int} {change : Tree → Option Tree}
    (possible : 0 ≤ position ∧ position < assumedMaxItems) (changes : ∀ t, (change t).isSome = true) :
    (alterItem? position change t).isSome = true := by
  obtain ⟨n, rfl⟩ := Int.eq_ofNat_of_zero_le possible.1
  have small : n < assumedMaxItems := Int.ofNat_lt.mp possible.2
  have place : place? n t.items.length = some n := if_pos small
  obtain ⟨item, changed⟩ := Option.isSome_iff_exists.mp
    (changes ((t.items ++ List.replicate (n + 1 - t.items.length) missing)[n]?.getD missing))
  simp [alterItem?, place, changed]

/-- Nothing stands in the way of a value, if its path has no impossible position. -/
theorem put?_isSome {path : List Step} (possible : ∀ step ∈ path, step.IsPossible) (value t : Tree) :
    (put? path value t).isSome = true := by
  induction path generalizing t with
  | nil => rfl
  | cons step rest ih =>
    obtain ⟨first, later⟩ := List.forall_mem_cons.mp possible
    cases rest with
    | nil =>
      cases step with
      | key name => rfl
      | index position => exact alterItem?_isSome first fun _ => rfl
    | cons next rest =>
      cases step with
      | key name =>
        obtain ⟨inner, put⟩ := Option.isSome_iff_exists.mp
          (ih later ((t.entries.lookup name.toLower).getD .missing))
        simp [put?, put]
      | index position => exact alterItem?_isSome first (ih later)

/-- A path that starts with a name changes the value of this key alone. -/
theorem put?_key {rest : List Step} {t' : Tree} (put : put? (.key name :: rest) value t = some t') :
    ∃ held, t' = .branch (replace name.toLower held t.entries) := by
  cases rest with
  | nil =>
    cases put
    exact assign_eq name value t
  | cons step rest =>
    simp only [put?, Option.bind_eq_bind, Option.bind_eq_some_iff] at put
    obtain ⟨inner, -, same⟩ := put
    exact ⟨inner, (Option.some.inj same).symm⟩

end Tree

end SpeechQueue
