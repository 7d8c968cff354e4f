import SpeechQueue.Proofs.MergedTrees
import SpeechQueue.Settings.Load

/-! # What a source says of each setting

A setting has a name within a section. A source can give it a value among the keys of the section, or
under a path of its own, and in any case of the letters (`Setting.given`). Main statement:
`merge?_sectioned`, of each setting alone: merging a source gives a tree the value that the source gives
the setting, if there is one, and leaves the value that the tree has otherwise. -/

namespace SpeechQueue

open SpeechQueue.Tree

/-- What can be configured. -/
inductive Setting where
  | locale
  | supportedLocales
  | initDelay
  | wordsPerMinute
  | queueCapacity
  | rate
  | pitch
  | volume
  | level
  | json
deriving DecidableEq, Repr

namespace Setting

/-- The section that it is in. -/
def home : Setting → String
  | .locale | .supportedLocales | .initDelay | .wordsPerMinute | .queueCapacity => "engine"
  | .rate | .pitch | .volume => "speech"
  | .level | .json => "log"

/-- Its name within the section. -/
def name : Setting → String
  | .locale => "locale"
  | .supportedLocales => "supported_locales"
  | .initDelay => "init_delay_ms"
  | .wordsPerMinute => "words_per_minute"
  | .queueCapacity => "queue_capacity"
  | .rate => "rate"
  | .pitch => "pitch"
  | .volume => "volume"
  | .level => "level"
  | .json => "json"

/-- The values that it can have. -/
def Value : Setting → Type
  | .locale | .level => String
  | .supportedLocales => List String
  | .initDelay | .wordsPerMinute | .queueCapacity => Nat
  | .rate | .pitch | .volume => Single
  | .json => Bool

/-- How a value that a source gives is read. -/
def read? : (x : Setting) → Tree → Option x.Value
  | .locale, t | .level, t => t.text?
  | .supportedLocales, t => t.texts?
  | .initDelay, t | .queueCapacity, t => t.unsigned? Settings.maxWhole
  | .wordsPerMinute, t => t.unsigned? Settings.maxSpeed
  | .rate, t | .pitch, t | .volume, t => t.number?
  | .json, t => t.flag?

/-- Its value in settings. -/
def of (c : Settings) : (x : Setting) → x.Value
  | .locale => c.engine.locale
  | .supportedLocales => c.engine.supportedLocales
  | .initDelay => c.engine.initDelay
  | .wordsPerMinute => c.engine.wordsPerMinute
  | .queueCapacity => c.engine.queueCapacity
  | .rate => c.speech.rate
  | .pitch => c.speech.pitch
  | .volume => c.speech.volume
  | .level => c.log.level
  | .json => c.log.json

/-- All settings. -/
def all : List Setting :=
  [.locale, .supportedLocales, .initDelay, .wordsPerMinute, .queueCapacity, .rate, .pitch, .volume,
    .level, .json]

theorem mem_all (x : Setting) : x ∈ all := by
  cases x <;> decide

instance (p : Setting → Prop) [DecidablePred p] : Decidable (∃ x, p x) :=
  decidable_of_iff (∃ x ∈ all, p x)
    ⟨fun ⟨x, _, holds⟩ => ⟨x, holds⟩, fun ⟨x, holds⟩ => ⟨x, mem_all x, holds⟩⟩

instance (p : Setting → Prop) [DecidablePred p] : Decidable (∀ x, p x) :=
  decidable_of_iff (∀ x ∈ all, p x) ⟨fun holds x => holds x (mem_all x), fun holds x _ => holds x⟩

/-- No setting is a section. -/
theorem leaf_of_read? {x : Setting} {t : Tree} (reads : (x.read? t).isSome = true) : ¬ t.IsBranch := by
  rintro ⟨entries, rfl⟩
  cases x <;> cases reads

/-- The value that a tree has for it. -/
def value? (x : Setting) (t : Tree) : Option Tree :=
  (t.entries.lookup x.home).bind (·.entries.lookup x.name)

/-- The values that it is given under a path. -/
def givenAt (x : Setting) (path : List Step) (value : Tree) : List Tree :=
  match path with
  | [.key home] => if home.toLower = x.home then named x.name value.entries else []
  | [.key home, .key name] => if home.toLower = x.home ∧ name.toLower = x.name then [value] else []
  | _ => []

/-- The values that it is given by a source. -/
def given (x : Setting) (source : List (String × Tree)) : List Tree :=
  source.flatMap fun entry => x.givenAt (pathOf entry.1) entry.2

end Setting

/-- There is a section with the name. -/
def IsSection (home : String) : Prop := ∃ x : Setting, x.home = home

/-- There is a setting with the name in a section. -/
def IsSetting (home name : String) : Prop := ∃ x : Setting, x.home = home ∧ x.name = name

instance (home : String) : Decidable (IsSection home) := inferInstanceAs (Decidable (∃ _, _))

instance (home name : String) : Decidable (IsSetting home name) := inferInstanceAs (Decidable (∃ _, _))

/-- A path to a section comes with its keys and their values, and there is no path to a position of a
section, or to a part of a setting. -/
def Orderly (path : List Step) (value : Tree) : Prop :=
  match path with
  | [.key home] => IsSection home.toLower → value.IsBranch
  | .key home :: .index _ :: _ => ¬ IsSection home.toLower
  | .key home :: .key name :: _ :: _ => ¬ IsSetting home.toLower name.toLower
  | _ => True

instance (value : Tree) : (path : List Step) → Decidable (Orderly path value)
  | [.key home] => inferInstanceAs (Decidable (IsSection home.toLower → value.IsBranch))
  | .key home :: .index _ :: _ => inferInstanceAs (Decidable (¬ IsSection home.toLower))
  | .key home :: .key name :: _ :: _ =>
    inferInstanceAs (Decidable (¬ IsSetting home.toLower name.toLower))
  | [] | .index _ :: _ | [.key _, .key _] => .isTrue trivial

namespace Tree

/-- A tree in which what is there of the sections are sections, with every key once, in lower case, and
with no key that would be read as a longer path. -/
structure Sectioned (t : Tree) : Prop where
  root : t.IsBranch
  tidy : Tidy t.entries
  alone : ∀ key ∈ t.entries.map Prod.fst, pathOf key = [.key key]
  branch : ∀ {home held}, IsSection home → t.entries.lookup home = some held → held.IsBranch
  tidyHome : ∀ {home held}, IsSection home → t.entries.lookup home = some held → Tidy held.entries

theorem Sectioned.empty : Sectioned (.branch []) where
  root := ⟨[], rfl⟩
  tidy := .nil
  alone := by simp [entries]
  branch _ found := by cases found
  tidyHome _ found := by cases found

variable {t value held : Tree} {home name key : String} {rest : List Step} {x : Setting}

theorem Sectioned.replace (sectioned : Sectioned t) (lower : key.toLower = key)
    (alone : pathOf key = [.key key])
    (section_ok : IsSection key → held.IsBranch ∧ Tidy held.entries) :
    Sectioned (.branch (replace key held t.entries)) where
  root := ⟨_, rfl⟩
  tidy := sectioned.tidy.replace lower
  alone := by
    intro other member
    rw [entries, keys_replace] at member
    split at member
    · exact sectioned.alone other member
    · rcases List.mem_append.mp member with earlier | last
      · exact sectioned.alone other earlier
      · rw [List.mem_singleton.mp last, alone]
  branch {home inner} isSection found := by
    rw [entries, lookup_replace] at found
    split at found
    · next same =>
      cases found
      exact (section_ok (same ▸ isSection)).1
    · exact sectioned.branch isSection found
  tidyHome {home inner} isSection found := by
    rw [entries, lookup_replace] at found
    split at found
    · next same =>
      cases found
      exact (section_ok (same ▸ isSection)).2
    · exact sectioned.tidyHome isSection found

/-- Only the settings of a section change when the section is replaced. -/
theorem value?_replace : x.value? (.branch (replace key held t.entries)) =
    if x.home = key then held.entries.lookup x.name else x.value? t := by
  rw [Setting.value?, entries, lookup_replace]
  split <;> rfl

/-- The section that is changed has what the tree has for its settings. -/
theorem lookup_target (same : x.home = key) (default : Tree) (empty : default.entries = []) :
    ((t.entries.lookup key).getD default).entries.lookup x.name = x.value? t := by
  rw [Setting.value?, same]
  cases t.entries.lookup key with
  | none => simp [empty]
  | some held => rfl

theorem Sectioned.tidy_target (sectioned : Sectioned t) (isSection : IsSection key) (default : Tree)
    (empty : default.entries = []) : Tidy ((t.entries.lookup key).getD default).entries := by
  cases found : t.entries.lookup key with
  | none =>
    rw [Option.getD_none, empty]
    exact .nil
  | some held => exact sectioned.tidyHome isSection found

/-- A setting of another section is given nothing. -/
theorem givenAt_of_ne (other : x.home ≠ home.toLower) : x.givenAt (.key home :: rest) value = [] := by
  match rest with
  | [] => exact if_neg (Ne.symm other)
  | [.key _] => exact if_neg fun both => other both.1.symm
  | .index _ :: _ | .key _ :: _ :: _ => rfl

/-- A setting with another name is given nothing. -/
theorem givenAt_of_name_ne (other : x.name ≠ name.toLower) :
    x.givenAt (.key home :: .key name :: rest) value = [] := by
  cases rest with
  | nil => exact if_neg fun both => other both.2.symm
  | cons => rfl

/-- What a section holds once a path that starts with its name is given a value. -/
structure Takes (t : Tree) (home : String) (path : List Step) (value held : Tree) : Prop where
  put : put? path value t = some (.branch (Tree.replace home.toLower held t.entries))
  inOrder : IsSection home.toLower → held.IsBranch ∧ Tidy held.entries
  values : ∀ x : Setting, x.home = home.toLower → held.entries.lookup x.name =
    ((x.givenAt path value).getLast?).or (x.value? t)

/-- A section is merged key by key. -/
theorem takes_home (sectioned : Sectioned t) (isSection : IsSection home.toLower)
    (entries : List (String × Tree))
    (leaves : ∀ x : Setting, ∀ v ∈ x.givenAt [.key home] (.branch entries), ¬ v.IsBranch) :
    ∃ held, Takes t home [.key home] (.branch entries) held := by
  have target : ((t.entries.lookup home.toLower).getD (.branch [])).IsBranch := by
    cases found : t.entries.lookup home.toLower with
    | none => exact ⟨[], rfl⟩
    | some held => exact sectioned.branch isSection found
  refine ⟨assignAll entries ((t.entries.lookup home.toLower).getD (.branch [])), ?_, ?_, ?_⟩
  · rw [put?, assign]
  · exact fun _ => ⟨target.assignAll entries, (sectioned.tidy_target isSection _ rfl).assignAll entries⟩
  · intro x same
    have given : x.givenAt [.key home] (.branch entries) = named x.name entries := if_pos same.symm
    have leaf := leaves x
    rw [given] at leaf ⊢
    rw [lookup_assignAll entries leaf, lookup_target same _ rfl]

/-- A setting is given its value. -/
theorem takes_setting (sectioned : Sectioned t) (leaf : ¬ value.IsBranch) :
    ∃ held, Takes t home [.key home, .key name] value held := by
  let target := (t.entries.lookup home.toLower).getD .missing
  have assigned : assign name value target = .branch (replace name.toLower value target.entries) :=
    assign_leaf leaf
  refine ⟨.branch (replace name.toLower value target.entries), ?_, ?_, ?_⟩
  · rw [← assigned]
    rfl
  · exact fun isSection => ⟨⟨_, rfl⟩,
      (sectioned.tidy_target isSection .missing rfl).replace (toLower_idem name)⟩
  · intro x same
    rw [entries, lookup_replace, lookup_target same _ rfl]
    by_cases named : x.name = name.toLower
    · simp [Setting.givenAt, same, named]
    · simp [Setting.givenAt, named, Ne.symm named]

/-- A path that leads to no section changes no setting. -/
theorem takes_apart (apart : ¬ IsSection home.toLower)
    (possible : ∀ step ∈ Step.key home :: rest, step.IsPossible) :
    ∃ held, Takes t home (.key home :: rest) value held := by
  obtain ⟨t', put⟩ := Option.isSome_iff_exists.mp (put?_isSome possible value t)
  obtain ⟨held, rfl⟩ := put?_key put
  exact ⟨held, put, fun isSection => absurd isSection apart, fun x same => absurd ⟨x, same⟩ apart⟩

/-- A path that leads to a part of a section that is no setting, or further on, changes no setting
either. -/
theorem takes_aside (sectioned : Sectioned t)
    (possible : ∀ step ∈ Step.key home :: .key name :: rest, step.IsPossible)
    (aside : ¬ IsSetting home.toLower name.toLower) :
    ∃ held, Takes t home (.key home :: .key name :: rest) value held := by
  let target := (t.entries.lookup home.toLower).getD .missing
  have later : ∀ step ∈ Step.key name :: rest, step.IsPossible := fun step member =>
    possible step (List.mem_cons_of_mem _ member)
  obtain ⟨inner, put⟩ := Option.isSome_iff_exists.mp (put?_isSome later value target)
  obtain ⟨held, rfl⟩ := put?_key put
  refine ⟨.branch (replace name.toLower held target.entries), ?_, ?_, ?_⟩
  · rw [put?, put]
    rfl
  · exact fun isSection => ⟨⟨_, rfl⟩,
      (sectioned.tidy_target isSection .missing rfl).replace (toLower_idem name)⟩
  · intro x same
    have other : x.name ≠ name.toLower := fun named => aside ⟨x, same, named⟩
    rw [givenAt_of_name_ne other, entries, lookup_replace, if_neg other, lookup_target same _ rfl]
    rfl

/-- Whatever an orderly path leads to, the tree stays in order, and each setting has the value that it
is given or else the one that it had. -/
theorem put?_sectioned (sectioned : Sectioned t) {path : List Step} (first : path = .key home :: rest)
    (alone : pathOf home.toLower = [.key home.toLower]) (orderly : Orderly path value)
    (possible : ∀ step ∈ path, step.IsPossible)
    (reads : ∀ x : Setting, ∀ v ∈ x.givenAt path value, (x.read? v).isSome = true) :
    ∃ t', put? path value t = some t' ∧ Sectioned t' ∧
      ∀ x : Setting, x.value? t' = ((x.givenAt path value).getLast?).or (x.value? t) := by
  have leaves (x : Setting) : ∀ v ∈ x.givenAt path value, ¬ v.IsBranch := fun v member =>
    Setting.leaf_of_read? (reads x v member)
  have taken : ∃ held, Takes t home path value held := by
    subst first
    match rest, orderly, possible, leaves with
    | [], orderly, possible, leaves =>
      by_cases isSection : IsSection home.toLower
      · obtain ⟨entries, rfl⟩ := orderly isSection
        exact takes_home sectioned isSection entries leaves
      · exact takes_apart isSection possible
    | .index _ :: _, apart, possible, _ => exact takes_apart apart possible
    | [.key name], _, possible, leaves =>
      by_cases isSetting : IsSetting home.toLower name.toLower
      · obtain ⟨x, inHome, named⟩ := isSetting
        refine takes_setting sectioned (leaves x value ?_)
        simp [Setting.givenAt, inHome, named]
      · exact takes_aside sectioned possible isSetting
    | .key _ :: _ :: _, aside, possible, _ => exact takes_aside sectioned possible aside
  obtain ⟨held, put, inOrder, values⟩ := taken
  refine ⟨_, put, sectioned.replace (toLower_idem home) alone inOrder, fun x => ?_⟩
  rw [value?_replace]
  split
  · next same => exact values x same
  · next other =>
    rw [first, givenAt_of_ne other]
    rfl

/-! ## Merging a source -/

/-- Every key of a source is orderly and can be followed, and each setting is given at most one value,
which can be read. -/
structure OrderlySource (source : List (String × Tree)) : Prop where
  orderly : ∀ entry ∈ source, Orderly (pathOf entry.1) entry.2
  possible : ∀ entry ∈ source, ∀ step ∈ pathOf entry.1, step.IsPossible
  reads : ∀ x : Setting, ∀ value ∈ x.given source, (x.read? value).isSome = true
  once : ∀ x : Setting, (x.given source).length ≤ 1

instance (source : List (String × Tree)) : Decidable (OrderlySource source) :=
  decidable_of_iff ((∀ entry ∈ source, Orderly (pathOf entry.1) entry.2) ∧
      (∀ entry ∈ source, ∀ step ∈ pathOf entry.1, step.IsPossible) ∧
      (∀ x : Setting, ∀ value ∈ x.given source, (x.read? value).isSome = true) ∧
      ∀ x : Setting, (x.given source).length ≤ 1)
    ⟨fun ⟨orderly, possible, reads, once⟩ => ⟨orderly, possible, reads, once⟩,
      fun ⟨orderly, possible, reads, once⟩ => ⟨orderly, possible, reads, once⟩⟩

theorem merge?_cons (key : String) (value : Tree) (source : List (String × Tree)) (t : Tree) :
    merge? ((key, value) :: source) t = (put? (pathOf key) value t).bind (merge? source) := rfl

/-- Each setting gets the last value that the source gives it, or else keeps the one that it had. -/
theorem merge?_sectioned {source : List (String × Tree)} (orderly : OrderlySource source)
    (sectioned : Sectioned t) : ∃ t', merge? source t = some t' ∧ Sectioned t' ∧
      ∀ x : Setting, x.value? t' = ((x.given source).getLast?).or (x.value? t) := by
  induction source generalizing t with
  | nil => exact ⟨t, rfl, sectioned, fun _ => rfl⟩
  | cons entry source ih =>
    obtain ⟨key, value⟩ := entry
    obtain ⟨home, rest, first, -⟩ := pathOf_first key
    have split (x : Setting) :
        x.given ((key, value) :: source) = x.givenAt (pathOf key) value ++ x.given source := rfl
    obtain ⟨t₁, put, sectioned₁, values₁⟩ := put?_sectioned sectioned first
      (pathOf_first_toLower first) (orderly.orderly (key, value) List.mem_cons_self)
      (orderly.possible (key, value) List.mem_cons_self)
      fun x v member => orderly.reads x v (split x ▸ List.mem_append_left _ member)
    have later : OrderlySource source :=
      ⟨fun entry member => orderly.orderly entry (List.mem_cons_of_mem _ member),
        fun entry member => orderly.possible entry (List.mem_cons_of_mem _ member),
        fun x v member => orderly.reads x v (split x ▸ List.mem_append_right _ member),
        fun x => Nat.le_trans (by simp [split]) (orderly.once x)⟩
    obtain ⟨t₂, merged, sectioned₂, values₂⟩ := ih later sectioned₁
    refine ⟨t₂, ?_, sectioned₂, fun x => ?_⟩
    · rw [merge?_cons, put]
      exact merged
    · rw [values₂, values₁, split, List.getLast?_append, Option.or_assoc]

end Tree

end SpeechQueue
