import SpeechQueue.Proofs.SettingReads

/-! # Which source wins

The values of the settings come from the environment, from two files or a file that is asked for, and
from what is built in. Each setting has the value of the first of these that gives it one, whatever the
other settings have. The files are merged first, then the environment over them, and what comes of this
as one source over what is built in; every tree on the way is in order (`Sectioned`). Main statement:
`load_layered`. -/

namespace SpeechQueue

open SpeechQueue.Tree

namespace Tree

variable {t : Tree} {x : Setting}

/-- A source in which no key but that of its section gives a setting a value gives it the one that it
has there. -/
theorem given_of_once {source : List (String × Tree)} (once : (source.map Prod.fst).Nodup)
    (own : ∀ entry ∈ source, x.givenAt (pathOf entry.1) entry.2 =
      if entry.1 = x.home then named x.name entry.2.entries else [])
    (single : ∀ held, source.lookup x.home = some held →
      named x.name held.entries = (held.entries.lookup x.name).toList) :
    x.given source = (x.value? (.branch source)).toList := by
  rw [Setting.given, List.flatMap_congr own,
    flatMap_of_once (fun v => named x.name v.entries) _ once, Setting.value?, entries]
  cases found : source.lookup x.home with
  | none => rfl
  | some held => exact single held found

theorem Tidy.named {held : List (String × Tree)} (tidy : Tidy held) (x : Setting) :
    named x.name held = (held.lookup x.name).toList := by
  refine named_of_once x.name_toLower tidy.once fun key member same => ?_
  rw [← same, tidy.lower key member]

/-- What a tree says of a setting as a source is the value that it has for it. -/
theorem Sectioned.given (sectioned : Sectioned t) : x.given t.entries = (x.value? t).toList := by
  refine given_of_once sectioned.tidy.once (fun entry member => ?_) fun held found => ?_
  · have key := List.mem_map_of_mem (f := Prod.fst) member
    rw [sectioned.alone _ key, Setting.givenAt, sectioned.tidy.lower _ key]
  · exact (sectioned.tidyHome ⟨x, rfl⟩ found).named x

/-- A tree whose values can be read is an orderly source. -/
theorem Sectioned.orderlySource (sectioned : Sectioned t)
    (reads : ∀ (x : Setting) v, x.value? t = some v → (x.read? v).isSome = true) :
    OrderlySource t.entries where
  orderly entry member := by
    have key := List.mem_map_of_mem (f := Prod.fst) member
    rw [sectioned.alone _ key]
    intro isSection
    rw [sectioned.tidy.lower _ key] at isSection
    exact sectioned.branch isSection (lookup_of_mem sectioned.tidy.once member)
  possible entry member step := by
    rw [sectioned.alone _ (List.mem_map_of_mem member), List.mem_singleton]
    rintro rfl
    trivial
  reads x v member := by
    rw [sectioned.given, Option.mem_toList] at member
    exact reads x v member
  once x := by
    rw [sectioned.given]
    cases x.value? t <;> simp

end Tree

/-! ## Layers -/

namespace Setting

variable {x : Setting} {source : List (String × Tree)} {value : Tree}

/-- The value that a source gives it. -/
def said? (x : Setting) (source : List (String × Tree)) : Option Tree := (x.given source).head?

/-- The value that the first of several sources gives it that gives it one. -/
def winner? (x : Setting) (sources : List (List (String × Tree))) : Option Tree :=
  sources.findSome? x.said?

@[simp] theorem winner?_nil : x.winner? [] = none := rfl

@[simp] theorem winner?_cons (sources : List (List (String × Tree))) :
    x.winner? (source :: sources) = (x.said? source).or (x.winner? sources) := by
  rw [winner?, List.findSome?_cons]
  cases x.said? source <;> rfl

theorem said?_eq_getLast? (orderly : OrderlySource source) :
    (x.given source).getLast? = x.said? source := by
  have once := orderly.once x
  rw [said?]
  match x.given source, once with
  | [], _ | [_], _ => rfl

theorem said?_of_mem (orderly : OrderlySource source) (member : value ∈ x.given source) :
    x.said? source = some value := by
  have once := orderly.once x
  rw [said?]
  match x.given source, once, member with
  | [_], _, member => rw [List.mem_singleton.mp member]; rfl

theorem reads_of_said? (orderly : OrderlySource source) (said : x.said? source = some value) :
    (x.read? value).isSome = true :=
  orderly.reads x value (List.mem_of_mem_head? said)

theorem reads_of_winner? {sources : List (List (String × Tree))}
    (orderly : ∀ source ∈ sources, OrderlySource source) (wins : x.winner? sources = some value) :
    (x.read? value).isSome = true := by
  obtain ⟨source, member, said⟩ := List.exists_of_findSome?_eq_some wins
  exact reads_of_said? (orderly source member) said

end Setting

namespace Settings

open Setting

variable {t : Tree} {source main near : List (String × Tree)} {folder : Folder}
  {path : Option String} {environment : List (String × String)}

theorem orderlySource_builtIn : OrderlySource builtIn where
  orderly entry member := by
    rw [builtIn_eq] at member
    obtain ⟨x, -, rfl⟩ := List.mem_map.mp member
    rw [pathOf_key]
    trivial
  possible entry member step := by
    rw [builtIn_eq] at member
    obtain ⟨x, -, rfl⟩ := List.mem_map.mp member
    rw [pathOf_key]
    intro member
    simp only [List.mem_cons, List.not_mem_nil, or_false] at member
    rcases member with rfl | rfl <;> trivial
  reads x v member := by
    rw [given_builtIn, List.mem_singleton] at member
    rw [member, read?_builtIn]
    rfl
  once x := by
    rw [given_builtIn]
    rfl

/-- A merged source comes before all that was merged earlier. -/
theorem add_sectioned (orderly : OrderlySource source) (sectioned : Sectioned t) :
    ∃ t', add source t = .ok t' ∧ Sectioned t' ∧
      ∀ x : Setting, x.value? t' = (x.said? source).or (x.value? t) := by
  obtain ⟨t', merged, sectioned', values⟩ := merge?_sectioned orderly sectioned
  refine ⟨t', by rw [add, merged], sectioned', fun x => ?_⟩
  rw [values, said?_eq_getLast? orderly]

/-- What a file says, if it is there. -/
def Says (file : Option String) (source : List (String × Tree)) : Prop :=
  match file with
  | none => source = []
  | some content => ofContent content = .ok source

/-- What the files say that are read: without a path, the file of the folder, and the local one that
comes before it; with a path, the file that it stands for. -/
inductive FilesSay (folder : Folder) :
    Option String → List (String × Tree) → List (String × Tree) → Prop
  | standard {main near : List (String × Tree)} :
      folder.lookup "voxqueue" = none → folder.lookup "voxqueue.local" = none →
      Says (folder.lookup "voxqueue.toml") main → Says (folder.lookup "voxqueue.local.toml") near →
      FilesSay folder none main near
  | explicit {path content : String} {main : List (String × Tree)} :
      contentOf? folder path = some content → ofContent content = .ok main →
      FilesSay folder (some path) main []

/-- The tree after a file that may be missing. -/
theorem readFile_sectioned {file : Option String} (told : Says file source)
    (orderly : OrderlySource source) (sectioned : Sectioned t) :
    ∃ t', (file.toList.foldlM (fun t content => do add (← ofContent content) t) t : Except Fault Tree) =
        .ok t' ∧ Sectioned t' ∧ ∀ x : Setting, x.value? t' = (x.said? source).or (x.value? t) := by
  cases file with
  | none =>
    cases told
    exact ⟨t, rfl, sectioned, fun x => rfl⟩
  | some content =>
    obtain ⟨t', added, sectioned', values⟩ := add_sectioned orderly sectioned
    have told : ofContent content = .ok source := told
    refine ⟨t', ?_, sectioned', values⟩
    simp only [Option.toList_some, List.foldlM_cons, List.foldlM_nil, told, added, bind, Except.bind]
    rfl

/-- A file that is not asked for has the ending of a file that can be read. -/
theorem contentOf?_of_name {name : String} (names : namesOf? name = some ([name], false))
    (absent : folder.lookup name = none) : contentOf? folder name = folder.lookup (name ++ ".toml") := by
  have joined : "/".intercalate [name] = name := rfl
  simp [contentOf?, names, joined, absent]

theorem contents_standard (main : folder.lookup "voxqueue" = none)
    (near : folder.lookup "voxqueue.local" = none) : contents folder none =
      .ok ((folder.lookup "voxqueue.toml").toList ++ (folder.lookup "voxqueue.local.toml").toList) := by
  have first : contentOf? folder "voxqueue" = folder.lookup "voxqueue.toml" :=
    contentOf?_of_name (by decide +kernel) main
  have second : contentOf? folder "voxqueue.local" = folder.lookup "voxqueue.local.toml" :=
    contentOf?_of_name (by decide +kernel) near
  rw [contents, fileNames, List.filterMap_cons, List.filterMap_cons, List.filterMap_nil, first, second]
  cases folder.lookup "voxqueue.toml" <;> cases folder.lookup "voxqueue.local.toml" <;> rfl

/-- What the files that are read say together. -/
def filesTree (folder : Folder) (path : Option String) : Except Fault Tree := do
  (← contents folder path).foldlM (fun t content => do add (← ofContent content) t) (.branch [])

theorem sources_eq (folder : Folder) (path : Option String) (environment : List (String × String)) :
    sources folder path environment = (do
      let files ← filesTree folder path
      let merged ← add (ofEnvironment environment) files
      add merged.entries (← add builtIn (Tree.branch []))) := by
  unfold sources filesTree
  cases contents folder path <;> rfl

/-- The tree after a single file. -/
theorem filesTree_of_content {content : String} (one : contents folder path = .ok [content])
    (told : ofContent content = .ok main) (orderly : OrderlySource main) :
    ∃ t, filesTree folder path = .ok t ∧ Sectioned t ∧ ∀ x : Setting, x.value? t = x.said? main := by
  have told : Says (some content) main := told
  obtain ⟨t, read, sectioned, values⟩ := readFile_sectioned told orderly .empty
  refine ⟨t, ?_, sectioned, fun x => ?_⟩
  · simp only [filesTree, one]
    exact read
  · rw [values]
    simp [Setting.value?, Tree.entries]

theorem filesTree_sectioned (files : FilesSay folder path main near) (first : OrderlySource main)
    (second : OrderlySource near) :
    ∃ t, filesTree folder path = .ok t ∧ Sectioned t ∧
      ∀ x : Setting, x.value? t = (x.said? near).or (x.said? main) := by
  cases files with
  | standard noMain noNear mainSays nearSays =>
    obtain ⟨t₁, read₁, sectioned₁, values₁⟩ := readFile_sectioned mainSays first .empty
    obtain ⟨t₂, read₂, sectioned₂, values₂⟩ := readFile_sectioned nearSays second sectioned₁
    refine ⟨t₂, ?_, sectioned₂, fun x => ?_⟩
    · rw [filesTree, contents_standard noMain noNear]
      simp only [bind, Except.bind] at read₁ read₂ ⊢
      simp only [List.foldlM_append, bind, Except.bind, read₁, read₂]
    · rw [values₂, values₁]
      simp [Setting.value?, Tree.entries]
  | @explicit path content main found mainSays =>
    have one : contents folder (some path) = .ok [content] := by simp only [contents, found]
    obtain ⟨t, read, sectioned, values⟩ := filesTree_of_content one mainSays first
    exact ⟨t, read, sectioned, fun x => by simp [values, said?, given]⟩

/-- What becomes of settings that have been read. -/
def checked (c : Settings) : Except Fault Settings :=
  match c.flaw? with
  | some flaw => .error (.invalid flaw)
  | none => .ok c

theorem load_of_ofTree? {c : Settings} (merged : sources folder path environment = .ok t)
    (read : ofTree? t = some c) : load folder path environment = c.checked := by
  simp only [load, merged, bind, Except.bind, read]
  rfl

/-- What the environment says comes before what the files say, and the built-in values count last. -/
theorem sources_of_filesTree {said : List (List (String × Tree))}
    (read : filesTree folder path = .ok t) (sectioned : Sectioned t)
    (values : ∀ x : Setting, x.value? t = x.winner? said)
    (orderly : ∀ source ∈ said, OrderlySource source)
    (third : OrderlySource (ofEnvironment environment)) :
    ∃ t', sources folder path environment = .ok t' ∧ Sectioned t' ∧
      ∀ x : Setting, x.value? t' =
        (x.winner? (ofEnvironment environment :: said)).or (some x.builtIn) := by
  obtain ⟨merged, added, sectioned₁, values₁⟩ := add_sectioned third sectioned
  have wins (x : Setting) : x.value? merged = x.winner? (ofEnvironment environment :: said) := by
    rw [values₁, values, winner?_cons]
  have reads (x : Setting) (v : Tree) (value : x.value? merged = some v) :
      (x.read? v).isSome = true :=
    reads_of_winner? (List.forall_mem_cons.mpr ⟨third, orderly⟩) (wins x ▸ value)
  obtain ⟨base, built, sectioned₂, values₂⟩ := add_sectioned orderlySource_builtIn .empty
  obtain ⟨t', whole, sectioned₃, values₃⟩ := add_sectioned (sectioned₁.orderlySource reads) sectioned₂
  refine ⟨t', ?_, sectioned₃, fun x => ?_⟩
  · rw [sources_eq]
    simp only [read, bind, Except.bind, added, built, whole]
  · have own : x.said? merged.entries = x.value? merged := by
      rw [said?, sectioned₁.given]
      cases x.value? merged <;> rfl
    have default : x.said? builtIn = some x.builtIn := by rw [said?, given_builtIn, List.head?_cons]
    rw [values₃, own, wins, values₂, default]
    rfl

/-- The sources are merged in their order, and the built-in values count last. -/
theorem sources_sectioned (files : FilesSay folder path main near) (first : OrderlySource main)
    (second : OrderlySource near) (third : OrderlySource (ofEnvironment environment)) :
    ∃ t, sources folder path environment = .ok t ∧ Sectioned t ∧
      ∀ x : Setting, x.value? t = x.winner? [ofEnvironment environment, near, main, builtIn] := by
  obtain ⟨files, read, sectioned, values⟩ := filesTree_sectioned files first second
  have said (x : Setting) : x.value? files = x.winner? [near, main] := by simp [values]
  have orderly : ∀ source ∈ [near, main], OrderlySource source := by
    simp only [List.forall_mem_cons]
    exact ⟨second, first, nofun⟩
  obtain ⟨t, merged, sectioned, values⟩ := sources_of_filesTree read sectioned said orderly third
  refine ⟨t, merged, sectioned, fun x => ?_⟩
  rw [values]
  simp [said?, given_builtIn]

/-! ## Variables -/

/-- The variable of a setting, in lower case. -/
def variableName (x : Setting) : String := "voxqueue_" ++ x.home ++ "__" ++ x.name

theorem keyOfVariable?_toLower (name : String) :
    keyOfVariable? name.toLower = keyOfVariable? name := by
  have same : name.toLower.toList.map Char.toLower = name.toList.map Char.toLower := by
    rw [← toList_toLower, toLower_idem, toList_toLower]
  simp only [keyOfVariable?, same]

theorem keyOfVariable?_variableName (x : Setting) :
    keyOfVariable? (variableName x) = some x.key := by
  cases x <;> decide +kernel

/-- The variable of a setting gives it its value. -/
theorem mem_given_of_variable {x : Setting} {entry : String × String} (member : entry ∈ environment)
    (named : entry.1.toLower = variableName x) :
    valueOfVariable entry.2 ∈ x.given (ofEnvironment environment) := by
  have key : keyOfVariable? entry.1 = some x.key := by
    rw [← keyOfVariable?_toLower, named, keyOfVariable?_variableName]
  refine List.mem_flatMap.mpr ⟨(x.key, valueOfVariable entry.2), ?_, ?_⟩
  · exact List.mem_filterMap.mpr ⟨entry, member, by simp [key]⟩
  · rw [pathOf_key, givenAt_own, if_pos rfl]
    exact List.mem_singleton_self _

/-! ## The winners -/

/-- A setting has the value that the first of the sources gives it that gives it one. -/
structure Layered (environment : List (String × String)) (sources : List (List (String × Tree)))
    (t : Tree) (c : Settings) (x : Setting) : Prop where
  value : x.value? t = x.winner? sources
  read : ∃ v, x.value? t = some v ∧ x.read? v = some (x.of c)
  /-- The variable of a setting comes before all else. -/
  variable_first : ∀ entry ∈ environment, entry.1.toLower = variableName x →
    x.value? t = some (valueOfVariable entry.2)

/-- Of what orderly sources say, settings are read one by one: each has the value of its variable, or
else that of the local file, or else that of the other file, or else the built-in one. -/
theorem load_layered (files : FilesSay folder path main near) (first : OrderlySource main)
    (second : OrderlySource near) (third : OrderlySource (ofEnvironment environment)) :
    ∃ t c, sources folder path environment = .ok t ∧ ofTree? t = some c ∧
      load folder path environment = c.checked ∧
      ∀ x : Setting, Layered environment [ofEnvironment environment, near, main, builtIn] t c x := by
  obtain ⟨t, merged, sectioned, values⟩ := sources_sectioned files first second third
  have orderly : ∀ source ∈ [ofEnvironment environment, near, main, builtIn], OrderlySource source := by
    simp only [List.forall_mem_cons]
    exact ⟨third, second, first, orderlySource_builtIn, nofun⟩
  have readable (x : Setting) : ∃ a v, x.value? t = some v ∧ x.read? v = some a := by
    have wins : (x.winner? [ofEnvironment environment, near, main, builtIn]).isSome = true := by
      simp [said?, given_builtIn]
    obtain ⟨v, wins⟩ := Option.isSome_iff_exists.mp wins
    obtain ⟨a, read⟩ := Option.isSome_iff_exists.mp (reads_of_winner? orderly wins)
    exact ⟨a, v, (values x).trans wins, read⟩
  choose value v found read using readable
  have settings : ofTree? t = some (build value) := by
    refine ofTree?_eq_some sectioned.root (fun home held => sectioned.branch) fun x => ?_
    rw [found, of_build]
    exact read x
  refine ⟨t, build value, merged, settings, load_of_ofTree? merged settings, fun x => ?_⟩
  refine ⟨values x, ?_, ?_⟩
  · exact ⟨v x, found x, (read x).trans (congrArg some (of_build value x).symm)⟩
  · intro entry member named
    rw [values, winner?_cons, said?_of_mem third (mem_given_of_variable member named)]
    rfl

/-- Whether a file is an orderly source can be computed. -/
theorem exists_orderlySource {content : String}
    (orderly : (ofContent content).toOption.any (fun source => decide (OrderlySource source)) = true) :
    ∃ source, ofContent content = .ok source ∧ OrderlySource source := by
  cases read : ofContent content with
  | error fault => simp [read, Except.toOption] at orderly
  | ok source => exact ⟨source, rfl, by simpa [read, Except.toOption] using orderly⟩

/-- Both files and the environment set the speed, and both files the supported languages. -/
theorem layered_of_three :
    let common := "title = \"x\"\n[engine]\nlocale = \"fr-FR\"\nwords_per_minute = 200\n" ++
      "supported_locales = [\"fr-FR\"]\n"
    let own := "[engine]\nwords_per_minute = 220\nsupported_locales = [\"fr-CA\", \"fr-FR\"]\n"
    let folder : Folder := [("voxqueue.toml", common), ("voxqueue.local.toml", own)]
    let environment := [("Voxqueue_Engine__Words_Per_Minute", "240"), ("VOXQUEUE_OTHER", "1")]
    ∃ main near t c, FilesSay folder none main near ∧ OrderlySource main ∧ OrderlySource near ∧
      OrderlySource (ofEnvironment environment) ∧
      sources folder none environment = .ok t ∧ ofTree? t = some c ∧
      load folder none environment = c.checked ∧
      ∀ x : Setting, Layered environment [ofEnvironment environment, near, main, builtIn] t c x := by
  intro common own folder environment
  obtain ⟨main, mainRead, first⟩ :=
    exists_orderlySource (show (ofContent common).toOption.any _ = true by decide +kernel)
  obtain ⟨near, nearRead, second⟩ :=
    exists_orderlySource (show (ofContent own).toOption.any _ = true by decide +kernel)
  have third : OrderlySource (ofEnvironment environment) := by decide +kernel
  have files : FilesSay folder none main near := .standard rfl rfl mainRead nearRead
  obtain ⟨t, c, loaded⟩ := load_layered files first second third
  exact ⟨main, near, t, c, files, first, second, third, loaded⟩

/-- A name with a dot is not the variable of a setting, and still sets one. -/
theorem dot_in_variable :
    (∀ x : Setting, "VOXQUEUE_ENGINE.LOCALE".toLower ≠ variableName x) ∧
      (load [] none []).toOption.map (·.engine.locale) = some "en-US" ∧
      (load [] none [("VOXQUEUE_ENGINE.LOCALE", "fr-FR")]).toOption.map (·.engine.locale) =
        some "fr-FR" := by
  decide +kernel

end Settings

end SpeechQueue
