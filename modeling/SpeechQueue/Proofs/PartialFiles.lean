import SpeechQueue.Proofs.DocumentKeys
import SpeechQueue.Proofs.Precedence
import SpeechQueue.Proofs.StrictReads

/-! # A file that states some settings

Every default is there twice: as a built-in value, which is merged with the sources, and as the value of
what is missing where settings are read. Settings that are loaded from a file that states some of them
are those that are read from the file alone. Main statement: `load_partial`. -/

namespace SpeechQueue

open SpeechQueue.Tree

variable {entries : List (String × Toml)} {x : Setting} {v : Toml}

namespace Tree

theorem ofTomlEntries_eq (entries : List (String × Toml)) :
    ofTomlEntries entries = entries.map fun entry => (entry.1, ofToml entry.2) := by
  induction entries with
  | nil => rw [ofTomlEntries, List.map_nil]
  | cons entry entries ih => rw [ofTomlEntries, ih, List.map_cons]

theorem keys_ofTomlEntries (entries : List (String × Toml)) :
    (ofTomlEntries entries).map Prod.fst = entries.map Prod.fst := by
  rw [ofTomlEntries_eq, List.map_map]
  rfl

theorem lookup_ofTomlEntries (key : String) (entries : List (String × Toml)) :
    (ofTomlEntries entries).lookup key = (entries.lookup key).map ofToml := by
  induction entries with
  | nil => rfl
  | cons entry entries ih =>
    rw [ofTomlEntries, lookup_cons_ite, lookup_cons_ite, ih]
    split <;> rfl

end Tree

/-! ## Documents that state some settings -/

/-- A path that leads neither to a section, nor to a position of one, nor to a setting or a part of
it. -/
def Aside : List Step → Prop
  | [.key home] | .key home :: .index _ :: _ => ¬ IsSection home.toLower
  | .key home :: .key name :: _ => ¬ IsSetting home.toLower name.toLower
  | [] | .index _ :: _ => True

/-- A section of a document in which every setting, named in whatever case of the letters, is named as
it is and has a value of its kind. -/
def Typed (home : String) : Toml → Prop
  | .table held => ∀ entry ∈ held, ∀ x : Setting, x.home = home → entry.1.toLower = x.name →
      entry.1 = x.name ∧ (x.ownKind? entry.2).isSome = true
  | _ => False

instance : (path : List Step) → Decidable (Aside path)
  | [.key home] | .key home :: .index _ :: _ => inferInstanceAs (Decidable (¬ IsSection home.toLower))
  | .key home :: .key name :: _ => inferInstanceAs (Decidable (¬ IsSetting home.toLower name.toLower))
  | [] | .index _ :: _ => .isTrue trivial

instance (home : String) : (v : Toml) → Decidable (Typed home v)
  | .table held => inferInstanceAs (Decidable (∀ entry ∈ held, ∀ x : Setting, x.home = home →
      entry.1.toLower = x.name → entry.1 = x.name ∧ (x.ownKind? entry.2).isSome = true))
  | .boolean _ | .integer _ | .decimal _ | .moment _ | .string _ | .array _ => .isFalse id

/-- A document that states some settings, and beside them only what leads elsewhere. -/
structure Partial (entries : List (String × Toml)) : Prop where
  sections : ∀ entry ∈ entries, IsSection entry.1 → Typed entry.1 entry.2
  others : ∀ entry ∈ entries, ¬ IsSection entry.1 → Aside (pathOf entry.1)
  possible : ∀ entry ∈ entries, ∀ step ∈ pathOf entry.1, step.IsPossible

instance (entries : List (String × Toml)) : Decidable (Partial entries) :=
  decidable_of_iff ((∀ entry ∈ entries, IsSection entry.1 → Typed entry.1 entry.2) ∧
      (∀ entry ∈ entries, ¬ IsSection entry.1 → Aside (pathOf entry.1)) ∧
      ∀ entry ∈ entries, ∀ step ∈ pathOf entry.1, step.IsPossible)
    ⟨fun ⟨sections, others, possible⟩ => ⟨sections, others, possible⟩,
      fun ⟨sections, others, possible⟩ => ⟨sections, others, possible⟩⟩

theorem pathOf_section {home : String} (isSection : IsSection home) : pathOf home = [.key home] := by
  obtain ⟨x, rfl⟩ := isSection
  cases x <;> decide +kernel

/-- A path that leads elsewhere gives no setting a value. -/
theorem Aside.givenAt {path : List Step} (aside : Aside path) (value : Tree) :
    x.givenAt path value = [] := by
  match path, aside with
  | [.key home], aside => exact if_neg fun same => aside ⟨x, same.symm⟩
  | [.key home, .key name], aside =>
    exact if_neg fun both => aside ⟨x, both.1.symm, both.2.symm⟩
  | [], _ | .index _ :: _, _ | .key _ :: .index _ :: _, _ | .key _ :: .key _ :: _ :: _, _ => rfl

theorem Aside.orderly {path : List Step} (aside : Aside path) (value : Tree) :
    Orderly path value := by
  match path, aside with
  | [.key home], aside => exact fun isSection => absurd isSection aside
  | .key home :: .index _ :: _, aside => exact aside
  | .key home :: .key name :: _ :: _, aside => exact aside
  | [], _ | .index _ :: _, _ | [.key _, .key _], _ => trivial

theorem Typed.table {home : String} (typed : Typed home v) : ∃ held, v = .table held := by
  cases v with
  | table held => exact ⟨held, rfl⟩
  | _ => exact typed.elim

namespace Partial

/-- What is under the name of a section is a section, whose settings are named as they are. -/
theorem typed (partly : Partial entries) (found : entries.lookup x.home = some v) :
    Typed x.home v :=
  partly.sections _ (mem_of_lookup found) ⟨x, rfl⟩

theorem ownKind_of_entry? (partly : Partial entries) (found : x.entry? entries = some v) :
    (x.ownKind? v).isSome = true := by
  rw [Setting.entry?] at found
  split at found
  · next held inside =>
    exact (partly.typed inside _ (mem_of_lookup found) x rfl x.name_toLower).2
  · cases found

theorem value?_eq (partly : Partial entries) :
    x.value? (.branch (ofTomlEntries entries)) = (x.entry? entries).map ofToml := by
  rw [Setting.value?, Tree.entries, lookup_ofTomlEntries, Setting.entry?]
  cases found : entries.lookup x.home with
  | none => rfl
  | some v =>
    obtain ⟨held, rfl⟩ := (partly.typed found).table
    exact lookup_ofTomlEntries x.name held

/-- What the document says of a setting is what it has for it. -/
theorem given_eq (partly : Partial entries) (distinct : (Toml.table entries).Distinct) :
    x.given (ofTomlEntries entries) = ((x.entry? entries).map ofToml).toList := by
  rw [← partly.value?_eq]
  refine given_of_once ?_ (fun entry member => ?_) fun held found => ?_
  · rw [keys_ofTomlEntries]
    exact distinct.keys
  · rw [ofTomlEntries_eq] at member
    obtain ⟨entry, stated, rfl⟩ := List.mem_map.mp member
    -- Only the name of a section as it is written gives its settings values.
    by_cases isSection : IsSection entry.1
    · rw [pathOf_section isSection, Setting.givenAt]
      obtain ⟨y, same⟩ := isSection
      rw [← same, y.home_toLower]
    · rw [(partly.others entry stated isSection).givenAt, if_neg]
      exact fun same => isSection ⟨x, same.symm⟩
  · rw [lookup_ofTomlEntries] at found
    obtain ⟨v, inside, rfl⟩ := Option.map_eq_some_iff.mp found
    have typed := partly.typed inside
    obtain ⟨held, rfl⟩ := typed.table
    refine named_of_once x.name_toLower ?_ fun key member same => ?_
    · rw [ofToml, Tree.entries, keys_ofTomlEntries]
      exact (distinct.entry (mem_of_lookup inside)).keys
    · rw [ofToml, Tree.entries, keys_ofTomlEntries] at member
      obtain ⟨entry, stated, rfl⟩ := List.mem_map.mp member
      exact (typed entry stated x rfl same).1

theorem orderlySource (partly : Partial entries) (distinct : (Toml.table entries).Distinct) :
    OrderlySource (ofTomlEntries entries) where
  orderly entry member := by
    rw [ofTomlEntries_eq] at member
    obtain ⟨entry, stated, rfl⟩ := List.mem_map.mp member
    by_cases isSection : IsSection entry.1
    · rw [pathOf_section isSection]
      obtain ⟨held, same⟩ := (partly.sections entry stated isSection).table
      rw [same, ofToml]
      exact fun _ => ⟨_, rfl⟩
    · exact (partly.others entry stated isSection).orderly _
  possible entry member := by
    rw [ofTomlEntries_eq] at member
    obtain ⟨entry, stated, rfl⟩ := List.mem_map.mp member
    exact partly.possible entry stated
  reads x value member := by
    rw [partly.given_eq distinct, Option.mem_toList] at member
    obtain ⟨v, found, rfl⟩ := Option.map_eq_some_iff.mp member
    obtain ⟨a, own⟩ := Option.isSome_iff_exists.mp (partly.ownKind_of_entry? found)
    rw [Setting.read?_of_ownKind? own]
    rfl
  once x := by
    rw [partly.given_eq distinct]
    cases (x.entry? entries).map ofToml <;> simp

theorem isBranch (partly : Partial entries) {home : String} {held : Tree} (isSection : IsSection home)
    (found : (ofTomlEntries entries).lookup home = some held) : held.IsBranch := by
  obtain ⟨x, rfl⟩ := isSection
  rw [lookup_ofTomlEntries] at found
  obtain ⟨v, inside, rfl⟩ := Option.map_eq_some_iff.mp found
  obtain ⟨inner, rfl⟩ := (partly.typed inside).table
  exact ⟨_, by rw [ofToml]⟩

/-- Where a document has no value for a setting, its default is read. -/
theorem readOr_eq (partly : Partial entries) (x : Setting) :
    x.readOr ((x.entry? entries).map ofToml) = some ((x.stated? entries).getD (x.of .default)) := by
  rw [Setting.stated?]
  cases found : x.entry? entries with
  | none => rfl
  | some v =>
    obtain ⟨a, own⟩ := Option.isSome_iff_exists.mp (partly.ownKind_of_entry? found)
    rw [Option.bind_some, own]
    exact Setting.read?_of_ownKind? own

/-! ### In JSON -/

variable {j : JsonValue} {form : Option JsonValue} {c : Settings}

/-- A form of what a document has for a setting, where there may be none, gives the same value. -/
theorem part_written (partly : Partial entries)
    (written : Option.Rel Toml.WrittenAs (x.entry? entries) form) :
    JsonValue.part x.readJson? (x.of .default) form =
      some ((x.stated? entries).getD (x.of .default)) := by
  rw [Setting.stated?]
  cases found : x.entry? entries with
  | none =>
    rw [found] at written
    cases written
    rfl
  | some v =>
    rw [found] at written
    obtain ⟨a, own⟩ := Option.isSome_iff_exists.mp (partly.ownKind_of_entry? found)
    cases written with
    | some written =>
      rw [Option.bind_some, own]
      exact Setting.readJson?_written written own

/-- A form of a section, if it is there, gives the values of the settings that are in it, and otherwise
these are the defaults. -/
theorem section_written (partly : Partial entries) (distinct : (Toml.table entries).Distinct)
    (stated : ∀ x : Setting, x.of c = (x.stated? entries).getD (x.of .default))
    (y : Setting) (written : Option.Rel Toml.WrittenAs (entries.lookup y.home) form) :
    (form = none ∧ ∀ x : Setting, x.home = y.home → x.of c = x.of .default) ∨
      ∃ j held, form = some j ∧ (∀ names, j.parts? names = some (names.map held)) ∧
        ∀ x : Setting, x.home = y.home →
          JsonValue.part x.readJson? (x.of .default) (held x.name) = some (x.of c) := by
  cases found : entries.lookup y.home with
  | none =>
    rw [found] at written
    cases written
    refine .inl ⟨rfl, fun x same => ?_⟩
    simp [stated, Setting.stated?, Setting.entry?, same, found]
  | some v =>
    rw [found] at written
    obtain ⟨inner, rfl⟩ := (partly.typed found).table
    cases written with
    | @some _ j written =>
      have once := (distinct.entry (mem_of_lookup found)).keys
      obtain ⟨held, parts, forms⟩ := written.parts? once
      refine .inr ⟨j, held, rfl, parts, fun x same => ?_⟩
      have entry : x.entry? entries = inner.lookup x.name := by simp [Setting.entry?, same, found]
      rw [stated]
      exact partly.part_written (entry ▸ forms x.name)

theorem engine_written (partly : Partial entries) (distinct : (Toml.table entries).Distinct)
    (stated : ∀ x : Setting, x.of c = (x.stated? entries).getD (x.of .default))
    (written : Option.Rel Toml.WrittenAs (entries.lookup "engine") form) :
    JsonValue.part EngineSettings.ofJson? Settings.defaultEngine form = some c.engine := by
  obtain ⟨rfl, default⟩ | ⟨j, held, rfl, parts, reads⟩ :=
    partly.section_written distinct stated .locale written
  · have locale : c.engine.locale = _ := default .locale rfl
    have supported : c.engine.supportedLocales = _ := default .supportedLocales rfl
    have delay : c.engine.initDelay = _ := default .initDelay rfl
    have speed : c.engine.wordsPerMinute = _ := default .wordsPerMinute rfl
    have capacity : c.engine.queueCapacity = _ := default .queueCapacity rfl
    have parts : c.engine = ⟨c.engine.locale, c.engine.supportedLocales, c.engine.initDelay,
      c.engine.wordsPerMinute, c.engine.queueCapacity⟩ := rfl
    rw [parts, locale, supported, delay, speed, capacity]
    rfl
  · have locale : JsonValue.part JsonValue.asText? Settings.defaultEngine.locale (held "locale") =
        some c.engine.locale := reads .locale rfl
    have supported : JsonValue.part JsonValue.asTexts? Settings.defaultEngine.supportedLocales
        (held "supported_locales") = some c.engine.supportedLocales := reads .supportedLocales rfl
    have delay : JsonValue.part (JsonValue.asUnsigned? Settings.maxWhole)
        Settings.defaultEngine.initDelay (held "init_delay_ms") = some c.engine.initDelay :=
      reads .initDelay rfl
    have speed : JsonValue.part (JsonValue.asUnsigned? Settings.maxSpeed)
        Settings.defaultEngine.wordsPerMinute (held "words_per_minute") =
          some c.engine.wordsPerMinute := reads .wordsPerMinute rfl
    have capacity : JsonValue.part (JsonValue.asUnsigned? Settings.maxWhole)
        Settings.defaultEngine.queueCapacity (held "queue_capacity") =
          some c.engine.queueCapacity := reads .queueCapacity rfl
    simp [JsonValue.part.eq_2, EngineSettings.ofJson?, parts, locale, supported, delay, speed,
      capacity]

theorem speech_written (partly : Partial entries) (distinct : (Toml.table entries).Distinct)
    (stated : ∀ x : Setting, x.of c = (x.stated? entries).getD (x.of .default))
    (written : Option.Rel Toml.WrittenAs (entries.lookup "speech") form) :
    JsonValue.part Settings.speechOfJson? .default form = some c.speech := by
  obtain ⟨rfl, default⟩ | ⟨j, held, rfl, parts, reads⟩ :=
    partly.section_written distinct stated .rate written
  · have rate : c.speech.rate = Parameters.default.rate := default .rate rfl
    have pitch : c.speech.pitch = Parameters.default.pitch := default .pitch rfl
    have volume : c.speech.volume = Parameters.default.volume := default .volume rfl
    have parts : c.speech = ⟨c.speech.rate, c.speech.pitch, c.speech.volume⟩ := rfl
    rw [JsonValue.part, parts, rate, pitch, volume]
  · have rate : JsonValue.part JsonValue.asSingle? Parameters.default.rate (held "rate") =
        some c.speech.rate := reads .rate rfl
    have pitch : JsonValue.part JsonValue.asSingle? Parameters.default.pitch (held "pitch") =
        some c.speech.pitch := reads .pitch rfl
    have volume : JsonValue.part JsonValue.asSingle? Parameters.default.volume (held "volume") =
        some c.speech.volume := reads .volume rfl
    simp [JsonValue.part.eq_2, Settings.speechOfJson?, parts, rate, pitch, volume]

theorem log_written (partly : Partial entries) (distinct : (Toml.table entries).Distinct)
    (stated : ∀ x : Setting, x.of c = (x.stated? entries).getD (x.of .default))
    (written : Option.Rel Toml.WrittenAs (entries.lookup "log") form) :
    JsonValue.part LogSettings.ofJson? Settings.defaultLog form = some c.log := by
  obtain ⟨rfl, default⟩ | ⟨j, held, rfl, parts, reads⟩ :=
    partly.section_written distinct stated .level written
  · have level : c.log.level = _ := default .level rfl
    have json : c.log.json = _ := default .json rfl
    have parts : c.log = ⟨c.log.level, c.log.json⟩ := rfl
    rw [parts, level, json]
    rfl
  · have level : JsonValue.part JsonValue.asText? Settings.defaultLog.level (held "level") =
        some c.log.level := reads .level rfl
    have json : JsonValue.part JsonValue.asBool? Settings.defaultLog.json (held "json") =
        some c.log.json := reads .json rfl
    simp [JsonValue.part.eq_2, LogSettings.ofJson?, parts, level, json]

/-- The settings that a document states, and the defaults of the others, are read from any form of the
document. -/
theorem ofJson?_written (partly : Partial entries) (distinct : (Toml.table entries).Distinct)
    (stated : ∀ x : Setting, x.of c = (x.stated? entries).getD (x.of .default))
    (written : (Toml.table entries).WrittenAs j) : Settings.ofJson? j = some c := by
  obtain ⟨held, parts, forms⟩ := written.parts? distinct.keys
  have engine := partly.engine_written distinct stated (forms "engine")
  have speech := partly.speech_written distinct stated (forms "speech")
  have log := partly.log_written distinct stated (forms "log")
  simp [Settings.ofJson?, parts, engine, speech, log]

end Partial


/-! ## Loading such a document -/

namespace Settings

variable {folder : Folder} {path : Option String}
  {environment : List (String × String)} {content : String}

/-- It makes no difference whether the built-in value is there. -/
theorem readOr_or_builtIn (x : Setting) (value : Option Tree) :
    x.readOr (value.or (some x.builtIn)) = x.readOr value := by
  cases value with
  | none => exact x.read?_builtIn
  | some v => rfl

theorem ofEnvironment_eq_nil (silent : ∀ entry ∈ environment, keyOfVariable? entry.1 = none) :
    ofEnvironment environment = [] := by
  refine List.filterMap_eq_nil_iff.mpr fun entry member => ?_
  simp only [silent entry member, Option.map_none]

/-- What the file has for a setting is merged over what is built in. -/
theorem sources_partial (one : contents folder path = .ok [content])
    (silent : ∀ entry ∈ environment, keyOfVariable? entry.1 = none)
    (read : Toml.read? content = some entries) (partly : Partial entries) :
    ∃ t, sources folder path environment = .ok t ∧ Sectioned t ∧
      ∀ x : Setting, x.value? t = ((x.entry? entries).map ofToml).or (some x.builtIn) := by
  have distinct : (Toml.table entries).Distinct := Toml.read?_distinct read
  have orderly : OrderlySource (ofTomlEntries entries) := partly.orderlySource distinct
  have told : ofContent content = .ok (ofTomlEntries entries) := by rw [ofContent, read]
  obtain ⟨files, fromFile, sectioned, inFiles⟩ := filesTree_of_content one told orderly
  have said (x : Setting) : x.value? files = x.winner? [ofTomlEntries entries] := by
    simp [inFiles]
  have nothing := ofEnvironment_eq_nil silent
  have third : OrderlySource (ofEnvironment environment) := by
    rw [nothing]
    decide
  obtain ⟨t, whole, sectioned, merged⟩ :=
    sources_of_filesTree fromFile sectioned said (List.forall_mem_singleton.mpr orderly) third
  refine ⟨t, whole, sectioned, fun x => ?_⟩
  have stated : x.said? (ofTomlEntries entries) = (x.entry? entries).map ofToml := by
    rw [Setting.said?, partly.given_eq distinct]
    cases (x.entry? entries).map ofToml <;> rfl
  rw [merged, nothing, Setting.winner?_cons, Setting.winner?_cons, stated, Setting.winner?_nil]
  cases (x.entry? entries).map ofToml <;> rfl

/-- Settings that are loaded from a file that states some of them are those that are read from the file
alone, as it is or in JSON: each has the value that is stated, or else its default. -/
theorem load_partial (one : contents folder path = .ok [content])
    (silent : ∀ entry ∈ environment, keyOfVariable? entry.1 = none)
    (read : Toml.read? content = some entries) (partly : Partial entries) :
    ∃ c, ofTree? (.branch (ofTomlEntries entries)) = some c ∧
      (∀ j, (Toml.table entries).WrittenAs j → ofJson? j = some c) ∧
      load folder path environment = c.checked ∧
      ∀ x : Setting, x.of c = (x.stated? entries).getD (x.of .default) := by
  let c := build fun x => (x.stated? entries).getD (x.of .default)
  have values (x : Setting) : x.of c = (x.stated? entries).getD (x.of .default) := of_build _ x
  have alone : ofTree? (.branch (ofTomlEntries entries)) = some c := by
    refine ofTree?_eq_some ⟨_, rfl⟩ (fun home held => partly.isBranch) fun x => ?_
    rw [partly.value?_eq, partly.readOr_eq, values]
  obtain ⟨t, whole, sectioned, merged⟩ := sources_partial one silent read partly
  -- What is built in reads as the default that stands for what is missing.
  have together : ofTree? t = some c := by
    refine ofTree?_eq_some sectioned.root (fun home held => sectioned.branch) fun x => ?_
    rw [merged, readOr_or_builtIn, partly.readOr_eq, values]
  have distinct : (Toml.table entries).Distinct := Toml.read?_distinct read
  exact ⟨c, alone, fun j => partly.ofJson?_written distinct values, load_of_ofTree? whole together,
    values⟩

/-- Whether a file states some settings can be computed. -/
theorem exists_partial
    (partly : (Toml.read? content).any (fun entries => decide (Partial entries)) = true) :
    ∃ entries, Toml.read? content = some entries ∧ Partial entries := by
  cases read : Toml.read? content with
  | none => simp [read] at partly
  | some entries => exact ⟨entries, rfl, by simpa [read] using partly⟩

/-- A file states a language and a rate, and beside them a title and a colour. -/
theorem load_partial_of_two :
    let content := "title = \"x\"\n[engine]\nlocale = \"fr-FR\"\ncolour = 3\n[speech]\nrate = 1.5\n"
    let folder : Folder := [("c.toml", content)]
    ∃ entries c, Toml.read? content = some entries ∧ Partial entries ∧
      ofTree? (.branch (ofTomlEntries entries)) = some c ∧
      (∀ j, (Toml.table entries).WrittenAs j → ofJson? j = some c) ∧
      load folder (some "c.toml") [("HOME", "/root")] = c.checked ∧
      ∀ x : Setting, x.of c = (x.stated? entries).getD (x.of .default) := by
  intro content folder
  obtain ⟨entries, read, partly⟩ :=
    exists_partial (show (Toml.read? content).any _ = true by decide +kernel)
  have one : contents folder (some "c.toml") = .ok [content] := by decide +kernel
  have silent : ∀ entry ∈ [("HOME", "/root")], keyOfVariable? entry.1 = none := by decide +kernel
  obtain ⟨c, loaded⟩ := load_partial one silent read partly
  exact ⟨entries, c, read, partly, loaded⟩

/-- A key that leads to the first position of a section is no setting where a file or its form in JSON
is read alone, and sets the language where it is loaded. -/
theorem position_in_file :
    let content := "\"engine[0]\" = \"fr\"\n"
    let alone := (Toml.read? content).bind fun entries => ofTree? (.branch (ofTomlEntries entries))
    let inJson := ofJson? (.object [(some "engine[0]", .string (some "fr"))])
    let loaded := (load [("c.toml", content)] (some "c.toml") []).toOption
    alone.map (·.engine.locale) = some "en-US" ∧ alone.bind (·.flaw?) = none ∧
      inJson.map (·.engine.locale) = some "en-US" ∧ loaded.map (·.engine.locale) = some "fr" := by
  decide +kernel

end Settings

end SpeechQueue
