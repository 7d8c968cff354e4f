import SpeechQueue.Proofs.SettingLayers

/-! # Settings read from a tree

Settings are read one by one: what a tree does not say has its default. The built-in values read as
the same defaults (`given_builtIn`). Main statement: `ofTree?_eq_some`. -/

namespace SpeechQueue

open SpeechQueue.Tree

namespace Setting

instance : (x : Setting) → DecidableEq x.Value
  | .locale | .level => inferInstanceAs (DecidableEq String)
  | .supportedLocales => inferInstanceAs (DecidableEq (List String))
  | .initDelay | .wordsPerMinute | .queueCapacity => inferInstanceAs (DecidableEq Nat)
  | .rate | .pitch | .volume => inferInstanceAs (DecidableEq Single)
  | .json => inferInstanceAs (DecidableEq Bool)

/-- Its built-in value. -/
def builtIn : Setting → Tree
  | .locale => .string Controller.defaultLocale
  | .supportedLocales => .list [.string "en-US", .string "en-GB"]
  | .initDelay => .integer 100
  | .wordsPerMinute => .integer 180
  | .queueCapacity => .integer 256
  | .rate | .pitch => .decimal (.ofNat 1)
  | .volume => .decimal (.ofRatio false 1 2)
  | .level => .string "info"
  | .json => .boolean false

/-- The key that it has outside its section. -/
def key (x : Setting) : String := x.home ++ "." ++ x.name

theorem builtIn_eq : Settings.builtIn = all.map fun x => (x.key, x.builtIn) := by
  rfl

theorem pathOf_key (x : Setting) : pathOf x.key = [.key x.home, .key x.name] := by
  cases x <;> decide +kernel

theorem home_toLower (x : Setting) : x.home.toLower = x.home := by
  cases x <;> decide +kernel

theorem name_toLower (x : Setting) : x.name.toLower = x.name := by
  cases x <;> decide +kernel

theorem name_injective {x y : Setting} (same : x.name = y.name) : x = y := by
  cases x <;> cases y <;> first | rfl | exact absurd same (by decide)

/-- The built-in value reads as the default. -/
theorem read?_builtIn (x : Setting) : x.read? x.builtIn = some (x.of .default) := by
  cases x <;> decide +kernel

/-- Its path gives a setting a value, and no other one. -/
theorem givenAt_own (x y : Setting) (value : Tree) :
    x.givenAt [.key y.home, .key y.name] value = if y = x then [value] else [] := by
  refine if_congr ?_ rfl rfl
  rw [home_toLower, name_toLower]
  refine ⟨fun both => name_injective both.2, ?_⟩
  rintro rfl
  exact ⟨rfl, rfl⟩

theorem given_builtIn (x : Setting) : x.given Settings.builtIn = [x.builtIn] := by
  rw [builtIn_eq, given, List.flatMap_map]
  simp only [pathOf_key, givenAt_own]
  cases x <;> rfl

/-- How it is read where it may be missing. -/
def readOr (x : Setting) (value : Option Tree) : Option x.Value :=
  part x.read? (x.of .default) value

end Setting

namespace Settings

/-- The settings with given values. -/
def build (values : (x : Setting) → x.Value) : Settings where
  engine := ⟨values .locale, values .supportedLocales, values .initDelay, values .wordsPerMinute,
    values .queueCapacity⟩
  speech := ⟨values .rate, values .pitch, values .volume⟩
  log := ⟨values .level, values .json⟩

theorem of_build (values : (x : Setting) → x.Value) (x : Setting) :
    x.of (build values) = values x := by
  cases x <;> rfl

variable {held : Option Tree}

/-- What is under a name in a section, if the section is there. -/
def under (held : Option Tree) (name : String) : Option Tree := held.bind (·.entries.lookup name)

theorem part_engine {e : EngineSettings} (branch : ∀ t ∈ held, t.IsBranch)
    (locale : part text? defaultEngine.locale (under held "locale") = some e.locale)
    (supported : part texts? defaultEngine.supportedLocales (under held "supported_locales") =
      some e.supportedLocales)
    (delay : part (unsigned? maxWhole) defaultEngine.initDelay (under held "init_delay_ms") =
      some e.initDelay)
    (speed : part (unsigned? maxSpeed) defaultEngine.wordsPerMinute
      (under held "words_per_minute") = some e.wordsPerMinute)
    (capacity : part (unsigned? maxWhole) defaultEngine.queueCapacity
      (under held "queue_capacity") = some e.queueCapacity) :
    part EngineSettings.ofTree? defaultEngine held = some e := by
  cases held with
  | none =>
    obtain ⟨l, s, d, w, q⟩ := e
    cases locale; cases supported; cases delay; cases speed; cases capacity
    rfl
  | some t =>
    obtain ⟨entries, rfl⟩ := branch t rfl
    simp only [under, Option.bind_some, Tree.entries] at locale supported delay speed capacity
    simp [part.eq_2, EngineSettings.ofTree?, parts?, locale, supported, delay, speed, capacity]

theorem part_speech {p : Parameters} (branch : ∀ t ∈ held, t.IsBranch)
    (rate : part number? Parameters.defaultRate (under held "rate") = some p.rate)
    (pitch : part number? Parameters.defaultPitch (under held "pitch") = some p.pitch)
    (volume : part number? Parameters.defaultVolume (under held "volume") = some p.volume) :
    part Parameters.ofTree? .default held = some p := by
  cases held with
  | none =>
    simp only [under, Option.bind_none, part, Option.some.injEq] at rate pitch volume ⊢
    rw [Parameters.default, rate, pitch, volume]
  | some t =>
    obtain ⟨entries, rfl⟩ := branch t rfl
    simp only [under, Option.bind_some, Tree.entries] at rate pitch volume
    simp [part.eq_2, Parameters.ofTree?, parts?, rate, pitch, volume]

theorem part_log {l : LogSettings} (branch : ∀ t ∈ held, t.IsBranch)
    (level : part text? defaultLog.level (under held "level") = some l.level)
    (json : part flag? defaultLog.json (under held "json") = some l.json) :
    part LogSettings.ofTree? defaultLog held = some l := by
  cases held with
  | none =>
    obtain ⟨v, j⟩ := l
    cases level; cases json
    rfl
  | some t =>
    obtain ⟨entries, rfl⟩ := branch t rfl
    simp only [under, Option.bind_some, Tree.entries] at level json
    simp [part.eq_2, LogSettings.ofTree?, parts?, level, json]

/-- Settings whose values are those that a tree has for them, or else the defaults, are read from the
tree. -/
theorem ofTree?_eq_some {t : Tree} {c : Settings} (root : t.IsBranch)
    (branch : ∀ home held, IsSection home → t.entries.lookup home = some held → held.IsBranch)
    (reads : ∀ x : Setting, x.readOr (x.value? t) = some (x.of c)) : ofTree? t = some c := by
  have engine : part EngineSettings.ofTree? defaultEngine (t.entries.lookup "engine") =
      some c.engine :=
    part_engine (branch "engine" · ⟨.locale, rfl⟩) (reads .locale) (reads .supportedLocales)
      (reads .initDelay) (reads .wordsPerMinute) (reads .queueCapacity)
  have speech : part Parameters.ofTree? .default (t.entries.lookup "speech") = some c.speech := by
    have rate := reads .rate
    have pitch := reads .pitch
    have volume := reads .volume
    simp only [Setting.readOr, Setting.of, default, Parameters.default] at rate pitch volume
    exact part_speech (branch "speech" · ⟨.rate, rfl⟩) rate pitch volume
  have log : part LogSettings.ofTree? defaultLog (t.entries.lookup "log") = some c.log :=
    part_log (branch "log" · ⟨.level, rfl⟩) (reads .level) (reads .json)
  obtain ⟨entries, rfl⟩ := root
  simp only [Tree.entries] at engine speech log
  simp [ofTree?, parts?, engine, speech, log]

end Settings

end SpeechQueue
