import Mathlib.Data.List.Forall2
import SpeechQueue.Json.Forms
import SpeechQueue.Proofs.SettingReads

/-! # Values that are read as they are

A document can also be written in JSON, where settings are read without making one kind of value out of
another. A value that has the kind of its setting is read alike from both forms
(`readJson?_written`), and what a form of a table has under a name is a form of what the table has
there (`WrittenAs.parts?`). -/

namespace SpeechQueue

open SpeechQueue.Tree

variable {entries : List (String × Toml)} {x : Setting} {v : Toml} {j : JsonValue}

/-! ## Values of one kind -/

namespace Toml

/-- The value as a text. -/
def asText? : Toml → Option String
  | .string s => some s
  | _ => none

/-- The value as a truth value. -/
def asBool? : Toml → Option Bool
  | .boolean b => some b
  | _ => none

/-- The value as a whole number from zero to `max`. -/
def asUnsigned? (max : Nat) : Toml → Option Nat
  | .integer (.ofNat n) => if n ≤ max then some n else none
  | _ => none

/-- The value as a 32-bit value. -/
def asSingle? : Toml → Option Single
  | .decimal x => some x.convert
  | _ => none

/-- The value as a list of texts. -/
def asTexts? : Toml → Option (List String)
  | .array items => items.mapM asText?
  | _ => none

theorem text?_of_asText? {s : String} (own : v.asText? = some s) :
    (ofToml v).text? = some s := by
  cases v <;> cases own
  rfl

theorem flag?_of_asBool? {b : Bool} (own : v.asBool? = some b) :
    (ofToml v).flag? = some b := by
  cases v <;> cases own
  rfl

theorem unsigned?_of_asUnsigned? {max n : Nat} (own : v.asUnsigned? max = some n) :
    (ofToml v).unsigned? max = some n := by
  rw [asUnsigned?.eq_def] at own
  split at own
  · obtain ⟨bound, same⟩ := Option.ite_none_right_eq_some.mp own
    cases same
    simp [ofToml, unsigned?, Option.filter, bound]
  · cases own

theorem number?_of_asSingle? {r : Single} (own : v.asSingle? = some r) :
    (ofToml v).number? = some r := by
  cases v <;> cases own
  rfl

theorem mapM_text?_of_asText? {items : List Toml} {texts : List String}
    (own : items.mapM asText? = some texts) : (ofTomlItems items).mapM text? = some texts := by
  induction items generalizing texts with
  | nil => exact own
  | cons item items ih =>
    rw [List.mapM_cons] at own
    obtain ⟨text, first, own⟩ := Option.bind_eq_some_iff.mp own
    obtain ⟨later, more, same⟩ := Option.bind_eq_some_iff.mp own
    rw [ofTomlItems, List.mapM_cons, text?_of_asText? first, ih more]
    exact same

theorem texts?_of_asTexts? {texts : List String} (own : v.asTexts? = some texts) :
    (ofToml v).texts? = some texts := by
  cases v with
  | array items => exact mapM_text?_of_asText? own
  | _ => cases own

end Toml

namespace Setting

/-- A value of its own kind in a document. No other kind of value stands for it. -/
def ownKind? : (x : Setting) → Toml → Option x.Value
  | .locale, v | .level, v => v.asText?
  | .supportedLocales, v => v.asTexts?
  | .initDelay, v | .queueCapacity, v => v.asUnsigned? Settings.maxWhole
  | .wordsPerMinute, v => v.asUnsigned? Settings.maxSpeed
  | .rate, v | .pitch, v | .volume, v => v.asSingle?
  | .json, v => v.asBool?

theorem read?_of_ownKind? {a : x.Value} (own : x.ownKind? v = some a) :
    x.read? (ofToml v) = some a := by
  cases x with
  | locale | level => exact Toml.text?_of_asText? own
  | supportedLocales => exact Toml.texts?_of_asTexts? own
  | initDelay | wordsPerMinute | queueCapacity => exact Toml.unsigned?_of_asUnsigned? own
  | rate | pitch | volume => exact Toml.number?_of_asSingle? own
  | json => exact Toml.flag?_of_asBool? own

/-- How it is read from JSON. -/
def readJson? : (x : Setting) → JsonValue → Option x.Value
  | .locale, j | .level, j => j.asText?
  | .supportedLocales, j => j.asTexts?
  | .initDelay, j | .queueCapacity, j => j.asUnsigned? Settings.maxWhole
  | .wordsPerMinute, j => j.asUnsigned? Settings.maxSpeed
  | .rate, j | .pitch, j | .volume, j => j.asSingle?
  | .json, j => j.asBool?

/-- What a document has for it. -/
def entry? (x : Setting) (entries : List (String × Toml)) : Option Toml :=
  match entries.lookup x.home with
  | some (.table held) => held.lookup x.name
  | _ => none

/-- The value that a document states for it. -/
def stated? (x : Setting) (entries : List (String × Toml)) : Option x.Value :=
  (x.entry? entries).bind x.ownKind?

end Setting

/-! ## Documents in JSON -/

namespace Toml

mutual

/-- A form of a value in JSON. There is none for dates and times, so that anything may stand there. -/
inductive WrittenAs : Toml → JsonValue → Prop
  | boolean (b : Bool) : WrittenAs (.boolean b) (.bool b)
  | integer {i : Int} {n : JsonNumber} : n.reading? = some (.whole i) →
      WrittenAs (.integer i) (.number n)
  | decimal {x : Double} {n : JsonNumber} : n.reading? = some (.real x) →
      WrittenAs (.decimal x) (.number n)
  | moment (form : String) (j : JsonValue) : WrittenAs (.moment form) j
  | string (s : String) : WrittenAs (.string s) (.string (some s))
  | array {items : List Toml} {forms : List JsonValue} : List.Forall₂ WrittenAs items forms →
      WrittenAs (.array items) (.array forms)
  | table {entries : List (String × Toml)} {members : List (Option String × JsonValue)} :
      MembersWrittenAs entries members → WrittenAs (.table entries) (.object members)

/-- Forms of the entries of a table in JSON, in the same order. -/
inductive MembersWrittenAs : List (String × Toml) → List (Option String × JsonValue) → Prop
  | nil : MembersWrittenAs [] []
  | cons {key : String} {v : Toml} {j : JsonValue} {entries : List (String × Toml)}
      {members : List (Option String × JsonValue)} : WrittenAs v j →
      MembersWrittenAs entries members →
      MembersWrittenAs ((key, v) :: entries) ((some key, j) :: members)

end

theorem WrittenAs.asText? {s : String} (written : WrittenAs v j) (own : v.asText? = some s) :
    j.asText? = some s := by
  cases written <;> cases own
  rfl

theorem WrittenAs.asTexts? {texts : List String} (written : WrittenAs v j)
    (own : v.asTexts? = some texts) : j.asTexts? = some texts := by
  cases written with
  | array each =>
    change List.mapM _ _ = _ at own ⊢
    induction each generalizing texts with
    | nil => exact own
    | cons first _ ih =>
      rw [List.mapM_cons] at own ⊢
      obtain ⟨text, one, own⟩ := Option.bind_eq_some_iff.mp own
      obtain ⟨later, more, same⟩ := Option.bind_eq_some_iff.mp own
      rw [first.asText? one, ih more]
      exact same
  | _ => cases own

theorem WrittenAs.asUnsigned? {max n : Nat} (written : WrittenAs v j)
    (own : v.asUnsigned? max = some n) : j.asUnsigned? max = some n := by
  cases written with
  | @integer i number reading =>
    cases i with
    | ofNat k => simpa [Toml.asUnsigned?, JsonValue.asUnsigned?, reading] using own
    | negSucc k => cases own
  | _ => cases own

theorem WrittenAs.asSingle? {r : Single} (written : WrittenAs v j) (own : v.asSingle? = some r) :
    j.asSingle? = some r := by
  cases written with
  | decimal reading => simpa [Toml.asSingle?, JsonValue.asSingle?, reading] using own
  | _ => cases own

theorem WrittenAs.asBool? {b : Bool} (written : WrittenAs v j) (own : v.asBool? = some b) :
    j.asBool? = some b := by
  cases written <;> cases own
  rfl

end Toml

/-- A value of its own kind is read alike. -/
theorem Setting.readJson?_written {a : x.Value} (written : v.WrittenAs j)
    (own : x.ownKind? v = some a) : x.readJson? j = some a := by
  cases x with
  | locale | level => exact written.asText? own
  | supportedLocales => exact written.asTexts? own
  | initDelay | wordsPerMinute | queueCapacity => exact written.asUnsigned? own
  | rate | pitch | volume => exact written.asSingle? own
  | json => exact written.asBool? own

namespace Toml

/-- Of members that are forms of the entries of a table with different keys, at most one has a name,
and it is a form of the entry with this name. -/
theorem MembersWrittenAs.filter {members : List (Option String × JsonValue)}
    (written : MembersWrittenAs entries members) (once : (entries.map Prod.fst).Nodup) :
    ∃ keyed, JsonValue.keyed? members = some keyed ∧ ∀ name, ∃ form : Option JsonValue,
      keyed.filter (·.1 = name) = form.toList.map (name, ·) ∧
        Option.Rel WrittenAs (entries.lookup name) form := by
  induction entries generalizing members with
  | nil =>
    cases written
    exact ⟨[], rfl, fun _ => ⟨none, rfl, .none⟩⟩
  | cons entry entries ih =>
    cases written with
    | @cons key v j _ members first later =>
      obtain ⟨fresh, once⟩ := List.nodup_cons.mp once
      obtain ⟨keyed, complete, each⟩ := ih later once
      refine ⟨(key, j) :: keyed, ?_, fun name => ?_⟩
      · rw [JsonValue.keyed?] at complete ⊢
        rw [List.mapM_cons, complete]
        rfl
      · obtain ⟨form, others, written⟩ := each name
        rw [List.filter_cons, lookup_cons_ite]
        by_cases same : key = name
        · subst same
          rw [lookup_eq_none_iff.mpr fresh] at written
          cases written
          refine ⟨some j, by simp [others], ?_⟩
          rw [if_pos rfl]
          exact .some first
        · refine ⟨form, ?_, ?_⟩
          · rw [if_neg (by simpa using same), others]
          · rwa [if_neg (Ne.symm same)]

theorem MembersWrittenAs.member? {members : List (Option String × JsonValue)}
    (written : MembersWrittenAs entries members) (once : (entries.map Prod.fst).Nodup) :
    ∃ keyed, JsonValue.keyed? members = some keyed ∧ ∀ name, ∃ form,
      JsonValue.member? name keyed = some form ∧
        Option.Rel WrittenAs (entries.lookup name) form := by
  obtain ⟨keyed, complete, each⟩ := written.filter once
  refine ⟨keyed, complete, fun name => ?_⟩
  obtain ⟨form, single, related⟩ := each name
  refine ⟨form, ?_, related⟩
  rw [JsonValue.member?, single]
  cases form <;> rfl

/-- The parts of a form of a table are forms of its entries. -/
theorem WrittenAs.parts? (written : (Toml.table entries).WrittenAs j)
    (once : (entries.map Prod.fst).Nodup) : ∃ held : String → Option JsonValue,
      (∀ names, j.parts? names = some (names.map held)) ∧
      ∀ name, Option.Rel WrittenAs (entries.lookup name) (held name) := by
  cases written with
  | table members =>
    obtain ⟨keyed, complete, each⟩ := members.member? once
    choose held member form using each
    refine ⟨held, fun names => ?_, form⟩
    simp only [JsonValue.parts?, complete, member, Option.bind_eq_bind, Option.bind_some]
    exact List.mapM_pure

end Toml

end SpeechQueue
