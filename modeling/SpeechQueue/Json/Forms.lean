import SpeechQueue.Calendar.Instant
import SpeechQueue.Json.Value
import SpeechQueue.Settings.Basic

/-! # The JSON forms of the library's types

How modes, identifiers, parameters, error events and settings are read from JSON. Kinds of values
do not stand for one another here: a number is no text, and a missing value is not null. -/

namespace SpeechQueue

namespace JsonValue

def asText? : JsonValue → Option String
  | .string s => s
  | _ => none

def asBool? : JsonValue → Option Bool
  | .bool b => some b
  | _ => none

/-- The value as a whole number from zero to `max`. -/
def asUnsigned? (max : Nat) : JsonValue → Option Nat
  | .number n =>
    match n.reading? with
    | some (.whole (.ofNat k)) => if k ≤ max then some k else none
    | _ => none
  | _ => none

def asSingle? : JsonValue → Option Single
  | .number n => n.reading?.map fun
    | .whole k => .ofInt k
    | .real x => x.convert
  | _ => none

def asTexts? : JsonValue → Option (List String)
  | .array items => items.mapM asText?
  | _ => none

/-- The value that a key has, if it has one at all; it may not have two. -/
def member? (name : String) (members : List (String × JsonValue)) : Option (Option JsonValue) :=
  match members.filter (·.1 = name) with
  | [] => some none
  | [(_, value)] => some (some value)
  | _ => none

/-- The members of an object, if all keys are complete. -/
def keyed? (members : List (Option String × JsonValue)) : Option (List (String × JsonValue)) :=
  members.mapM fun (key, value) => key.map (·, value)

/-- The parts of a structure with the given names: those members of an object, where others are
passed over, or the items of an array in their order, where there may be fewer but no more. -/
def parts? (names : List String) : JsonValue → Option (List (Option JsonValue))
  | .object members => do
    let members ← keyed? members
    names.mapM fun name => member? name members
  | .array items =>
    if items.length ≤ names.length then some ((List.range names.length).map fun i => items[i]?)
    else none
  | _ => none

/-- A part that may be missing; one that is there has to fit. -/
def part {α : Type} (read? : JsonValue → Option α) (default : α) : Option JsonValue → Option α
  | none => some default
  | some value => read? value

/-- The name of a choice without further data: a text, or the only key of an object whose value is
null. -/
def asChoice? : JsonValue → Option String
  | .string s => s
  | .object [(key, .null)] => key
  | _ => none

end JsonValue

open JsonValue

def Mode.ofJson? (value : JsonValue) : Option Mode := value.asChoice?.bind Mode.ofName?

def Source.ofJson? (value : JsonValue) : Option Source := value.asChoice?.bind Source.ofName?

def UtteranceId.ofJson? (value : JsonValue) : Option UtteranceId :=
  value.asText?.bind UtteranceId.read?

/-- Reads parameters, of which none may be missing. -/
def Parameters.ofJson? (value : JsonValue) : Option Parameters := do
  match ← value.parts? ["rate", "pitch", "volume"] with
  | [some rate, some pitch, some volume] =>
    return ⟨← rate.asSingle?, ← pitch.asSingle?, ← volume.asSingle?⟩
  | _ => none

structure ErrorEvent where
  message : String
  instant : Instant
deriving DecidableEq, Repr

namespace ErrorEvent

def name : String := "Error"

/-- How deep the data may go that stands before the name. -/
def maxDepth : Nat := 126

def ofData? (data : JsonValue) : Option ErrorEvent := do
  match data with
  | .object members =>
    let members ← keyed? members
    let message ← (← member? "message" members).bind asText?
    let instant ← ((← member? "at" members).bind asText?).bind Instant.read?
    return ⟨message, instant⟩
  | _ => none

/-- Reads an event: its name and its data, as members of an object or in this order in an array.
Data before the name are read without knowing what they are for, so everything in them has to be
sound. -/
def ofJson? (value : JsonValue) : Option ErrorEvent :=
  match value with
  | .array [named, data] => if named.asChoice? = some name then ofData? data else none
  | .object members => do
    let members ← keyed? members
    let named ← (← member? "event" members)
    let data ← (← member? "data" members)
    let early := (members.map (·.1)).idxOf "data" < (members.map (·.1)).idxOf "event"
    if named.asChoice? = some name ∧ (early → data.isSound maxDepth) then ofData? data else none
  | _ => none

end ErrorEvent

def EngineSettings.ofJson? (value : JsonValue) : Option EngineSettings := do
  let d := Settings.defaultEngine
  match ← value.parts? ["locale", "supported_locales", "init_delay_ms", "words_per_minute",
      "queue_capacity"] with
  | [locale, supported, delay, speed, capacity] =>
    return {
      locale := ← part asText? d.locale locale
      supportedLocales := ← part asTexts? d.supportedLocales supported
      initDelay := ← part (asUnsigned? Settings.maxWhole) d.initDelay delay
      wordsPerMinute := ← part (asUnsigned? Settings.maxSpeed) d.wordsPerMinute speed
      queueCapacity := ← part (asUnsigned? Settings.maxWhole) d.queueCapacity capacity }
  | _ => none

/-- Reads the default parameters of the settings, each of which may be missing. -/
def Settings.speechOfJson? (value : JsonValue) : Option Parameters := do
  let d := Parameters.default
  match ← value.parts? ["rate", "pitch", "volume"] with
  | [rate, pitch, volume] =>
    return {
      rate := ← part asSingle? d.rate rate
      pitch := ← part asSingle? d.pitch pitch
      volume := ← part asSingle? d.volume volume }
  | _ => none

def LogSettings.ofJson? (value : JsonValue) : Option LogSettings := do
  let d := Settings.defaultLog
  match ← value.parts? ["level", "json"] with
  | [level, json] =>
    return { level := ← part asText? d.level level, json := ← part asBool? d.json json }
  | _ => none

/-- Reads all settings, without asking whether they can be used. -/
def Settings.ofJson? (value : JsonValue) : Option Settings := do
  match ← value.parts? ["engine", "speech", "log"] with
  | [engine, speech, log] =>
    return {
      engine := ← part EngineSettings.ofJson? defaultEngine engine
      speech := ← part speechOfJson? .default speech
      log := ← part LogSettings.ofJson? defaultLog log }
  | _ => none

end SpeechQueue
