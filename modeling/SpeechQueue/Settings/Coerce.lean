import SpeechQueue.Number.Layout
import SpeechQueue.Settings.Basic
import SpeechQueue.Settings.Tree

/-! # Values of settings

How the value that a source gives becomes the kind of value that a setting needs. Words, whole
numbers, decimal numbers and truth values stand for one another where that makes sense. -/

namespace SpeechQueue

namespace Tree

/-- The truth value of a word, in any case of its letters. -/
def wordValue? (s : String) : Option Bool :=
  if s.toLower ∈ ["true", "on", "yes"] then some true
  else if s.toLower ∈ ["false", "off", "no"] then some false
  else none

/-- The whole number that digits stand for, if there are any and nothing else. -/
def digits? (text : List Char) : Option Nat :=
  if text ≠ [] ∧ text.all Char.isDigit then some (Numeral.digitsValue text) else none

/-- Reads a whole number that is not negative; a plus may stand before it. -/
def readUnsigned? (s : String) : Option Nat :=
  let text := match s.toList with
    | '+' :: rest => rest
    | text => text
  (digits? text).filter (· ≤ Settings.maxWhole)

def readSigned? (s : String) : Option Int :=
  let (negative, rest) := Numeral.splitSign s.toList
  (digits? rest).bind fun (n : Nat) =>
    let value : Int := if negative then -n else n
    if -(Nat.pow 2 63 : Int) ≤ value ∧ value < (Nat.pow 2 63 : Int) then some value else none

/-- The whole number nearest to a decimal one, a half going away from zero. Numbers below zero, and
what is not a number, become zero, and there is a largest result. -/
def nearestWhole : Double → Nat
  | .finite false quanta _ => min Settings.maxWhole ((2 * quanta + Nat.pow 2 Format.double.scale)
      / (2 * Nat.pow 2 Format.double.scale))
  | .infinite false => Settings.maxWhole
  | _ => 0

def text? : Tree → Option String
  | .string s => some s
  | .boolean b => some (if b then "true" else "false")
  | .integer n => some (toString n)
  | .decimal x => some x.text
  | _ => none

def unsigned? (max : Nat) (t : Tree) : Option Nat :=
  let value := match t with
    | .boolean b => some b.toNat
    | .integer (.ofNat n) => some n
    | .decimal x => some (nearestWhole x)
    | .string s =>
      match wordValue? s with
      | some b => some b.toNat
      | none => readUnsigned? s
    | _ => none
  value.filter (· ≤ max)

def number? : Tree → Option Single
  | .boolean b => some (.ofNat b.toNat)
  | .integer n => some (Binary.convert (.ofInt n : Double))
  | .decimal x => some x.convert
  | .string s =>
    match wordValue? s with
    | some b => some (.ofNat b.toNat)
    | none => (Binary.read? s.toList : Option Double).map Binary.convert
  | _ => none

def flag? : Tree → Option Bool
  | .boolean b => some b
  | .integer n => some (n ≠ 0)
  | .decimal x => some (x ≠ .zero false ∧ x ≠ .zero true)
  | .string s =>
    if s = "1" then some true else if s = "0" then some false else wordValue? s
  | _ => none

def texts? : Tree → Option (List String)
  | .list items => items.mapM text?
  | _ => none

/-- The parts of a section that have the given names. A list gives the parts in their order. -/
def parts? (names : List String) : Tree → Option (List (Option Tree))
  | .branch entries => some (names.map fun name => entries.lookup name)
  | .list items => some ((List.range names.length).map fun i => items[i]?)
  | _ => none

/-- A part that may be missing; one that is there has to fit. -/
def part {α : Type} (read? : Tree → Option α) (default : α) : Option Tree → Option α
  | none => some default
  | some t => read? t

end Tree

def EngineSettings.ofTree? (t : Tree) : Option EngineSettings := do
  let d := Settings.defaultEngine
  match ← t.parts? ["locale", "supported_locales", "init_delay_ms", "words_per_minute",
      "queue_capacity"] with
  | [locale, supported, delay, speed, capacity] =>
    return {
      locale := ← Tree.part Tree.text? d.locale locale
      supportedLocales := ← Tree.part Tree.texts? d.supportedLocales supported
      initDelay := ← Tree.part (Tree.unsigned? Settings.maxWhole) d.initDelay delay
      wordsPerMinute := ← Tree.part (Tree.unsigned? Settings.maxSpeed) d.wordsPerMinute speed
      queueCapacity := ← Tree.part (Tree.unsigned? Settings.maxWhole) d.queueCapacity capacity }
  | _ => none

def Parameters.ofTree? (t : Tree) : Option Parameters := do
  match ← t.parts? ["rate", "pitch", "volume"] with
  | [rate, pitch, volume] =>
    return {
      rate := ← Tree.part Tree.number? defaultRate rate
      pitch := ← Tree.part Tree.number? defaultPitch pitch
      volume := ← Tree.part Tree.number? defaultVolume volume }
  | _ => none

def LogSettings.ofTree? (t : Tree) : Option LogSettings := do
  let d := Settings.defaultLog
  match ← t.parts? ["level", "json"] with
  | [level, json] =>
    return {
      level := ← Tree.part Tree.text? d.level level
      json := ← Tree.part Tree.flag? d.json json }
  | _ => none

def Settings.ofTree? (t : Tree) : Option Settings := do
  match ← t.parts? ["engine", "speech", "log"] with
  | [engine, speech, log] =>
    return {
      engine := ← Tree.part EngineSettings.ofTree? defaultEngine engine
      speech := ← Tree.part Parameters.ofTree? .default speech
      log := ← Tree.part LogSettings.ofTree? defaultLog log }
  | _ => none

end SpeechQueue
