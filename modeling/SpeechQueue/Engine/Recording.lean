import SpeechQueue.Engine.Basic

/-! # An engine that records

It makes no sound and keeps the list of calls it got, for those who want to see what an engine was
asked to do. -/

namespace SpeechQueue

namespace Recording

structure Setup where
  initError : Option String
  language : LanguageStatus
  initDelay : Duration
  rejects : Bool
deriving DecidableEq, Repr

/-- Starts at once, speaks every language and refuses nothing. -/
def Setup.default : Setup := ⟨none, .ok, .zero, false⟩

end Recording

/-- The recorded calls, the first one first. -/
structure Recording where
  setup : Recording.Setup
  calls : List Call
  isShutDown : Bool
deriving DecidableEq

namespace Recording

def new (setup : Setup) : Recording := ⟨setup, [], false⟩

def record (r : Recording) (call : Call) : Recording :=
  { r with calls := r.calls ++ [call] }

def clear (r : Recording) : Recording :=
  { r with calls := [] }

def startResult (r : Recording) : Except EngineError Unit :=
  match r.setup.initError with
  | some reason => .error (.initFailed reason)
  | none => .ok ()

def spoken (r : Recording) : List Speech :=
  r.calls.filterMap fun
    | .speak speech => some speech
    | _ => none

def lastRate? (r : Recording) : Option Single :=
  r.calls.reverse.findSome? fun
    | .setRate rate => some rate
    | _ => none

def lastPitch? (r : Recording) : Option Single :=
  r.calls.reverse.findSome? fun
    | .setPitch pitch => some pitch
    | _ => none

def count (r : Recording) (call : Call) : Nat :=
  (r.calls.filter (· = call)).length

def spokenRecord (speech : Speech) : Record :=
  { level := .debug
    target := "voxqueue::infrastructure::adapters::speech::fake_speech_engine"
    message := "FakeSpeechEngine: recorded utterance"
    fields := [("text_len", .count speech.text.utf8ByteSize), ("mode", .label speech.mode.name)] }

/-- Refuses after it is shut down, or when it is to refuse; else records the utterance. -/
def speak (speech : Speech) (r : Recording) : Except EngineError Unit × Recording × List Record :=
  if r.isShutDown then (.error (.unavailable "engine shut down"), r, [])
  else if r.setup.rejects then
    (.error (.rejected ("refusing " ++ toString speech.text.utf8ByteSize ++ " chars")), r, [])
  else (.ok (), r.record (.speak speech), [spokenRecord speech])

def engine : Engine Recording where
  start r :=
    let recorded := r.record .start
    if r.setup.initDelay = .zero then (.answered r.startResult, recorded, [])
    else (.awaited r.setup.initDelay, recorded, [])
  finishStart r := (some r.startResult, r, [])
  setLanguage locale r := (r.setup.language, r.record (.setLanguage locale))
  setRate rate r := r.record (.setRate rate)
  setPitch pitch r := r.record (.setPitch pitch)
  speak := speak
  shutDown r := ({ r.record .shutDown with isShutDown := true }, [])

end Recording

end SpeechQueue
