import SpeechQueue.Attributes
import SpeechQueue.Error
import SpeechQueue.Language
import SpeechQueue.Log.Record
import SpeechQueue.Playback.Duration

/-! # Speech engines

An engine is a set of operations on a state of its own. Starting it may take time: then it says how
long, and gives its result when the time is over. An engine may also have work of its own that goes
on as time passes. -/

namespace SpeechQueue

structure Speech where
  text : String
  mode : Mode
  attributes : Option Attributes
deriving DecidableEq, Repr

inductive Call where
  | start
  | setLanguage (locale : String)
  | setRate (rate : Single)
  | setPitch (pitch : Single)
  | speak (speech : Speech)
  | shutDown
deriving DecidableEq

/-- An engine's answer to being started: the result, or the delay after which there is one. -/
inductive Start where
  | answered (result : Except EngineError Unit)
  | awaited (delay : Duration)

/-- The operations of an engine with states in `σ`, and the records each adds to the log. -/
structure Engine (σ : Type) where
  start : σ → Start × σ × List Record
  /-- The result of a start that was awaited. There is none if the engine breaks down. -/
  finishStart : σ → Option (Except EngineError Unit) × σ × List Record
  setLanguage : String → σ → LanguageStatus × σ
  setRate : Single → σ → σ
  setPitch : Single → σ → σ
  speak : Speech → σ → Except EngineError Unit × σ × List Record
  shutDown : σ → σ × List Record
  /-- When the engine's own work goes on by itself, in nanoseconds. -/
  due : σ → Option Nat := fun _ => none
  /-- How often that can still happen if nothing more is asked. -/
  backlog : σ → Nat := fun _ => 0
  /-- All own work that is possible at a time, in nanoseconds. -/
  settle : Nat → σ → σ × List Record := fun _ s => (s, [])

end SpeechQueue
