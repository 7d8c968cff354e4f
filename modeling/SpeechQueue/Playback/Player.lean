import SpeechQueue.Attributes
import SpeechQueue.Log.Record
import SpeechQueue.Playback.Duration

/-! # The player

A player takes utterances from its channel one at a time. The queue is never emptied: an utterance
carries the generation in which it was accepted, and the player passes over those of an earlier
generation than the current one. A change of the generation since the player last looked interrupts
the utterance being spoken. -/

namespace SpeechQueue

namespace Playback

structure Item where
  text : String
  generation : Nat
  rate : Single
  pitch : Single
  volume : Single
  id : Option String
deriving DecidableEq

def Item.duration (item : Item) (wordsPerMinute : Nat) : Duration :=
  Playback.duration item.text wordsPerMinute item.rate

inductive Event where
  | opened
  | started (item : Item)
  | completed (item : Item)
  | interrupted (item : Item)
  | skipped (item : Item)
  | closed
deriving DecidableEq

def Event.isCompletion : Event → Bool
  | .completed _ => true
  | _ => false

def target : String :=
  "voxqueue::infrastructure::adapters::speech::console_speech_engine"

/-- What is logged about an event; that an utterance is completed is not. -/
def Event.record? : Event → Option Record
  | .opened => some ⟨.debug, target, "Console playback started", []⟩
  | .started item =>
    some ⟨.info, target, "Speaking: " ++ item.text,
      [("utterance_id", .shown (quotedOption item.id)), ("rate", .number item.rate),
       ("pitch", .number item.pitch), ("volume", .number item.volume)]⟩
  | .completed _ => none
  | .interrupted item =>
    some ⟨.debug, target, "Utterance interrupted",
      [("utterance_id", .shown (quotedOption item.id))]⟩
  | .skipped item =>
    some ⟨.debug, target, "Skipping flushed utterance",
      [("utterance_id", .shown (quotedOption item.id))]⟩
  | .closed => some ⟨.debug, target, "Console playback stopped", []⟩

end Playback

open Playback

inductive Player.Stage where
  /-- Installed, and not yet run. -/
  | fresh
  | running
  /-- Its channel was closed and is empty. -/
  | stopped
deriving DecidableEq, Repr

structure Player where
  stage : Player.Stage
  /-- The utterances in the channel, the next one first. -/
  waiting : List Item
  /-- The utterance being spoken, and when it ends, in nanoseconds. -/
  speaking : Option (Item × Nat)
  seen : Nat
deriving DecidableEq

namespace Player

def new (generation : Nat) : Player := ⟨.fresh, [], none, generation⟩

/-- Ends the utterance being spoken if its time is over or the generation has changed. -/
def release (generation now : Nat) (p : Player) : Player × List Event :=
  match p.speaking with
  | none => (p, [])
  | some (item, ends) =>
    if ends ≤ now then ({ p with speaking := none }, [.completed item])
    else if p.seen ≠ generation then
      ({ p with speaking := none, seen := generation }, [.interrupted item])
    else (p, [])

/-- Takes one utterance out of the channel: passes over it if it is of an earlier generation, and
else starts it. -/
def receive (wordsPerMinute generation now : Nat) (item : Item) (rest : List Item) (p : Player) :
    Player × Event :=
  let p := { p with waiting := rest, seen := generation }
  if item.generation < generation then (p, .skipped item)
  else
    let ends := Timer.milliseconds.after now (item.duration wordsPerMinute)
    ({ p with speaking := some (item, ends) }, .started item)

/-- Takes the utterances of the channel in turn until one takes time or none is left. -/
def drain (wordsPerMinute generation now : Nat) : List Item → Player → Player × List Event
  | [], p => (p, [])
  | item :: rest, p =>
    let (p, received) := p.receive wordsPerMinute generation now item rest
    let (p, released) := p.release generation now
    if p.speaking.isNone then
      let (p, more) := drain wordsPerMinute generation now rest p
      (p, received :: released ++ more)
    else (p, received :: released)

def wake (p : Player) : Player × List Event :=
  if p.stage = .fresh then ({ p with stage := .running }, [.opened]) else (p, [])

/-- Stops a player that has nothing left to speak and will get nothing more. -/
def retire (attached : Bool) (p : Player) : Player × List Event :=
  if attached = false ∧ p.stage = .running ∧ p.waiting = [] ∧ p.speaking = none then
    ({ p with stage := .stopped }, [.closed])
  else (p, [])

/-- All that a player can do at a time. It is attached while utterances can still be put into its
channel. -/
def settle (wordsPerMinute generation now : Nat) (attached : Bool) (p : Player) :
    Player × List Event :=
  let (p, woken) := p.wake
  let (p, released) := p.release generation now
  let (p, drained) :=
    if p.speaking.isNone then drain wordsPerMinute generation now p.waiting p else (p, [])
  let (p, retired) := p.retire attached
  (p, woken ++ released ++ drained ++ retired)

def due (p : Player) : Option Nat :=
  p.speaking.map (·.2)

def backlog (p : Player) : Nat :=
  p.waiting.length + if p.speaking.isSome then 1 else 0

end Player

end SpeechQueue
