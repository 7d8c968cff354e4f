import SpeechQueue.Controller

/-! # A controller on a virtual clock

A session is a controller with its engine at a moment of a clock that moves only when it is told to.
On the way to a later moment everything that falls due happens at its own time, the earliest
first. -/

namespace SpeechQueue

inductive Session.Starter where
  | controller
  | engine
deriving DecidableEq, Repr

inductive Session.Started where
  | controller (result : Except QueueError LanguageStatus)
  | engine (result : Except EngineError Unit)
  /-- The engine broke down. Nobody gets a result, and a controller goes on waiting for it. -/
  | broken

/-- A start that the engine still takes its time over. -/
structure Session.Pending where
  ticket : Nat
  due : Nat
  starter : Session.Starter
deriving DecidableEq, Repr

/-- The state of a session. Times are in nanoseconds. -/
structure Session (σ : Type) where
  desk : Desk σ
  now : Nat
  pending : List Session.Pending
  /-- The starts that have ended, by their tickets. -/
  ended : List (Nat × Session.Started)
  tickets : Nat
  /-- The starts that somebody still wants to hear of, the earliest first. -/
  unjoined : List Nat
  ids : Nat

namespace Session

variable {σ : Type}

def new (setup : Controller.Setup) (engine : σ) : Session σ :=
  ⟨⟨.new setup, engine⟩, 0, [], [], 0, [], 0⟩

/-- The session after a step of its controller, with the result and the effects of the step. -/
def after {α : Type} (s : Session σ) (o : Outcome σ α) : α × Session σ × List Effect :=
  (o.result, { s with desk := o.desk }, o.effects)

def endStart (ticket : Nat) (result : Started) (s : Session σ) : Session σ :=
  { s with ended := s.ended ++ [(ticket, result)] }

def finishController (engine : Engine σ) (ticket : Nat) (result : Except EngineError Unit)
    (s : Session σ) : Session σ × List Effect :=
  let (result, s, effects) := s.after (s.desk.finishInit engine result)
  (s.endStart ticket (.controller result), effects)

/-- Asks the controller to start, or the engine itself, and gives the ticket of the start. -/
def begin (engine : Engine σ) (starter : Starter) (s : Session σ) :
    Nat × Session σ × List Effect :=
  let ticket := s.tickets
  let s := { s with tickets := ticket + 1 }
  let await (delay : Duration) (s : Session σ) : Session σ :=
    { s with pending := s.pending ++ [⟨ticket, Timer.milliseconds.after s.now delay, starter⟩] }
  match starter with
  | .controller =>
    let (begun, s, effects) := s.after (s.desk.beginInit engine)
    match begun with
    | .answered result => (ticket, s.endStart ticket (.controller result), effects)
    | .started result =>
      let (s, more) := s.finishController engine ticket result
      (ticket, s, effects ++ more)
    | .awaited delay => (ticket, await delay s, effects)
  | .engine =>
    let (start, state, records) := engine.start s.desk.engine
    let s := { s with desk := { s.desk with engine := state } }
    match start with
    | .answered result =>
      (ticket, s.endStart ticket (.engine result), records.map .record)
    | .awaited delay => (ticket, await delay s, records.map .record)

def finish (engine : Engine σ) (p : Pending) (s : Session σ) : Session σ × List Effect :=
  let (result, state, records) := engine.finishStart s.desk.engine
  let s := { s with
    desk := { s.desk with engine := state }
    pending := s.pending.filter (·.ticket ≠ p.ticket) }
  match p.starter, result with
  | _, none => (s.endStart p.ticket .broken, records.map .record)
  | .controller, some result =>
    let (s, effects) := s.finishController engine p.ticket result
    (s, records.map .record ++ effects)
  | .engine, some result => (s.endStart p.ticket (.engine result), records.map .record)

def settle (engine : Engine σ) (s : Session σ) : Session σ × List Effect :=
  let (state, records) := engine.settle s.now s.desk.engine
  ({ s with desk := { s.desk with engine := state } }, records.map .background)

/-- Ends one start that is due, if there is one, and lets the engine do what it can. -/
def tick (engine : Engine σ) (s : Session σ) : Session σ × List Effect :=
  let (s, finished) := match s.pending.find? (·.due ≤ s.now) with
    | some p => s.finish engine p
    | none => (s, [])
  let (s, settled) := s.settle engine
  (s, finished ++ settled)

def due (engine : Engine σ) (s : Session σ) : Option Nat :=
  (s.pending.map (·.due) ++ (engine.due s.desk.engine).toList).min?

/-- Moves the clock, stopping at most `stops` times for what falls due on the way. -/
def moveTo (engine : Engine σ) (target : Nat) : Nat → Session σ → Session σ × List Effect
  | 0, s => ({ s with now := max s.now target }, [])
  | stops + 1, s =>
    match s.due engine with
    | some due =>
      if due ≤ target then
        let (s, ticked) := tick engine { s with now := max s.now due }
        let (s, moved) := s.moveTo engine target stops
        (s, ticked ++ moved)
      else ({ s with now := max s.now target }, [])
    | none => ({ s with now := max s.now target }, [])

/-- Moves the clock to a time. There are at most as many stops as starts that are awaited and
utterances that can end. -/
def advanceTo (engine : Engine σ) (target : Nat) (s : Session σ) : Session σ × List Effect :=
  let (s, settled) := s.settle engine
  let (s, moved) :=
    s.moveTo engine target (s.pending.length + engine.backlog s.desk.engine)
  (s, settled ++ moved)

def waitFor (engine : Engine σ) (ticket : Nat) (s : Session σ) :
    Option Started × Session σ × List Effect :=
  let (s, effects) := match s.pending.find? (·.ticket = ticket) with
    | some p => s.advanceTo engine p.due
    | none => (s, [])
  (s.ended.lookup ticket, s, effects)

def freshId (s : Session σ) : UtteranceId × Session σ :=
  (.supply s.ids, { s with ids := s.ids + 1 })

end Session

end SpeechQueue
