import SpeechQueue.Directive.Resolve
import SpeechQueue.Engine.Basic

/-! # The queue controller

The controller decides by its phase whether an utterance is accepted, resolves the directives of
what the user submits, hands utterances to an engine, and reports errors to a listener and the log.
Every operation here is one step under the controller's lock. Starting the engine takes two steps,
since the lock is not held while the engine is awaited. -/

namespace SpeechQueue

inductive Phase where
  | uninitialized
  | initializing
  | ready
  | closed
deriving DecidableEq, Repr

def Phase.name : Phase → String
  | .uninitialized => "uninitialized"
  | .initializing => "initializing"
  | .ready => "ready"
  | .closed => "closed"

abbrev ListenerId := Nat

/-- What an operation does besides changing the controller, in order. -/
inductive Effect where
  | call (call : Call)
  | record (record : Record)
  /-- A record of the work that an engine does by itself. -/
  | background (record : Record)
  | tell (listener : ListenerId) (message : String)
deriving DecidableEq

namespace Effect

def records (effects : List Effect) : List Record :=
  effects.filterMap fun
    | .record r => some r
    | .background r => some r
    | _ => none

/-- The records among some effects, without those of work that an engine does by itself. -/
def foreground (effects : List Effect) : List Record :=
  effects.filterMap fun
    | .record r => some r
    | _ => none

end Effect

/-- What a submitter is given for an accepted utterance. Only utterances that carry parameters have
them in their receipt. -/
structure Receipt where
  id : UtteranceId
  mode : Mode
  parameters : Option Parameters
deriving DecidableEq

namespace Controller

structure Setup where
  locale : String
  defaults : Parameters
deriving DecidableEq

def defaultLocale : String := "en-US"

def Setup.default : Setup := ⟨defaultLocale, .default⟩

end Controller

structure Controller where
  setup : Controller.Setup
  phase : Phase
  /-- The engine was asked to start; it is asked only once. -/
  attempted : Bool
  /-- The engine's answer to the choice of the language. -/
  language : Option LanguageStatus
  parameters : Parameters
  listener : Option ListenerId
deriving DecidableEq

namespace Controller

def new (setup : Setup) : Controller :=
  ⟨setup, .uninitialized, false, none, setup.defaults, none⟩

def target : String := "voxqueue::application::queue_controller"

def log (level : Level) (message : String) (fields : List (String × FieldValue)) : Effect :=
  .record ⟨level, target, message, fields⟩

def reportRecord (phase : Phase) (e : QueueError) : Effect :=
  log (if e.isFatal then .error else .warn) (if e.isFatal then "TTS error" else "TTS warning")
    [("state", .label phase.name), ("error", .shown e.message)]

/-- Logs an error and tells the listener of it. -/
def report (c : Controller) (e : QueueError) : List Effect :=
  reportRecord c.phase e :: (c.listener.map fun l => Effect.tell l e.message).toList

end Controller

/-- A controller with its engine's state. -/
structure Desk (σ : Type) where
  controller : Controller
  engine : σ

/-- The result of a step, the state after it, and its effects. -/
structure Outcome (σ α : Type) where
  result : α
  desk : Desk σ
  effects : List Effect

namespace Desk

variable {σ : Type}

/-- A step that only fails, with a report. -/
def fail {α : Type} (d : Desk σ) (e : QueueError) : Outcome σ (Except QueueError α) :=
  ⟨.error e, d, d.controller.report e⟩

/-- The error with which a submission is refused before anything else is done. -/
def refusal? : Phase → Option QueueError
  | .ready => none
  | .closed => some .closed
  | .uninitialized => some .notReady
  | .initializing => some .notReady

/-- An answer to the wish to start: without the engine, or with the engine's result at once or after a
delay. -/
inductive Begun where
  | answered (result : Except QueueError LanguageStatus)
  | started (result : Except EngineError Unit)
  | awaited (delay : Duration)

/-- The first step of starting: asks the engine to start, unless it was asked before. -/
def beginInit (engine : Engine σ) (d : Desk σ) : Outcome σ Begun :=
  let c := d.controller
  match c.phase with
  | .closed => ⟨.answered (.error .closed), d, c.report .closed⟩
  | .ready => ⟨.answered (.ok (c.language.getD .ok)), d, []⟩
  | .initializing =>
    ⟨.answered (.error .notReady), d,
      [Controller.log .debug "Speech engine initialization already in progress" []]⟩
  | .uninitialized =>
    if c.attempted then
      let e := QueueError.initFailed "initialization already attempted"
      ⟨.answered (.error e), d, c.report e⟩
    else
      let c := { c with phase := .initializing, attempted := true }
      let (start, s, records) := engine.start d.engine
      ⟨match start with
        | .answered result => .started result
        | .awaited delay => .awaited delay,
        ⟨c, s⟩,
        Controller.log .debug "Waiting for speech engine initialization" [] :: .call .start ::
          records.map .record⟩

/-- The second step of starting, once the engine has given its result. The result is of no use to a
controller that was closed meanwhile. -/
def finishInit (engine : Engine σ) (result : Except EngineError Unit) (d : Desk σ) :
    Outcome σ (Except QueueError LanguageStatus) :=
  let c := d.controller
  if c.phase = .closed then
    ⟨.error .closed, d,
      Controller.log .warn "Speech engine initialized after shutdown, result discarded" [] ::
        c.report .closed⟩
  else match result with
    | .error e =>
      let c := { c with phase := .uninitialized }
      let e := QueueError.ofInit e
      ⟨.error e, { d with controller := c }, c.report e⟩
    | .ok () =>
      let locale := c.setup.locale
      let (language, s) := engine.setLanguage locale d.engine
      let parameters := { c.parameters with volume := c.setup.defaults.volume }
      let c := { c with parameters := parameters, language := some language, phase := .ready }
      ⟨.ok language, ⟨c, s⟩,
        .call (.setLanguage locale) ::
          Controller.log .info "TTS initialized"
            [("locale", .shown locale), ("language", .shown language.name)] ::
          if language.isUsable then [] else c.report (.unsupportedLanguage locale)⟩

/-- Hands an utterance to the engine with the current parameters. -/
def speakWithParameters (engine : Engine σ) (id : UtteranceId) (text : String) (mode : Mode)
    (d : Desk σ) : Outcome σ (Except QueueError Receipt) :=
  let p := d.controller.parameters
  let attributes := (Attributes.empty.withVolume p.volume).withId id
  let speech : Speech := ⟨text, mode, some attributes⟩
  let s := engine.setPitch p.pitch (engine.setRate p.rate d.engine)
  let (result, s, records) := engine.speak speech s
  let d := { d with engine := s }
  let called := [.call (.setRate p.rate), .call (.setPitch p.pitch), .call (.speak speech)]
    ++ records.map Effect.record
  match result with
  | .error e =>
    let e := QueueError.ofSpeak e
    ⟨.error e, d, called ++ d.controller.report e⟩
  | .ok () =>
    ⟨.ok ⟨id, mode, some p⟩, d,
      called ++ [Controller.log .debug "Utterance enqueued"
        [("utterance_id", .shown id.text), ("mode", .label mode.name),
         ("text_len", .count text.utf8ByteSize)]]⟩

/-- The record of the directives that were resolved, when there were any. -/
def resolvedRecord (r : Resolved) : List Effect :=
  if r.applied.isEmpty then []
  else [Controller.log .debug "Speech directives resolved"
    [("applied", .shown (Directive.details r.applied)), ("rate", .number r.parameters.rate),
     ("pitch", .number r.parameters.pitch), ("volume", .number r.parameters.volume)]]

/-- Submits what the user said: its directives change the parameters, whether or not the engine
then accepts the utterance. -/
def submitUser (engine : Engine σ) (id : UtteranceId) (text : String) (mode : Mode) (d : Desk σ) :
    Outcome σ (Except QueueError Receipt) :=
  match refusal? d.controller.phase with
  | some e => d.fail e
  | none =>
    let resolved := resolve text d.controller.parameters
    let d := { d with controller := { d.controller with parameters := resolved.parameters } }
    let spoken := d.speakWithParameters engine id text mode
    { spoken with effects := resolvedRecord resolved ++ spoken.effects }

/-- Submits what the program says: as it is, at once, and without parameters. -/
def submitSystem (engine : Engine σ) (id : UtteranceId) (text : String) (d : Desk σ) :
    Outcome σ (Except QueueError Receipt) :=
  match refusal? d.controller.phase with
  | some e => d.fail e
  | none =>
    let speech : Speech := ⟨text, .flush, none⟩
    let (result, s, records) := engine.speak speech d.engine
    let d := { d with engine := s }
    let called := .call (.speak speech) :: records.map Effect.record
    match result with
    | .error e =>
      let e := QueueError.ofSpeak e
      ⟨.error e, d, called ++ d.controller.report e⟩
    | .ok () =>
      ⟨.ok ⟨id, .flush, none⟩, d,
        called ++ [Controller.log .debug "System utterance flushed"
          [("utterance_id", .shown id.text), ("text_len", .count text.utf8ByteSize)]]⟩

/-- Adds an utterance to the queue. That of the program is spoken as it is, with the current
parameters. -/
def submit (engine : Engine σ) (id : UtteranceId) (text : String) (source : Source) (d : Desk σ) :
    Outcome σ (Except QueueError Receipt) :=
  match source with
  | .user => d.submitUser engine id text .add
  | .system =>
    match refusal? d.controller.phase with
    | some e => d.fail e
    | none => d.speakWithParameters engine id text .add

def shutDown (engine : Engine σ) (d : Desk σ) : Outcome σ Unit :=
  if d.controller.phase = .closed then
    ⟨(), d, [Controller.log .debug "Speech engine already shut down" []]⟩
  else
    let (s, records) := engine.shutDown d.engine
    ⟨(), ⟨{ d.controller with phase := .closed }, s⟩,
      .call .shutDown :: records.map Effect.record ++
        [Controller.log .info "Speech engine shut down" []]⟩

def setListener (listener : ListenerId) (d : Desk σ) : Desk σ :=
  { d with controller := { d.controller with listener := some listener } }

end Desk

end SpeechQueue
