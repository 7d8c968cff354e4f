import SpeechQueue.Broadcast
import SpeechQueue.Session.Clock

/-! # Requests to a session

What can be asked of a session, and its replies. Between two requests the session settles: whatever
can happen without the clock moving has happened. -/

namespace SpeechQueue

namespace Session

inductive Request where
  /-- Starts, and waits for the end of the start. -/
  | init
  /-- Starts without waiting. -/
  | spawnInit
  /-- Waits for the end of the earliest start that was not waited for. -/
  | joinInit
  | advance (span : Duration)
  | submitUser (text : String) (mode : Mode)
  | submitSystem (text : String)
  | submit (text : String) (source : Source)
  /-- Submits what the user said, all before anything else can happen. -/
  | submitAll (texts : List String)
  | shutDown
  | isReady
  | engineInit
  | engineSpeak (speech : Speech)
  | engineSetLanguage (locale : String)
  | engineSetRate (rate : Single)
  | engineSetPitch (pitch : Single)
  | engineShutDown

inductive Reply where
  | done
  | flag (value : Bool)
  | language (status : LanguageStatus)
  | started (result : Started)
  | nothingPending
  | receipt (result : Except QueueError Receipt)
  | receipts (results : List (Except QueueError Receipt))
  | spoken (result : Except EngineError Unit)

variable {σ : Type}

def withEngine (state : σ) (s : Session σ) : Session σ :=
  { s with desk := { s.desk with engine := state } }

def replyTo : Option Started → Reply
  | some started => .started started
  | none => .nothingPending

def startAndWait (engine : Engine σ) (starter : Starter) (s : Session σ) :
    Reply × Session σ × List Effect :=
  let (ticket, s, begun) := s.begin engine starter
  let (started, s, waited) := s.waitFor engine ticket
  (replyTo started, s, begun ++ waited)

def submitUser (engine : Engine σ) (text : String) (mode : Mode) (s : Session σ) :
    Except QueueError Receipt × Session σ × List Effect :=
  let (id, s) := s.freshId
  s.after (s.desk.submitUser engine id text mode)

def submitAll (engine : Engine σ) :
    List String → Session σ → List (Except QueueError Receipt) × Session σ × List Effect
  | [], s => ([], s, [])
  | text :: rest, s =>
    let (result, s, submitted) := s.submitUser engine text .add
    let (results, s, more) := submitAll engine rest s
    (result :: results, s, submitted ++ more)

/-- Does what is asked, before the session settles. -/
def perform (engine : Engine σ) (request : Request) (s : Session σ) :
    Reply × Session σ × List Effect :=
  match request with
  | .init => s.startAndWait engine .controller
  | .spawnInit =>
    let (ticket, s, effects) := s.begin engine .controller
    (.done, { s with unjoined := s.unjoined ++ [ticket] }, effects)
  | .joinInit =>
    match s.unjoined with
    | [] => (.nothingPending, s, [])
    | ticket :: rest =>
      let (started, s, effects) := waitFor engine ticket { s with unjoined := rest }
      (replyTo started, s, effects)
  | .advance span =>
    let (s, effects) := s.advanceTo engine (s.now + span.nanoseconds)
    (.done, s, effects)
  | .submitUser text mode =>
    let (result, s, effects) := s.submitUser engine text mode
    (.receipt result, s, effects)
  | .submitSystem text =>
    let (id, s) := s.freshId
    let (result, s, effects) := s.after (s.desk.submitSystem engine id text)
    (.receipt result, s, effects)
  | .submit text source =>
    let (id, s) := s.freshId
    let (result, s, effects) := s.after (s.desk.submit engine id text source)
    (.receipt result, s, effects)
  | .submitAll texts =>
    let (results, s, effects) := s.submitAll engine texts
    (.receipts results, s, effects)
  | .shutDown =>
    let (_, s, effects) := s.after (s.desk.shutDown engine)
    (.done, s, effects)
  | .isReady => (.flag (s.desk.controller.phase = .ready), s, [])
  | .engineInit => s.startAndWait engine .engine
  | .engineSpeak speech =>
    let (result, state, records) := engine.speak speech s.desk.engine
    (.spoken result, s.withEngine state, records.map .record)
  | .engineSetLanguage locale =>
    let (status, state) := engine.setLanguage locale s.desk.engine
    (.language status, s.withEngine state, [])
  | .engineSetRate rate => (.done, s.withEngine (engine.setRate rate s.desk.engine), [])
  | .engineSetPitch pitch => (.done, s.withEngine (engine.setPitch pitch s.desk.engine), [])
  | .engineShutDown =>
    let (state, records) := engine.shutDown s.desk.engine
    (.done, s.withEngine state, records.map .record)

/-- Does what is asked, and then whatever can happen at the same time. -/
def handle (engine : Engine σ) (request : Request) (s : Session σ) :
    Reply × Session σ × List Effect :=
  let (reply, s, performed) := s.perform engine request
  let (s, settled) := s.advanceTo engine s.now
  (reply, s, performed ++ settled)

end Session

/-- Somebody who listens for errors, directly or as the only subscriber of a broadcast. -/
structure Listener where
  name : String
  broadcast : Option (Broadcast String)

/-- The listeners of a session; the identifier of one is its place. -/
structure Audience where
  listeners : List Listener

namespace Audience

def empty : Audience := ⟨[]⟩

def join (name : String) (byBroadcast : Bool) (a : Audience) : ListenerId × Audience :=
  let broadcast := if byBroadcast then
      some ((Broadcast.withCapacity Broadcast.defaultCapacity).subscribe).2
    else none
  (a.listeners.length, ⟨a.listeners ++ [⟨name, broadcast⟩]⟩)

def send (id : ListenerId) (message : String) (a : Audience) : Audience :=
  ⟨a.listeners.modify id fun l => { l with broadcast := l.broadcast.map (Broadcast.send message) }⟩

/-- What was heard of some effects: first by those who listen directly, in the order of the
messages, and then by the subscribers of broadcasts. -/
def hear (effects : List Effect) (a : Audience) : List (String × String) × Audience :=
  let told := effects.filterMap fun
    | .tell id message => some (id, message)
    | _ => none
  let direct := told.filterMap fun (id, message) =>
    match a.listeners[id]? with
    | some ⟨name, none⟩ => some (name, message)
    | _ => none
  let a := told.foldl (fun a (id, message) => a.send id message) a
  let read := a.listeners.map fun l =>
    match l.broadcast with
    | some b =>
      let (messages, b) := b.receiveAll 0
      (messages.map (l.name, ·), { l with broadcast := some b })
    | none => ([], l)
  (direct ++ read.flatMap (·.1), ⟨read.map (·.2)⟩)

end Audience

end SpeechQueue
