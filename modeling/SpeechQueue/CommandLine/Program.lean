import SpeechQueue.CommandLine.Script
import SpeechQueue.Engine.Console
import SpeechQueue.Log.FilterText
import SpeechQueue.Log.Json
import SpeechQueue.Settings.Load

/-! # The program

The program loads its settings, starts a session over the console engine, makes the requests of its
input and shuts the session down. It adds records of its own to the log, and of all records those
are written that pass the filter. -/

namespace SpeechQueue

structure Program where
  settings : Settings
  filter : Filter
  session : Session Console

namespace Program

def filterVariable : String := "RUST_LOG"

/-- The filter of the log: that of the environment if it can be read, or else the one of the
settings. -/
def filterOf? (environment : List (String × String)) (settings : Settings) : Option Filter :=
  Filter.choose? (environment.lookup filterVariable) settings.log.level

def listener : ListenerId := 0

/-- The program before it starts the engine. -/
def new (settings : Settings) (filter : Filter) : Program :=
  let session := Session.new settings.controller (Console.new settings.console)
  ⟨settings, filter, { session with desk := session.desk.setListener listener }⟩

def target : String := "voxqueue"

def log (level : Level) (message : String) (fields : List (String × FieldValue)) : Record :=
  ⟨level, target, message, fields⟩

def opening (p : Program) : List Record :=
  log .info "VoxQueue - 语音输出队列" [] :: p.settings.bannerRecords

/-- What the program logs about the reply to a request. -/
def remarks : Session.Request → Session.Reply → List Record
  | .init, .started (.controller (.ok language)) =>
    [log .info "Speech queue ready" [("language", .shown language.name)]]
  | .init, .started (.controller (.error e)) =>
    [log .warn "Speech queue unavailable, input will be dropped" [("error", .shown e.message)]]
  | .shutDown, _ => [log .info "Shutdown complete" []]
  | _, .receipt (.ok receipt) =>
    [log .debug "Utterance accepted" [("utterance_id", .shown receipt.id.text)]]
  | _, _ => []

def isBreakdown : Session.Reply → Bool
  | .started .broken => true
  | _ => false

/-- Makes a request of the session, and tells whether the program can go on after it. -/
def ask (request : Session.Request) (p : Program) : Bool × Program × List Effect :=
  let (reply, session, effects) := p.session.handle Console.engine request
  (!isBreakdown reply, { p with session }, effects ++ (remarks request reply).map .record)

/-- Makes requests one after the other, as long as the program can go on. -/
def askAll : List Session.Request → Program → Bool × Program × List Effect
  | [], p => (true, p, [])
  | request :: rest, p =>
    let (goesOn, p, effects) := p.ask request
    if goesOn then
      let (goesOn, p, more) := p.askAll rest
      (goesOn, p, effects ++ more)
    else (false, p, effects)

def advanceTo (time : Nat) (p : Program) : Program × List Effect :=
  let (session, effects) := p.session.advanceTo Console.engine time
  ({ p with session }, effects)

def written (p : Program) (records : List Record) : List Record :=
  records.filter p.filter.passes

def form (p : Program) (record : Record) : String :=
  if p.settings.log.json then record.json else record.line

inductive Failure where
  | settings (fault : Settings.Fault)
  | filter
  | engine
  /-- A line of the input is no text. -/
  | input
deriving DecidableEq, Repr

/-- What the program says of its failure, without what the readers of files and input add to it. -/
def Failure.message : Failure → String
  | .settings .noPlace => "Error"
  | .settings fault => "Error: Failed to load config: " ++ fault.message
  | .filter => "Error"
  | .engine => "Error"
  | .input => "Error"

/-- The code that the program ends with after a failure: another one where it breaks off than
where it gives up. -/
def Failure.exitCode : Failure → Nat
  | .settings .noPlace => 101
  | .settings _ => 1
  | .filter => 101
  | .engine => 101
  | .input => 1

structure Run where
  json : Bool
  /-- The records that are written, without those of the engine's own work. -/
  records : List Record
  failure : Option Failure

def Run.exitCode (run : Run) : Nat :=
  (run.failure.map Failure.exitCode).getD 0

/-- A run of the program with some lines of input. -/
def run (folder : Settings.Folder) (environment : List (String × String))
    (input : List (Option String)) : Run :=
  match Settings.load folder none environment with
  | .error fault => ⟨false, [], some (.settings fault)⟩
  | .ok settings =>
    match filterOf? environment settings with
    | none => ⟨settings.log.json, [], some .filter⟩
    | some filter =>
      let p := new settings filter
      let script := Script.ofLines input
      let (goesOn, _, effects) := p.askAll (.init :: script.requests)
      ⟨settings.log.json, p.written (p.opening ++ Effect.foreground effects),
        if !goesOn then some .engine else if script.complete then none else some .input⟩

end Program

end SpeechQueue
