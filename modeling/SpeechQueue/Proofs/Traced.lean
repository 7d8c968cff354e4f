import SpeechQueue.Engine.Console
import SpeechQueue.Proofs.ConsoleRuns
import SpeechQueue.Proofs.Projection
import SpeechQueue.Proofs.Server

/-! # The console engine with a trace

What happens in playback leaves records in the log but no times. Here the engine also keeps a trace
of all that its players did and when; forgetting the trace gives the engine back. -/

namespace SpeechQueue

open Playback

/-- The job that an item of the channel stands for: all but the generation. -/
def Playback.Item.job (item : Item) : Job where
  text := item.text
  rate := item.rate
  pitch := item.pitch
  volume := item.volume
  id := item.id

/-- What an event says of a job. Of a job that is skipped, it was said before that it is not to be
spoken. -/
def Playback.Event.milestone? : Event → Option Server.Milestone
  | .started item => some (.started item.job)
  | .interrupted item => some (.interrupted item.job)
  | .completed item => some (.completed item.job)
  | .opened | .skipped _ | .closed => none

/-- What becomes of jobs by events at one time. -/
def Playback.milestones (now : Nat) (events : List Event) : List (Nat × Server.Milestone) :=
  (events.filterMap Event.milestone?).map (now, ·)

/-- A console engine and what has happened in playback so far. -/
structure Traced where
  console : Console
  trace : List (Nat × Event)

namespace Traced

/-- A trace that has yet to begin. -/
def new (setup : Console.Setup) : Traced := ⟨.new setup, []⟩

/-- The same trace, with another state of the engine. -/
def withConsole (t : Traced) (console : Console) : Traced := { t with console := console }

/-- What has become of jobs so far. -/
def log (t : Traced) : List (Nat × Server.Milestone) :=
  t.trace.filterMap fun (now, event) => event.milestone?.map (now, ·)

/-- The console engine, keeping its trace. -/
def engine : Engine Traced where
  start t :=
    let (start, c, records) := Console.engine.start t.console
    (start, t.withConsole c, records)
  finishStart t :=
    let (result, c, records) := Console.engine.finishStart t.console
    (result, t.withConsole c, records)
  setLanguage locale t :=
    let (status, c) := Console.engine.setLanguage locale t.console
    (status, t.withConsole c)
  setRate rate t := t.withConsole (Console.engine.setRate rate t.console)
  setPitch pitch t := t.withConsole (Console.engine.setPitch pitch t.console)
  speak speech t :=
    let (result, c, records) := Console.engine.speak speech t.console
    (result, t.withConsole c, records)
  shutDown t :=
    let (c, records) := Console.engine.shutDown t.console
    (t.withConsole c, records)
  due t := Console.engine.due t.console
  backlog t := Console.engine.backlog t.console
  settle now t :=
    let (c, events) := t.console.play now
    (⟨c, t.trace ++ events.map (now, ·)⟩, events.filterMap Event.record?)

/-- The trace changes nothing else. -/
theorem projects : engine.Projects Console.engine console where
  start _ := rfl
  finishStart _ := rfl
  setLanguage _ _ := rfl
  setRate _ _ := rfl
  setPitch _ _ := rfl
  speak _ _ := rfl
  shutDown _ := rfl
  due _ := rfl
  backlog _ := rfl
  settle _ _ := rfl

theorem withConsole_console (t : Traced) (c : Console) : (t.withConsole c).console = c := rfl

theorem settle_console (now : Nat) (t : Traced) :
    (engine.settle now t).1.console = (t.console.play now).1 := rfl

theorem settle_log (now : Nat) (t : Traced) :
    (engine.settle now t).1.log = t.log ++ milestones now (t.console.play now).2 := by
  simp only [engine, log, milestones, List.filterMap_append, List.filterMap_map,
    List.map_filterMap]
  rfl

end Traced

end SpeechQueue
