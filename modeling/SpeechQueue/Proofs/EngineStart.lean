import SpeechQueue.Proofs.ConsoleService

/-! # Starting the console engine in a session

The engine is asked to start when nothing has happened yet, and the session waits until it has
started. Then the engine represents a server that has just been opened; that it takes its time over
the start only moves the clock. -/

namespace SpeechQueue

open Playback

/-- How a start that nobody but the engine was asked for ends. -/
def Session.Started.ofEngine : Option (Except EngineError Unit) → Session.Started
  | some result => .engine result
  | none => .broken

/-- The engine as soon as its start has ended. -/
def Traced.opened (setup : Console.Setup) (now : Nat) : Traced :=
  (Traced.engine.settle now
    ((Traced.new setup).withConsole (Console.new setup).finishStart.2.1)).1

/-- An engine that has started represents a server that has just been opened. -/
theorem Traced.opened_represents {setup : Console.Setup}
    (done : (Console.new setup).finishStart.1 = some (.ok ())) (now : Nat) :
    (Traced.opened setup now).Represents
      (.new .milliseconds setup.wordsPerMinute (max 1 setup.queueCapacity) now) := by
  have installed := Console.finishStart_installed done
  have agrees : ((Traced.new setup).withConsole (Console.new setup).finishStart.2.1).Agrees
      (.new .milliseconds setup.wordsPerMinute (max 1 setup.queueCapacity) now) := by
    rw [installed]
    refine ⟨rfl, rfl, rfl, ?_, ?_, rfl, rfl⟩ <;> simp [Traced.withConsole, Console.new, Server.new]
  have follows : Player.Follows 0 now ((Player.new 0).settle setup.wordsPerMinute 0 now true)
      ⟨none, [], []⟩ := by
    rw [Player.settle_new]
    exact ⟨⟨rfl, rfl, by simp⟩, rfl, rfl, rfl⟩
  have represents := agrees.follow now (by rw [installed]; rfl) (by rw [installed]; rfl) rfl
    (by rw [installed]; exact follows)
  simpa [Server.new, Traced.opened] using represents

namespace Session

variable (controller : Controller.Setup) (setup : Console.Setup)

/-- When the engine has started that is asked to at the beginning. -/
def openingTime : Nat := Timer.milliseconds.after 0 setup.initDelay

/-- A session whose engine takes its time over its start. -/
def starting : Session Traced :=
  { new controller (Traced.new setup) with
    tickets := 1
    pending := [⟨0, openingTime setup, .engine⟩] }

/-- A session whose engine's start has ended. -/
def opened : Session Traced :=
  { starting controller setup with
    desk := ⟨.new controller, Traced.opened setup (openingTime setup)⟩
    now := openingTime setup
    pending := []
    ended := [(0, .ofEngine (Console.new setup).finishStart.1)] }

theorem begin_new (speed : setup.wordsPerMinute ≠ 0) :
    (new controller (Traced.new setup)).begin Traced.engine .engine =
      (0, starting controller setup, []) := by
  simp [begin, starting, openingTime, new, Traced.engine, Console.engine, Console.start, Traced.new,
    Console.new, speed, Traced.withConsole]

theorem settle_starting :
    ((starting controller setup).settle Traced.engine).1 = starting controller setup := by
  have idle : (Console.new setup).play 0 = _ := Console.play_closed 0 rfl rfl
  simp [settle, starting, new, Traced.engine, Traced.new, idle]

/-- When its time has come, the start ends and the engine settles. -/
theorem tick_starting :
    (tick Traced.engine
      { starting controller setup with now := openingTime setup }).1 =
        opened controller setup := by
  simp only [tick, starting, Nat.le_refl, decide_true, List.find?_cons_of_pos, finish, settle]
  cases ended : (Console.new setup).finishStart.1 <;>
    simp [Traced.engine, Console.engine, new, Traced.new, ended, endStart, opened, starting,
      Traced.opened, Started.ofEngine, Traced.withConsole]

theorem moveTo_starting :
    ((starting controller setup).moveTo Traced.engine (openingTime setup) 1).1 =
      opened controller setup := by
  have due : (starting controller setup).due Traced.engine = some (openingTime setup) := by
    simp [due, starting, new, Traced.engine, Console.engine, Console.due, Console.players,
      Traced.new, Console.new]
  have stopped : max (starting controller setup).now (openingTime setup) = openingTime setup :=
    Nat.max_eq_right (Nat.zero_le _)
  simp only [moveTo, due, Nat.le_refl, if_true]
  rw [stopped, tick_starting]
  simp [opened]

theorem waitFor_starting :
    ((starting controller setup).waitFor Traced.engine 0).1 =
        some (.ofEngine (Console.new setup).finishStart.1) ∧
      ((starting controller setup).waitFor Traced.engine 0).2.1 = opened controller setup := by
  have pending : (starting controller setup).pending.find? (·.ticket = 0) =
      some ⟨0, openingTime setup, .engine⟩ := rfl
  have stops : (starting controller setup).pending.length +
      Traced.engine.backlog (starting controller setup).desk.engine = 1 := rfl
  simp only [waitFor, pending, advanceTo, settle_starting, stops, moveTo_starting]
  exact ⟨rfl, trivial⟩

/-- An engine without speed does not start. -/
theorem speed_of_engineInit
    (initialized : ((new controller (Traced.new setup)).handle Traced.engine .engineInit).1 =
      .started (.engine (.ok ()))) : setup.wordsPerMinute ≠ 0 := by
  intro still
  simp [handle, perform, startAndWait, begin, new, Traced.engine, Console.engine, Console.start,
    Traced.new, Console.new, still, endStart, waitFor, replyTo] at initialized

/-- An engine with speed, and with a channel of a size that there is, starts. -/
theorem engineInit_ok (speed : setup.wordsPerMinute ≠ 0)
    (possible : max 1 setup.queueCapacity ≤ Console.maxCapacity) :
    ((new controller (Console.new setup)).handle Console.engine .engineInit).1 =
      .started (.engine (.ok ())) := by
  obtain ⟨ended, -⟩ := waitFor_starting controller setup
  have small : ¬ Console.maxCapacity < (Console.new setup).capacity := Nat.not_lt_of_le possible
  have start : new controller (Console.new setup) =
      (new controller (Traced.new setup)).project Traced.console := rfl
  rw [start, handle_project Traced.projects]
  simp only [handle, perform, startAndWait, begin_new controller setup speed, ended,
    Console.finishStart, small, if_false, Started.ofEngine, replyTo]

/-- When the engine has been started, it is a fresh server at the end of its start. -/
theorem engineInit_opened
    (initialized : ((new controller (Traced.new setup)).handle Traced.engine .engineInit).1 =
      .started (.engine (.ok ()))) :
    (Console.new setup).finishStart.1 = some (.ok ()) ∧
      ((new controller (Traced.new setup)).handle Traced.engine .engineInit).2.1 =
        ((opened controller setup).advanceTo Traced.engine (opened controller setup).now).1 := by
  have speed := speed_of_engineInit controller setup initialized
  obtain ⟨ended, waited⟩ := waitFor_starting controller setup
  simp only [handle, perform, startAndWait, begin_new controller setup speed, ended, waited]
    at initialized ⊢
  refine ⟨?_, trivial⟩
  cases result : (Console.new setup).finishStart.1 with
  | none => simp [result, replyTo, Started.ofEngine] at initialized
  | some answer =>
    simp only [result, replyTo, Started.ofEngine] at initialized
    cases initialized
    rfl

end Session

end SpeechQueue
