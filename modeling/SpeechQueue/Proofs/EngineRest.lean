import SpeechQueue.Proofs.QueueRefinement

/-! # A console engine at rest

What a call does to an engine that is where some plain server is. It stands where a server is still,
or recovers as soon as its player settles: `Represents.recovers_speak` and
`Represents.recovers_shutDown`. With nothing to do it stays so over the end of another start, which
puts a fresh player in place of the idle one (`Idle.finishStart`). -/

namespace SpeechQueue

open Playback

/-- A player that is behind and has only cancelled utterances in its channel lets go of all. -/
theorem Player.settle_emptied (wordsPerMinute : Nat) {generation now : Nat} {p : Player}
    (running : p.stage = .running) (behind : p.seen ≠ generation)
    (lasting : ∀ item ends, p.speaking = some (item, ends) → now < ends)
    (passed : ∀ item ∈ p.waiting, item.generation < generation) (nonempty : p.waiting ≠ []) :
    Follows generation now (p.settle wordsPerMinute generation now true)
      ⟨none, [], aborted now p.current⟩ := by
  obtain ⟨seen, released, interrupted⟩ := release_cancelled behind lasting
  have emptied := drain_stale wordsPerMinute now []
    (p := { p with speaking := none, seen := seen }) rfl passed nonempty
  rw [List.append_nil] at emptied
  rw [settle_attached wordsPerMinute now running]
  simp only [work, released, Option.isNone_none, if_true, emptied, drain, List.append_nil]
  refine ⟨⟨running, rfl, by simp⟩, rfl, rfl, ?_⟩
  rw [milestones_append, milestones_skipped, interrupted, List.append_nil]

namespace Traced

variable {t : Traced} {server : Server} {now : Nat}

/-- The engine is where some server is, which may have to start what waits with it. -/
def Stands (now : Nat) (t : Traced) : Prop :=
  ∃ server : Server, t.Represents server ∧ server.now = now ∧
    ∀ job ends, server.speaking = some (job, ends) → now < ends

/-- As soon as it has done what it can, the engine is where some server is that has done so too. -/
def Recovers (now : Nat) (t : Traced) : Prop :=
  ∃ server : Server, (Traced.engine.settle now t).1.Represents server ∧ server.now = now ∧
    server.Settled

/-- The engine is where some server is that has nothing to do. -/
def Idle (t : Traced) : Prop :=
  ∃ server : Server, t.Represents server ∧ server.speaking = none ∧ server.waiting = []

theorem speak_eq (speech : Speech) (t : Traced) :
    (Traced.engine.speak speech t).2.1 = t.withConsole (t.console.speak speech).2.1 := rfl

theorem Stands.recovers (stands : t.Stands now) : t.Recovers now := by
  obtain ⟨server, represents, rfl, lasting⟩ := stands
  have settles := represents.settle fun job ends speaking => Nat.le_of_lt (lasting job ends speaking)
  exact ⟨_, settles, rfl, Server.advance_settled _ _⟩

theorem Represents.stands (represents : t.Represents server) (settled : server.Settled) :
    t.Stands server.now :=
  ⟨server, represents, rfl, settled.lasting⟩

theorem Stands.setRate (stands : t.Stands now) (rate : Single) :
    (Traced.engine.setRate rate t).Stands now := by
  obtain ⟨server, represents, time, lasting⟩ := stands
  exact ⟨_, represents.setRate rate, time, lasting⟩

theorem Stands.setPitch (stands : t.Stands now) (pitch : Single) :
    (Traced.engine.setPitch pitch t).Stands now := by
  obtain ⟨server, represents, time, lasting⟩ := stands
  exact ⟨_, represents.setPitch pitch, time, lasting⟩

/-- Adding an utterance, or failing to do so, leaves the engine where a server is. -/
theorem Stands.add (stands : t.Stands now) (text : String) (attributes : Option Attributes) :
    (Traced.engine.speak ⟨text, .add, attributes⟩ t).2.1.Stands now := by
  obtain ⟨server, represents, time, lasting⟩ := stands
  rw [speak_eq]
  cases installed : t.console.installed with
  | none =>
    rw [Console.speak_unavailable _ installed]
    exact ⟨server, represents, time, lasting⟩
  | some p =>
    by_cases room : p.waiting.length < t.console.capacity
    · exact ⟨_, represents.add installed room text attributes, time, lasting⟩
    · rw [Console.speak_full _ installed (Nat.le_of_not_lt room)]
      exact ⟨server, represents, time, lasting⟩

/-- A flush that is refused cancels all the same. -/
theorem Represents.settle_refused {p : Player} (represents : t.Represents server)
    (settled : server.Settled) (installed : t.console.installed = some p)
    (full : t.console.capacity ≤ p.waiting.length) (text : String)
    (attributes : Option Attributes) :
    (Traced.engine.settle server.now
      (t.withConsole (t.console.speak ⟨text, .flush, attributes⟩).2.1)).1.Represents server.abort := by
  obtain ⟨accepting, serving, speaking, -⟩ := represents.opened p installed
  rw [Console.speak_full _ installed full]
  have agrees : (t.withConsole (t.console.renewedFor .flush)).Agrees server :=
    { represents.toAgrees with }
  have nonempty : p.waiting ≠ [] := by
    intro empty
    have one : 1 ≤ t.console.capacity := Nat.le_max_left _ _
    rw [empty, List.length_nil] at full
    omega
  have follows := Player.settle_emptied t.console.setup.wordsPerMinute serving.running serving.behind
    (represents.lasting settled installed) serving.cancelled nonempty
  rw [speaking] at follows
  exact agrees.follow server.now represents.alone installed accepting follows

/-- Whatever is spoken, the engine settles where a server is. -/
theorem Represents.recovers_speak (represents : t.Represents server) (settled : server.Settled)
    (speech : Speech) : (Traced.engine.speak speech t).2.1.Recovers server.now := by
  obtain ⟨text, mode, attributes⟩ := speech
  cases mode with
  | add => exact ((represents.stands settled).add text attributes).recovers
  | flush =>
    rw [speak_eq]
    cases installed : t.console.installed with
    | none =>
      rw [Console.speak_unavailable _ installed]
      exact (represents.stands settled).recovers
    | some p =>
      by_cases room : p.waiting.length < t.console.capacity
      · exact ⟨_, represents.settle_flush settled installed room text attributes, rfl,
          Server.advance_settled _ _⟩
      · exact ⟨_, represents.settle_refused settled installed (Nat.le_of_not_lt room) text attributes,
          rfl, .idle rfl rfl⟩

/-- After a shutdown the engine settles where a server is that is shut down. -/
theorem Represents.recovers_shutDown (represents : t.Represents server) (settled : server.Settled) :
    (Traced.engine.shutDown t).1.Recovers server.now :=
  ⟨_, represents.settle_shutDown settled, rfl, .idle rfl rfl⟩

/-! An engine that has no player, or whose player has nothing to do. -/

/-- The engine is where some server is, and has no player. -/
def Vacant (t : Traced) : Prop := t.Idle ∧ t.console.installed = none

theorem Represents.vacant (represents : t.Represents server)
    (closed : t.console.installed = none) : t.Vacant := by
  obtain ⟨-, silent, empty⟩ := represents.closed closed
  exact ⟨⟨server, represents, silent, empty⟩, closed⟩

theorem Vacant.setRate (vacant : t.Vacant) (rate : Single) :
    (Traced.engine.setRate rate t).Vacant := by
  obtain ⟨⟨server, represents, -, -⟩, closed⟩ := vacant
  exact (represents.setRate rate).vacant closed

theorem Vacant.setPitch (vacant : t.Vacant) (pitch : Single) :
    (Traced.engine.setPitch pitch t).Vacant := by
  obtain ⟨⟨server, represents, -, -⟩, closed⟩ := vacant
  exact (represents.setPitch pitch).vacant closed

theorem Vacant.speak (vacant : t.Vacant) (speech : Speech) :
    (Traced.engine.speak speech t).2.1 = t := by
  rw [speak_eq, Console.speak_unavailable speech vacant.2]
  rfl

theorem Vacant.shutDown (vacant : t.Vacant) : (Traced.engine.shutDown t).1.Vacant := by
  obtain ⟨⟨server, represents, -, -⟩, closed⟩ := vacant
  have agrees : (Traced.engine.shutDown t).1.Agrees server :=
    { represents.toAgrees with }
  have alone : (Traced.engine.shutDown t).1.console.detached = [] := by
    change t.console.detached ++ t.console.installed.toList = []
    rw [represents.alone, closed]
    rfl
  have still : (Traced.engine.shutDown t).1.Represents server :=
    ⟨agrees, alone, fun _ => represents.closed closed, nofun⟩
  exact still.vacant rfl

theorem Vacant.settle (vacant : t.Vacant) (now : Nat) : (Traced.engine.settle now t).1.Vacant := by
  obtain ⟨⟨server, represents, silent, -⟩, closed⟩ := vacant
  have settles := (represents.setNow now).settle (by simp [silent])
  refine settles.vacant ?_
  rw [settle_console, Console.play_installed, closed]
  rfl

theorem Idle.settle (idle : t.Idle) (now : Nat) : (Traced.engine.settle now t).1.Idle := by
  obtain ⟨server, represents, silent, empty⟩ := idle
  have settles := (represents.setNow now).settle (by simp [silent])
  rw [(Server.Settled.idle (s := { server with now := now }) silent empty).advance_now] at settles
  exact ⟨_, settles, silent, empty⟩

/-- An idle engine has nothing to play. -/
theorem Idle.due (idle : t.Idle) : Traced.engine.due t = none := by
  obtain ⟨server, represents, silent, -⟩ := idle
  rw [represents.due, silent]
  rfl

theorem Idle.backlog (idle : t.Idle) : Traced.engine.backlog t = 0 := by
  obtain ⟨server, represents, silent, empty⟩ := idle
  simp [represents.backlog, Server.backlog, silent, empty]

end Traced

/-- A running player that has nothing to do stops when it is let go of. -/
theorem Player.settle_leaving (wordsPerMinute : Nat) {generation now : Nat} {p : Player}
    (running : p.stage = .running) (silent : p.speaking = none) (empty : p.waiting = []) :
    p.settle wordsPerMinute generation now false = ({ p with stage := .stopped }, [.closed]) := by
  simp [settle_running, running, work, release, silent, drain, empty, retire]

/-- The fresh player opens, and those that have nothing to do are gone. -/
theorem Console.play_replaced {c : Console} (now : Nat)
    (fresh : c.installed = some (.new c.generation))
    (leaving : ∀ p ∈ c.detached, p.settle c.setup.wordsPerMinute c.generation now false =
      ({ p with stage := .stopped }, [.closed])) :
    c.play now =
      ({ c with detached := [], installed := some ⟨.running, [], none, c.generation⟩ },
        .opened :: c.detached.map fun _ => .closed) := by
  have stopped : c.detached.map (Player.settle c.setup.wordsPerMinute c.generation now false) =
      c.detached.map fun p => ({ p with stage := .stopped }, [Event.closed]) :=
    List.map_congr_left leaving
  have opened : (Player.new c.generation).stage = .fresh := rfl
  have closings (l : List Player) :
      (l.flatMap fun _ => [Event.closed]) = l.map fun _ => Event.closed := by
    induction l <;> simp_all
  have uncounted (l : List Player) : (l.map fun _ => Event.closed).countP Event.isCompletion = 0 := by
    simp [List.countP_eq_zero, Event.isCompletion]
  simp only [play, stopped, fresh, Player.settle_new, opened, List.flatMap_map, List.map_map,
    Option.map_some, Option.any_some, decide_true, if_true, Option.toList_some, List.flatMap_cons,
    List.flatMap_nil, List.append_nil, closings, List.singleton_append, List.countP_cons, uncounted]
  simp [Event.isCompletion]

namespace Traced

variable {t : Traced} {now : Nat}

/-- When another start ends, the idle player there may be is gone, and the new one has nothing to
do. -/
theorem Idle.finishStart (idle : t.Idle) (now : Nat) :
    (Traced.engine.settle now (Traced.engine.finishStart t).2.1).1.Idle := by
  cases small : decide (Console.maxCapacity < t.console.capacity) with
  | true =>
    have broken : (Traced.engine.finishStart t).2.1 = t := by
      simp only [decide_eq_true_eq] at small
      simp only [engine, Console.engine, Console.finishStart, small, if_true]
      rfl
    rw [broken]
    exact idle.settle now
  | false =>
    obtain ⟨server, represents, silent, empty⟩ := idle
    have done : t.console.finishStart.1 = some (.ok ()) := by
      simp only [decide_eq_false_iff_not] at small
      simp only [Console.finishStart, small, if_false]
    let restarted : Console := { t.console with
      detached := t.console.players
      installed := some (.new t.console.generation) }
    have finished : (Traced.engine.finishStart t).2.1 = t.withConsole restarted :=
      congrArg t.withConsole (Console.finishStart_installed done)
    have leaving : ∀ p ∈ restarted.detached, p.settle restarted.setup.wordsPerMinute
        restarted.generation now false = ({ p with stage := .stopped }, [.closed]) := by
      intro p member
      have installed : t.console.installed = some p := by
        simpa [restarted, Console.players, represents.alone] using member
      obtain ⟨-, serving, current, jobs⟩ := represents.opened p installed
      refine p.settle_leaving _ serving.running ?_ ?_
      · simpa [silent, Player.current] using current
      · simpa [empty, Player.jobs] using jobs
    have played := restarted.play_replaced now rfl leaving
    have agrees : (t.withConsole restarted).Agrees server :=
      { represents.toAgrees with }
    have settled := agrees.settle now
    have quiet : milestones now (restarted.play now).2 = [] := by
      rw [played]
      simp [milestones, Event.milestone?]
    rw [withConsole_console, quiet, List.append_nil] at settled
    rw [finished]
    refine ⟨{ server with accepting := true }, ⟨{ settled with }, ?_, ?_, ?_⟩, silent, empty⟩
    · rw [settle_console, withConsole_console, played]
    · rw [settle_console, withConsole_console, played]
      intro stopped
      cases stopped
    · intro p installed
      rw [settle_console, withConsole_console, played] at installed
      obtain rfl := Option.some.inj installed
      refine ⟨rfl, ⟨rfl, ?_, ?_⟩, silent.symm, empty.symm⟩
      · rw [settle_console, withConsole_console, played]
      · intro item waits
        cases waits

end Traced

end SpeechQueue
