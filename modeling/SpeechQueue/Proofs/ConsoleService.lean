import SpeechQueue.Proofs.PlayerService

/-! # The console engine as a server

`Represents` relates the engine, with its trace, to a plain server: the channel is the waiting list,
and the trace says what has become of jobs. Every call keeps this relation; after a flush or a
shutdown it is restored as soon as the player settles. -/

namespace SpeechQueue

open Playback

/-- The engine is set as the server is, and the same has become of the jobs so far. -/
structure Traced.Agrees (t : Traced) (s : Server) : Prop where
  timer : s.timer = .milliseconds
  wordsPerMinute : t.console.setup.wordsPerMinute = s.wordsPerMinute
  capacity : t.console.capacity = s.capacity
  rate : t.console.rate = s.rate
  pitch : t.console.pitch = s.pitch
  log : t.log = s.log
  played : t.console.played = s.played

/-- The engine is where the server is. Its one player, if it has any, is the server. -/
structure Traced.Represents (t : Traced) (s : Server) : Prop extends t.Agrees s where
  alone : t.console.detached = []
  closed : t.console.installed = none → s.accepting = false ∧ s.speaking = none ∧ s.waiting = []
  opened : ∀ p, t.console.installed = some p → s.accepting = true ∧
    p.Serving t.console.generation ∧ p.current = s.speaking ∧ p.jobs = s.waiting

namespace Console

variable {c : Console} {p : Player} (now : Nat)

theorem play_closed (alone : c.detached = []) (closed : c.installed = none) :
    c.play now = (c, []) := by
  obtain ⟨setup, rate, pitch, generation, installed, detached, played⟩ := c
  subst alone closed
  rfl

theorem play_running (alone : c.detached = []) (installed : c.installed = some p) :
    c.play now =
      let settled := p.settle c.setup.wordsPerMinute c.generation now true
      ({ c with installed := some settled.1, played := c.played + settled.2.countP Event.isCompletion },
        settled.2) := by
  simp [play, alone, installed]

/-- A player that is let go of stops, and is gone once it has. -/
theorem play_leaving (leaving : c.detached = [p]) (closed : c.installed = none)
    (stops : (p.settle c.setup.wordsPerMinute c.generation now false).1.stage = .stopped) :
    c.play now =
      let settled := p.settle c.setup.wordsPerMinute c.generation now false
      ({ c with detached := [], played := c.played + settled.2.countP Event.isCompletion },
        settled.2) := by
  simp [play, leaving, closed, stops]

end Console

/-- What was played is counted by its milestones. -/
theorem Playback.countP_milestones (now : Nat) (events : List Event) :
    (milestones now events).countP (·.2.isCompletion) = events.countP Event.isCompletion := by
  simp only [milestones, List.countP_map, List.countP_filterMap]
  refine List.countP_congr fun event _ => ?_
  cases event <;> simp [Event.milestone?, Event.isCompletion, Server.Milestone.isCompletion]

variable {t : Traced} {s : Server} {p : Player}

/-- Settling adds what happens to the log, and counts it. -/
theorem Traced.Agrees.settle (agrees : t.Agrees s) (now : Nat) :
    (Traced.engine.settle now t).1.Agrees
      { s with log := s.log ++ milestones now (t.console.play now).2 } := by
  refine { agrees with log := ?_, played := ?_ }
  · rw [Traced.settle_log, agrees.log]
  · simp [Traced.engine, Console.play, agrees.played, Server.played, countP_milestones]

/-- When the player follows a service, the engine represents the server after it. -/
theorem Traced.Agrees.follow (agrees : t.Agrees s) (now : Nat) {service : Server.Service}
    (alone : t.console.detached = []) (installed : t.console.installed = some p)
    (accepting : s.accepting = true)
    (follows : Player.Follows t.console.generation now
      (p.settle t.console.setup.wordsPerMinute t.console.generation now true) service) :
    (Traced.engine.settle now t).1.Represents { s with
      now := now
      speaking := service.speaking
      waiting := service.waiting
      log := s.log ++ service.log } := by
  have played := Console.play_running now alone installed
  have settled := agrees.settle now
  rw [played, follows.log] at settled
  refine ⟨{ settled with }, ?_, ?_, ?_⟩
  · simpa [Traced.engine, played] using alone
  · simp [Traced.engine, played]
  · intro q same
    simp only [Traced.engine, played] at same ⊢
    obtain rfl := Option.some.inj same
    exact ⟨accepting, follows.serving, follows.speaking, follows.waiting⟩

namespace Traced.Represents

/-- The relation does not depend on the time. -/
theorem setNow (represents : t.Represents s) (now : Nat) : t.Represents { s with now := now } :=
  { represents with }

/-- Settling the engine is what the server does at once. -/
theorem settle (represents : t.Represents s)
    (due : ∀ job ends, s.speaking = some (job, ends) → s.now ≤ ends) :
    (Traced.engine.settle s.now t).1.Represents (s.advance s.now) := by
  cases installed : t.console.installed with
  | none =>
    obtain ⟨-, silent, empty⟩ := represents.closed installed
    have same : s.advance s.now = s :=
      (Server.Settled.idle silent empty).advance_now
    have idle := Console.play_closed s.now represents.alone installed
    simpa [same, Traced.engine, idle] using represents
  | some p =>
    obtain ⟨accepting, serving, speaking, waiting⟩ := represents.opened p installed
    have follows := Player.settle_follows t.console.setup.wordsPerMinute s.now serving
      fun item ends spoken => due item.job ends (by
        rw [← speaking, Player.current, spoken]
        rfl)
    rw [speaking, waiting] at follows
    simpa [Server.advance, represents.timer, represents.wordsPerMinute] using
      represents.toAgrees.follow s.now represents.alone installed accepting follows

/-- The channel has as many utterances as wait with the server. -/
theorem length_waiting (represents : t.Represents s) (installed : t.console.installed = some p) :
    p.waiting.length = s.waiting.length := by
  obtain ⟨-, -, -, waiting⟩ := represents.opened p installed
  simp [← waiting, Player.jobs]

/-- The item that is put into the channel is the job that the server takes. -/
theorem item_job (represents : t.Represents s) (text : String) (mode : Mode)
    (attributes : Option Attributes) :
    ((t.console.renewedFor mode).item ⟨text, mode, attributes⟩).job = s.job text attributes := by
  cases mode <;>
    simp [Console.renewedFor, Console.item, Item.job, Server.job, represents.rate,
      represents.pitch, Console.defaultVolume]

theorem setRate (represents : t.Represents s) (rate : Single) :
    (t.withConsole { t.console with rate := rate }).Represents { s with rate := rate } :=
  { represents with rate := rfl }

theorem setPitch (represents : t.Represents s) (pitch : Single) :
    (t.withConsole { t.console with pitch := pitch }).Represents { s with pitch := pitch } :=
  { represents with pitch := rfl }

/-- An utterance that is added waits in the channel. -/
theorem add (represents : t.Represents s) (installed : t.console.installed = some p)
    (room : p.waiting.length < t.console.capacity) (text : String)
    (attributes : Option Attributes) :
    (t.withConsole (t.console.speak ⟨text, .add, attributes⟩).2.1).Represents
      { s with waiting := s.waiting ++ [s.job text attributes] } := by
  obtain ⟨accepting, serving, speaking, waiting⟩ := represents.opened p installed
  rw [Console.speak_accepted _ installed room]
  refine ⟨{ represents.toAgrees with }, represents.alone, nofun, fun q same => ?_⟩
  obtain rfl := Option.some.inj same
  refine ⟨accepting, ⟨serving.running, serving.seen, fun item member => ?_⟩, speaking, ?_⟩
  · rcases List.mem_append.mp member with earlier | last
    · exact serving.tags item earlier
    · obtain rfl := List.mem_singleton.mp last
      rfl
  · simp [Player.jobs, ← waiting, represents.item_job text .add attributes]

/-- What the player speaks is not over while the server is settled. -/
theorem lasting (represents : t.Represents s) (settled : s.Settled)
    (installed : t.console.installed = some p) (item : Item) (ends : Nat)
    (spoken : p.speaking = some (item, ends)) : s.now < ends := by
  obtain ⟨-, -, speaking, -⟩ := represents.opened p installed
  refine settled.lasting item.job ends ?_
  rw [← speaking, Player.current, spoken]
  rfl

/-- After a flush, the player settles by serving the one utterance of the flush. -/
theorem settle_flush (represents : t.Represents s) (settled : s.Settled)
    (installed : t.console.installed = some p) (room : p.waiting.length < t.console.capacity)
    (text : String) (attributes : Option Attributes) :
    (Traced.engine.settle s.now
      (t.withConsole (t.console.speak ⟨text, .flush, attributes⟩).2.1)).1.Represents
        ({ s.abort with waiting := [s.job text attributes] }.advance s.now) := by
  obtain ⟨accepting, serving, speaking, waiting⟩ := represents.opened p installed
  let item := (t.console.renewedFor .flush).item ⟨text, .flush, attributes⟩
  have spoken := Console.speak_accepted ⟨text, .flush, attributes⟩ installed room
  have agrees : (t.withConsole (t.console.speak ⟨text, .flush, attributes⟩).2.1).Agrees s := by
    rw [spoken]
    exact { represents.toAgrees with }
  have tags : ∀ other ∈ [item], other.generation = t.console.generation + 1 := by
    intro other member
    rw [List.mem_singleton.mp member]
    rfl
  have follows := Player.settle_cancelled t.console.setup.wordsPerMinute s.now
    (p := { p with waiting := p.waiting ++ [item] }) serving.running serving.behind
    (fun other ends spoken => represents.lasting settled installed other ends spoken) rfl
    serving.cancelled tags (List.cons_ne_nil _ _)
  have settles := agrees.follow s.now (by rw [spoken]; exact represents.alone)
    (by rw [spoken]; rfl) accepting (by rw [spoken]; exact follows)
  have current : Player.current { p with waiting := p.waiting ++ [item] } = s.speaking := speaking
  have job : item.job = s.job text attributes := represents.item_job text .flush attributes
  simpa [Server.advance, Server.abort, Server.resume, Player.aborted, current, job,
    represents.timer, represents.wordsPerMinute, List.append_assoc] using settles

/-- After a shutdown, the player lets go of everything and is gone. -/
theorem play_shutDown (represents : t.Represents s) (settled : s.Settled) :
    milestones s.now (t.console.shutDown.1.play s.now).2 = Player.aborted s.now s.speaking ∧
      (t.console.shutDown.1.play s.now).1.detached = [] := by
  cases installed : t.console.installed with
  | none =>
    obtain ⟨-, silent, -⟩ := represents.closed installed
    have alone : t.console.shutDown.1.detached = [] := by
      simp [Console.shutDown, installed, represents.alone]
    rw [Console.play_closed s.now alone rfl, silent]
    exact ⟨rfl, alone⟩
  | some p =>
    obtain ⟨-, serving, speaking, -⟩ := represents.opened p installed
    obtain ⟨stops, aborted⟩ := Player.settle_shutDown t.console.setup.wordsPerMinute s.now
      serving.running serving.behind (represents.lasting settled installed) serving.cancelled
    have leaving : t.console.shutDown.1.detached = [p] := by
      simp [Console.shutDown, installed, represents.alone]
    rw [Console.play_leaving s.now leaving rfl stops, ← speaking]
    exact ⟨aborted, rfl⟩

/-- After a shutdown, the engine settles by aborting everything. -/
theorem settle_shutDown (represents : t.Represents s) (settled : s.Settled) :
    (Traced.engine.settle s.now (t.withConsole t.console.shutDown.1)).1.Represents
      { s.abort with accepting := false } := by
  obtain ⟨aborted, gone⟩ := represents.play_shutDown settled
  have agrees : (t.withConsole t.console.shutDown.1).Agrees s :=
    { represents.toAgrees with }
  have settles := agrees.settle s.now
  rw [Traced.withConsole_console, aborted] at settles
  have closed : (t.console.shutDown.1.play s.now).1.installed = none := by
    rw [Console.play_installed]
    rfl
  refine ⟨{ settles with }, ?_, fun _ => ⟨rfl, rfl, rfl⟩, fun p installed => ?_⟩
  · rw [Traced.settle_console]
    exact gone
  · rw [Traced.settle_console, Traced.withConsole_console, closed] at installed
    cases installed

end Traced.Represents

end SpeechQueue
