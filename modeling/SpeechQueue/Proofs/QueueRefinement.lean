import SpeechQueue.Proofs.EngineStart

/-! # The generations refine a plain queue

A console engine that was started once, on a clock that moves only by waiting, answers every
sequence of calls as the plain server does, and the same becomes of every utterance at the same
times. The server has the timers of the engine, which go off on whole milliseconds; one that loses no
time gets ahead of it. The one condition is that no flush meets a full channel, since such a flush is
refused. `replay_eq_server` is the result; `Session.Refines` is what holds between two calls. -/

namespace SpeechQueue

open Playback

namespace Traced.Represents

variable {t : Traced} {s : Server}

/-- What falls due next is the end of the job that is spoken. -/
theorem due (represents : t.Represents s) :
    Traced.engine.due t = s.speaking.map fun spoken => spoken.2 := by
  cases installed : t.console.installed with
  | none =>
    obtain ⟨-, silent, -⟩ := represents.closed installed
    simp [Traced.engine, Console.engine, Console.due, Console.players, represents.alone, installed,
      silent]
  | some p =>
    obtain ⟨-, -, speaking, -⟩ := represents.opened p installed
    rw [← speaking]
    cases spoken : p.speaking <;>
      simp [Traced.engine, Console.engine, Console.due, Console.players, represents.alone,
        installed, Player.due, Player.current, spoken]

/-- The utterances that can still end are the jobs that can. -/
theorem backlog (represents : t.Represents s) : Traced.engine.backlog t = s.backlog := by
  cases installed : t.console.installed with
  | none =>
    obtain ⟨-, silent, empty⟩ := represents.closed installed
    simp [Traced.engine, Console.engine, Console.backlog, Console.players, represents.alone,
      installed, Server.backlog, silent, empty]
  | some p =>
    obtain ⟨-, -, speaking, waiting⟩ := represents.opened p installed
    simp [Traced.engine, Console.engine, Console.backlog, Console.players, represents.alone,
      installed, Player.backlog, Server.backlog, ← speaking, ← waiting, Player.current, Player.jobs]

end Traced.Represents

namespace Session

/-- Between two calls, the engine is where the server is, and all that could happen has happened. -/
structure Refines (s : Session Traced) (server : Server) : Prop where
  pending : s.pending = []
  now : s.now = server.now
  represents : s.desk.engine.Represents server
  settled : server.Settled

variable {s : Session Traced} {server : Server} {target stops : Nat}

theorem Refines.due (refines : s.Refines server) :
    s.due Traced.engine = server.speaking.map fun spoken => spoken.2 := by
  rw [Session.due, refines.pending, refines.represents.due]
  cases server.speaking <;> simp

/-- The clock moves to a time before anything is due. -/
theorem Refines.wait (refines : s.Refines server) (within : s.now ≤ target)
    (early : ∀ job ends, server.speaking = some (job, ends) → target < ends) :
    { s with now := max s.now target }.Refines (server.advance target) := by
  rw [refines.settled.advance early]
  exact ⟨refines.pending, Nat.max_eq_right within, refines.represents.setNow target,
    ⟨refines.settled.free, early⟩⟩

/-- One stop of the clock is the end of the job that is spoken, and what follows from it at once. -/
theorem Refines.tick {job : Job} {ends : Nat} (refines : s.Refines server)
    (speaking : server.speaking = some (job, ends)) :
    (tick Traced.engine { s with now := max s.now ends }).1.Refines (server.advance ends) := by
  have later : s.now < ends := refines.now ▸ refines.settled.lasting job ends speaking
  have stopped : max s.now ends = ends := Nat.max_eq_right (Nat.le_of_lt later)
  have settles := (refines.represents.setNow ends).settle fun other last same => by
    rw [speaking] at same
    exact Nat.le_of_eq (congrArg Prod.snd (Option.some.inj same))
  have same : { server with now := ends }.advance ends = server.advance ends := by
    simp [Server.advance, Server.resume, speaking]
  rw [same] at settles
  simp only [Session.tick, refines.pending, stopped, List.find?_nil, Session.settle]
  exact ⟨rfl, rfl, settles, Server.advance_settled ends server⟩

/-- Moving the clock lets the server work on. There are stops for all that can end. -/
theorem Refines.moveTo (refines : s.Refines server) (within : s.now ≤ target)
    (enough : server.backlog ≤ stops) :
    (s.moveTo Traced.engine target stops).1.Refines (server.advance target) := by
  induction stops generalizing s server with
  | zero =>
    have silent : server.speaking = none := by
      cases speaking : server.speaking with
      | none => rfl
      | some spoken => simp [Server.backlog, speaking] at enough
    exact refines.wait within (by simp [silent])
  | succ stops ih =>
    simp only [Session.moveTo, refines.due]
    cases speaking : server.speaking with
    | none => exact refines.wait within (by simp [speaking])
    | some spoken =>
      obtain ⟨job, ends⟩ := spoken
      have later : server.now < ends := refines.settled.lasting job ends speaking
      simp only [Option.map_some]
      by_cases past : ends ≤ target
      · rw [if_pos past]
        have ticked := refines.tick speaking
        have fewer := Server.advance_backlog speaking (Nat.le_refl ends)
        have moved := ih ticked (ticked.now ▸ past) (by omega)
        rwa [Server.advance_advance _ past] at moved
      · rw [if_neg past]
        refine refines.wait within fun other last same => ?_
        rw [speaking] at same
        obtain ⟨-, rfl⟩ := Prod.mk.inj (Option.some.inj same)
        exact Nat.lt_of_not_le past

/-- Once the engine settles where the server is, the clock can move on. -/
theorem advanceTo_refines (pending : s.pending = []) (now : s.now = server.now)
    (settles : (Traced.engine.settle s.now s.desk.engine).1.Represents server)
    (settled : server.Settled) (within : s.now ≤ target) :
    (s.advanceTo Traced.engine target).1.Refines (server.advance target) := by
  have refines : (s.settle Traced.engine).1.Refines server := ⟨pending, now, settles, settled⟩
  simp only [advanceTo]
  refine refines.moveTo within ?_
  rw [refines.represents.backlog]
  exact Nat.le_add_left _ _

/-- Waiting lets the server work on. -/
theorem Refines.advanceTo (refines : s.Refines server) (within : s.now ≤ target) :
    (s.advanceTo Traced.engine target).1.Refines (server.advance target) := by
  refine advanceTo_refines refines.pending refines.now ?_ refines.settled within
  have settles := refines.represents.settle fun job ends speaking =>
    Nat.le_of_lt (refines.settled.lasting job ends speaking)
  rwa [refines.settled.advance_now, ← refines.now] at settles

/-- A session that has settled where a server is stays there at the same time. -/
theorem settled_refines (pending : s.pending = []) (now : s.now = server.now)
    (settles : (Traced.engine.settle s.now s.desk.engine).1.Represents server)
    (settled : server.Settled) : (s.advanceTo Traced.engine s.now).1.Refines server := by
  have refines := advanceTo_refines pending now settles settled (Nat.le_refl _)
  rwa [now, settled.advance_now, ← now] at refines

theorem Refines.stay (refines : s.Refines server) :
    (s.advanceTo Traced.engine s.now).1.Refines server := by
  have stays := refines.advanceTo (Nat.le_refl _)
  rwa [refines.now, refines.settled.advance_now, ← refines.now] at stays

/-- The session after the engine was asked to speak, before it settles. -/
def spoke (s : Session Traced) (speech : Speech) : Session Traced :=
  s.withEngine (s.desk.engine.withConsole (s.desk.engine.console.speak speech).2.1)

theorem handle_speak (s : Session Traced) (speech : Speech) :
    (s.handle Traced.engine (.engineSpeak speech)).1 =
        .spoken (s.desk.engine.console.speak speech).1 ∧
      (s.handle Traced.engine (.engineSpeak speech)).2.1 =
        ((s.spoke speech).advanceTo Traced.engine s.now).1 :=
  handle_engineSpeak Traced.engine s speech

/-- Once the engine is shut down, it accepts nothing. -/
theorem Refines.speak_closed (refines : s.Refines server)
    (closed : s.desk.engine.console.installed = none) (speech : Speech) :
    (s.handle Traced.engine (.engineSpeak speech)).1 =
        .spoken (.error (.unavailable "engine not running")) ∧
      (s.handle Traced.engine (.engineSpeak speech)).2.1.Refines server := by
  rw [(handle_speak s _).1, (handle_speak s _).2, spoke, Console.speak_unavailable _ closed]
  exact ⟨rfl, refines.stay⟩

/-- An utterance is added, or refused, as by the server. -/
theorem Refines.add (refines : s.Refines server) (text : String)
    (attributes : Option Attributes) :
    (s.handle Traced.engine (.engineSpeak ⟨text, .add, attributes⟩)).1 =
        (server.step (.add text attributes)).1 ∧
      (s.handle Traced.engine (.engineSpeak ⟨text, .add, attributes⟩)).2.1.Refines
        (server.step (.add text attributes)).2 := by
  have represents := refines.represents
  cases installed : s.desk.engine.console.installed with
  | none =>
    obtain ⟨closed, -, -⟩ := represents.closed installed
    rw [Server.step, if_pos closed]
    exact refines.speak_closed installed _
  | some p =>
    rw [(handle_speak s _).1, (handle_speak s _).2]
    obtain ⟨opened, -, -, -⟩ := represents.opened p installed
    have length := represents.length_waiting installed
    by_cases room : p.waiting.length < s.desk.engine.console.capacity
    · have free : ¬ server.capacity ≤ server.waiting.length := by
        rw [← represents.capacity, ← length]
        exact Nat.not_le_of_lt room
      have settles := (represents.add installed room text attributes).settle
        fun job ends speaking => Nat.le_of_lt (refines.settled.lasting job ends speaking)
      rw [← refines.now] at settles
      rw [Server.step, if_neg (by simp [opened]), if_neg free]
      refine ⟨by rw [Console.speak_accepted _ installed room], ?_⟩
      rw [← refines.now]
      exact settled_refines (s := s.spoke ⟨text, .add, attributes⟩) refines.pending rfl settles
        (Server.advance_settled _ _)
    · have full : server.capacity ≤ server.waiting.length := by
        rw [← represents.capacity, ← length]
        exact Nat.le_of_not_lt room
      rw [spoke, Console.speak_full _ installed (Nat.le_of_not_lt room)]
      simp only [Server.step, opened, full, if_false, if_true, Bool.true_eq_false]
      exact ⟨trivial, refines.stay⟩

/-- A flush that finds room does as with the server. -/
theorem Refines.flush (refines : s.Refines server) (text : String)
    (attributes : Option Attributes)
    (room : ∀ p, s.desk.engine.console.installed = some p →
      p.waiting.length < s.desk.engine.console.capacity) :
    (s.handle Traced.engine (.engineSpeak ⟨text, .flush, attributes⟩)).1 =
        (server.step (.flush text attributes)).1 ∧
      (s.handle Traced.engine (.engineSpeak ⟨text, .flush, attributes⟩)).2.1.Refines
        (server.step (.flush text attributes)).2 := by
  have represents := refines.represents
  cases installed : s.desk.engine.console.installed with
  | none =>
    obtain ⟨closed, -, -⟩ := represents.closed installed
    rw [Server.step, if_pos closed]
    exact refines.speak_closed installed _
  | some p =>
    rw [(handle_speak s _).1, (handle_speak s _).2]
    obtain ⟨opened, -, -, -⟩ := represents.opened p installed
    have settles := represents.settle_flush refines.settled installed (room p installed) text
      attributes
    rw [← refines.now] at settles
    rw [Server.step, if_neg (by simp [opened])]
    refine ⟨by rw [Console.speak_accepted _ installed (room p installed)], ?_⟩
    rw [← refines.now]
    exact settled_refines (s := s.spoke ⟨text, .flush, attributes⟩) refines.pending rfl settles
      (Server.advance_settled _ _)

/-- Shutting down aborts everything. -/
theorem Refines.shutDown (refines : s.Refines server) :
    (s.handle Traced.engine .engineShutDown).1 = (server.step .shutDown).1 ∧
      (s.handle Traced.engine .engineShutDown).2.1.Refines (server.step .shutDown).2 := by
  have settles := refines.represents.settle_shutDown refines.settled
  rw [← refines.now] at settles
  rw [(handle_engineShutDown Traced.engine s).1, (handle_engineShutDown Traced.engine s).2]
  refine ⟨rfl, ?_⟩
  exact settled_refines (s := s.withEngine (Traced.engine.shutDown s.desk.engine).1)
    refines.pending refines.now settles (.idle rfl rfl)

theorem Refines.setRate (refines : s.Refines server) (rate : Single) :
    (s.handle Traced.engine (.engineSetRate rate)).1 = (server.step (.setRate rate)).1 ∧
      (s.handle Traced.engine (.engineSetRate rate)).2.1.Refines
        (server.step (.setRate rate)).2 := by
  rw [(handle_engineSetRate Traced.engine s rate).1, (handle_engineSetRate Traced.engine s rate).2]
  refine ⟨rfl, ?_⟩
  exact Refines.stay (s := s.withEngine (Traced.engine.setRate rate s.desk.engine))
    ⟨refines.pending, refines.now, refines.represents.setRate rate,
      ⟨refines.settled.free, refines.settled.lasting⟩⟩

theorem Refines.setPitch (refines : s.Refines server) (pitch : Single) :
    (s.handle Traced.engine (.engineSetPitch pitch)).1 = (server.step (.setPitch pitch)).1 ∧
      (s.handle Traced.engine (.engineSetPitch pitch)).2.1.Refines
        (server.step (.setPitch pitch)).2 := by
  rw [(handle_engineSetPitch Traced.engine s pitch).1,
    (handle_engineSetPitch Traced.engine s pitch).2]
  refine ⟨rfl, ?_⟩
  exact Refines.stay (s := s.withEngine (Traced.engine.setPitch pitch s.desk.engine))
    ⟨refines.pending, refines.now, refines.represents.setPitch pitch,
      ⟨refines.settled.free, refines.settled.lasting⟩⟩

/-- Waiting lets the server work on, and settling again changes nothing. -/
theorem Refines.advance (refines : s.Refines server) (span : Duration) :
    (s.handle Traced.engine (.advance span)).1 = (server.step (.wait span)).1 ∧
      (s.handle Traced.engine (.advance span)).2.1.Refines (server.step (.wait span)).2 := by
  have waited := refines.advanceTo (Nat.le_add_right s.now span.nanoseconds)
  rw [(handle_advance Traced.engine s span).1, (handle_advance Traced.engine s span).2,
    Server.step, ← refines.now]
  exact ⟨rfl, waited.stay⟩

/-- A flush finds room in the channel, if there is a channel. -/
def FlushFindsRoom (c : Console) : Server.Op → Prop
  | .flush _ _ => ∀ p ∈ c.installed, p.waiting.length < c.capacity
  | _ => True

instance (c : Console) : (op : Server.Op) → Decidable (FlushFindsRoom c op)
  | .flush _ _ => Option.decidableForallMem c.installed
  | .add _ _ | .setRate _ | .setPitch _ | .wait _ | .shutDown => isTrue trivial

/-- Every flush among some operations finds room when its turn comes. -/
def FlushesFindRoom (s : Session Console) : List Server.Op → Prop
  | [] => True
  | op :: ops => FlushFindsRoom s.desk.engine op ∧
    FlushesFindRoom (s.handle Console.engine op.request).2.1 ops

instance : (s : Session Console) → (ops : List Server.Op) → Decidable (FlushesFindRoom s ops)
  | _, [] => isTrue trivial
  | s, op :: ops =>
    have := instDecidableFlushesFindRoom (s.handle Console.engine op.request).2.1 ops
    inferInstanceAs (Decidable (FlushFindsRoom s.desk.engine op ∧ _))

/-- The session answers an operation as the server does. -/
theorem Refines.step (refines : s.Refines server) (op : Server.Op)
    (room : FlushFindsRoom s.desk.engine.console op) :
    (s.handle Traced.engine op.request).1 = (server.step op).1 ∧
      (s.handle Traced.engine op.request).2.1.Refines (server.step op).2 := by
  cases op <;> simp only [Server.Op.request]
  case add text attributes => exact refines.add text attributes
  case flush text attributes => exact refines.flush text attributes room
  case setRate rate => exact refines.setRate rate
  case setPitch pitch => exact refines.setPitch pitch
  case wait span => exact refines.advance span
  case shutDown => exact refines.shutDown

/-- The session answers operations in turn as the server does. -/
theorem Refines.replay (refines : s.Refines server) (ops : List Server.Op)
    (room : FlushesFindRoom (s.project Traced.console) ops) :
    (s.replay Traced.engine (ops.map Server.Op.request)).1 = (server.replay ops).1 ∧
      (s.replay Traced.engine (ops.map Server.Op.request)).2.Refines (server.replay ops).2 := by
  induction ops generalizing s server with
  | nil => exact ⟨rfl, refines⟩
  | cons op ops ih =>
    obtain ⟨first, rest⟩ := room
    rw [handle_project Traced.projects] at rest
    obtain ⟨reply, after⟩ := refines.step op first
    obtain ⟨replies, last⟩ := ih after rest
    simp only [List.map_cons, Session.replay, Server.replay, reply, replies]
    exact ⟨trivial, last⟩

end Session

/-- An engine that was started once answers every sequence of calls as a plain queue does whose timers
go off on whole milliseconds, and the same becomes of every utterance at the same times. -/
theorem replay_eq_server (controller : Controller.Setup) (setup : Console.Setup)
    (ops : List Server.Op)
    (initialized : ((Session.new controller (Console.new setup)).handle Console.engine
      .engineInit).1 = .started (.engine (.ok ())))
    (room : Session.FlushesFindRoom ((Session.new controller (Console.new setup)).handle
      Console.engine .engineInit).2.1 ops) :
    let plain := ((Session.new controller (Console.new setup)).handle Console.engine
      .engineInit).2.1.replay Console.engine (ops.map Server.Op.request)
    let traced := ((Session.new controller (Traced.new setup)).handle Traced.engine
      .engineInit).2.1.replay Traced.engine (ops.map Server.Op.request)
    let server := (Server.new .milliseconds setup.wordsPerMinute (max 1 setup.queueCapacity)
      (Timer.milliseconds.after 0 setup.initDelay)).replay ops
    plain = (traced.1, traced.2.project Traced.console) ∧
      plain.1 = server.1 ∧
      traced.2.desk.engine.log = server.2.log ∧
      plain.2.desk.engine.played = server.2.played := by
  intro plain traced server
  have start : Session.new controller (Console.new setup) =
      (Session.new controller (Traced.new setup)).project Traced.console := rfl
  rw [start, Session.handle_project Traced.projects] at initialized room
  have same : plain = (traced.1, traced.2.project Traced.console) := by
    simp only [plain, traced]
    rw [start, Session.handle_project Traced.projects, Session.replay_project Traced.projects]
  obtain ⟨done, opened⟩ := Session.engineInit_opened controller setup initialized
  have fresh : (Session.opened controller setup).Refines (Server.new .milliseconds
      setup.wordsPerMinute (max 1 setup.queueCapacity) (Session.openingTime setup)) :=
    ⟨rfl, rfl, Traced.opened_represents done _, .idle rfl rfl⟩
  have refines := fresh.stay
  rw [← opened] at refines
  obtain ⟨replies, last⟩ := refines.replay ops room
  refine ⟨same, ?_, last.represents.log, ?_⟩
  · rw [same]
    exact replies
  · rw [same]
    exact last.represents.played

/-- A flush in the middle of an utterance, while another one waits, and a shutdown right after it. -/
theorem replay_eq_server_of_flush :
    let setup : Console.Setup := ⟨180, ["en-US"], .ofMilliseconds 100, 2⟩
    let ops : List Server.Op := [.add "one two three" none, .add "four" none,
      .wait (.ofMilliseconds 500), .flush "five six" none, .wait (.ofMilliseconds 5), .shutDown]
    ((Session.new .default (Console.new setup)).handle Console.engine .engineInit).1 =
        .started (.engine (.ok ())) ∧
      Session.FlushesFindRoom
        ((Session.new .default (Console.new setup)).handle Console.engine .engineInit).2.1 ops ∧
      (((Session.new .default (Traced.new setup)).handle Traced.engine .engineInit).2.1.replay
        Traced.engine (ops.map Server.Op.request)).2.desk.engine.log =
          ((Server.new .milliseconds setup.wordsPerMinute (max 1 setup.queueCapacity)
            (Timer.milliseconds.after 0 setup.initDelay)).replay ops).2.log := by
  intro setup ops
  have initialized := Session.engineInit_ok .default setup (by decide) (by decide)
  have room : Session.FlushesFindRoom ((Session.new .default (Console.new setup)).handle
      Console.engine .engineInit).2.1 ops := by decide +kernel
  exact ⟨initialized, room, (replay_eq_server .default setup ops initialized room).2.2.1⟩

/-- Of many short utterances the engine, which loses some time at the end of each, still speaks the last
one when a server that loses none has spoken all of them. -/
theorem behind_exact_server :
    let setup : Console.Setup := .default
    let ops : List Server.Op :=
      List.replicate 12 (.add "one" none) ++ [.wait (.ofMilliseconds 4004)]
    let started := (Session.new .default (Console.new setup)).handle Console.engine .engineInit
    started.1 = .started (.engine (.ok ())) ∧ Session.FlushesFindRoom started.2.1 ops ∧
      (started.2.1.replay Console.engine (ops.map Server.Op.request)).2.desk.engine.played = 11 ∧
      ((Server.new .exact setup.wordsPerMinute (max 1 setup.queueCapacity)
        (Timer.exact.after 0 setup.initDelay)).replay ops).2.played = 12 := by
  intro setup ops started
  have initialized : started.1 = .started (.engine (.ok ())) :=
    Session.engineInit_ok .default setup (by decide) (by decide)
  have room : Session.FlushesFindRoom started.2.1 ops := by decide +kernel
  exact ⟨initialized, room, by decide +kernel, by decide +kernel⟩

end SpeechQueue
