import SpeechQueue.Proofs.AwaitedStarts
import SpeechQueue.Proofs.Gate

/-! # Between two requests

Whatever a session over the console engine is asked, it comes to rest again: `Session.Rests.replay`.
So a controller that is ready has an engine that is where some plain server is, with one player and
nothing to wait for, be it that a start was repeated, a flush refused or the engine shut down. -/

namespace SpeechQueue

open Playback

/-! ## What no operation of an engine ends -/

variable {σ : Type}

/-- What holds of an engine's state whatever the engine is asked and does. -/
structure Engine.Keeps (engine : Engine σ) (holds : σ → Prop) : Prop where
  start : ∀ s, holds s → holds (engine.start s).2.1
  finishStart : ∀ s, holds s → holds (engine.finishStart s).2.1
  setLanguage : ∀ locale s, holds s → holds (engine.setLanguage locale s).2
  setRate : ∀ rate s, holds s → holds (engine.setRate rate s)
  setPitch : ∀ pitch s, holds s → holds (engine.setPitch pitch s)
  speak : ∀ speech s, holds s → holds (engine.speak speech s).2.1
  shutDown : ∀ s, holds s → holds (engine.shutDown s).1
  settle : ∀ now s, holds s → holds (engine.settle now s).1

namespace Engine.Keeps

variable {engine : Engine σ} {holds : σ → Prop}

/-- The engine with only the states in which this holds. -/
def restricted (keeps : engine.Keeps holds) : Engine { s // holds s } where
  start s := ((engine.start s).1, ⟨_, keeps.start _ s.2⟩, (engine.start s).2.2)
  finishStart s := ((engine.finishStart s).1, ⟨_, keeps.finishStart _ s.2⟩, (engine.finishStart s).2.2)
  setLanguage locale s := ((engine.setLanguage locale s).1, ⟨_, keeps.setLanguage locale _ s.2⟩)
  setRate rate s := ⟨_, keeps.setRate rate _ s.2⟩
  setPitch pitch s := ⟨_, keeps.setPitch pitch _ s.2⟩
  speak speech s :=
    ((engine.speak speech s).1, ⟨_, keeps.speak speech _ s.2⟩, (engine.speak speech s).2.2)
  shutDown s := (⟨_, keeps.shutDown _ s.2⟩, (engine.shutDown s).2)
  due s := engine.due s
  backlog s := engine.backlog s
  settle now s := (⟨_, keeps.settle now _ s.2⟩, (engine.settle now s).2)

theorem projects (keeps : engine.Keeps holds) : keeps.restricted.Projects engine Subtype.val where
  start _ := rfl
  finishStart _ := rfl
  setLanguage _ _ := rfl
  setRate _ _ := rfl
  setPitch _ _ := rfl
  speak _ _ := rfl
  shutDown _ := rfl
  due _ := rfl
  backlog _ := rfl
  settle _ _ := rfl

/-- What no operation ends, no requests end. -/
theorem replay (keeps : engine.Keeps holds) {s : Session σ} (initially : holds s.desk.engine)
    (requests : List Session.Request) : holds (s.replay engine requests).2.desk.engine := by
  let restricted : Session { s // holds s } :=
    { s with desk := ⟨s.desk.controller, ⟨s.desk.engine, initially⟩⟩ }
  have same := Session.replay_project keeps.projects requests restricted
  have start : restricted.project Subtype.val = s := rfl
  rw [start] at same
  rw [same]
  exact (restricted.replay keeps.restricted requests).2.desk.engine.2

end Engine.Keeps

/-- An engine is set up once. -/
theorem Traced.keeps_setup (setup : Console.Setup) :
    Traced.engine.Keeps fun t => t.console.setup = setup where
  start t same := by
    simp only [engine, Console.engine, Console.start]
    split
    · exact same
    · split <;> exact same
  finishStart t same := by
    simp only [engine, Console.engine, Console.finishStart]
    split <;> exact same
  setLanguage _ _ same := same
  setRate _ _ same := same
  setPitch _ _ same := same
  speak speech t same := by
    change (t.console.speak speech).2.1.setup = setup
    unfold Console.speak
    split
    · exact same
    · cases speech.mode <;> dsimp only <;> split <;> exact same
  shutDown _ same := same
  settle _ _ same := same

namespace Desk

variable {engine : Engine σ} {d : Desk σ} {id : UtteranceId} {text : String}

/-! A submission that comes before the controller is ready, or too late, changes nothing. -/

theorem submitUser_refused (early : d.controller.phase ≠ .ready) {mode : Mode} :
    (d.submitUser engine id text mode).desk = d := by
  obtain ⟨e, refused⟩ := exists_refusal early
  simp only [submitUser, refused, fail]

theorem submitSystem_refused (early : d.controller.phase ≠ .ready) :
    (d.submitSystem engine id text).desk = d := by
  obtain ⟨e, refused⟩ := exists_refusal early
  simp only [submitSystem, refused, fail]

theorem submit_refused (early : d.controller.phase ≠ .ready) {source : Source} :
    (d.submit engine id text source).desk = d := by
  obtain ⟨e, refused⟩ := exists_refusal early
  cases source with
  | user => exact submitUser_refused early
  | system => simp only [submit, refused, fail]

end Desk

namespace Session

variable {s : Session Traced}

/-! ## Speaking and shutting down -/

/-- What a call does to a desk at rest: the engine settles where a server is, and an engine without
a player is none the wiser while a start is awaited. -/
structure Calls (d e : Desk Traced) : Prop where
  recovers : ∀ server, d.engine.Represents server → server.Settled → e.engine.Recovers server.now
  vacant : d.engine.Vacant → IsBegun d.controller → e.engine.Vacant ∧
    e.engine.console.setup = d.engine.console.setup ∧ IsBegun e.controller

namespace Calls

variable {d e : Desk Traced}

/-- Nothing was called. -/
theorem refl (d : Desk Traced) : Calls d d where
  recovers _ represents settled := (represents.stands settled).recovers
  vacant vacant begun := ⟨vacant, rfl, begun⟩

theorem setRate (c : Controller) (t : Traced) (rate : Single) :
    Calls ⟨c, t⟩ ⟨c, Traced.engine.setRate rate t⟩ where
  recovers _ represents settled := ((represents.stands settled).setRate rate).recovers
  vacant vacant begun := ⟨vacant.setRate rate, rfl, begun⟩

theorem setPitch (c : Controller) (t : Traced) (pitch : Single) :
    Calls ⟨c, t⟩ ⟨c, Traced.engine.setPitch pitch t⟩ where
  recovers _ represents settled := ((represents.stands settled).setPitch pitch).recovers
  vacant vacant begun := ⟨vacant.setPitch pitch, rfl, begun⟩

theorem speak (c : Controller) (t : Traced) (speech : Speech) :
    Calls ⟨c, t⟩ ⟨c, (Traced.engine.speak speech t).2.1⟩ where
  recovers _ represents settled := represents.recovers_speak settled speech
  vacant vacant begun := by
    rw [vacant.speak]
    exact ⟨vacant, rfl, begun⟩

theorem shutDown (c c' : Controller) (t : Traced) (begun : IsBegun c → IsBegun c') :
    Calls ⟨c, t⟩ ⟨c', (Traced.engine.shutDown t).1⟩ where
  recovers _ represents settled := represents.recovers_shutDown settled
  vacant vacant isBegun := ⟨vacant.shutDown, rfl, begun isBegun⟩

/-- A controller that is ready waits for nothing. -/
theorem of_ready (ready : d.controller.phase = .ready)
    (recovers : ∀ server, d.engine.Represents server → server.Settled →
      e.engine.Recovers server.now) : Calls d e where
  recovers := recovers
  vacant _ begun := by
    rw [IsBegun, ready] at begun
    rcases begun with begun | begun <;> cases begun

/-- An utterance is offered to the engine, after the rate and the pitch it may come with. -/
theorem offer (ready : d.controller.phase = .ready) (p : Parameters) (submission : Submission)
    (engine : e.engine = (submission.offer Traced.engine p d.engine).2) : Calls d e := by
  refine of_ready ready fun server represents settled => ?_
  rw [engine, Submission.offer]
  cases submission.carries with
  | false => exact represents.recovers_speak settled _
  | true =>
    have dialled := (represents.setRate p.rate).setPitch p.pitch
    exact dialled.recovers_speak ⟨settled.free, settled.lasting⟩ _

/-- What the user said is refused or offered. -/
theorem submitUser (d : Desk Traced) (id : UtteranceId) (text : String) (mode : Mode) :
    Calls d (d.submitUser Traced.engine id text mode).desk := by
  by_cases ready : d.controller.phase = .ready
  · rw [(Desk.submitUser_offer Traced.engine d id text mode ready).2]
    exact offer ready _ _ rfl
  · rw [Desk.submitUser_refused ready]
    exact refl d

theorem submitSystem (d : Desk Traced) (id : UtteranceId) (text : String) :
    Calls d (d.submitSystem Traced.engine id text).desk := by
  by_cases ready : d.controller.phase = .ready
  · rw [(Desk.submitSystem_offer Traced.engine d id text ready).2]
    exact offer ready _ _ rfl
  · rw [Desk.submitSystem_refused ready]
    exact refl d

theorem submit (d : Desk Traced) (id : UtteranceId) (text : String) (source : Source) :
    Calls d (d.submit Traced.engine id text source).desk := by
  by_cases ready : d.controller.phase = .ready
  · rw [(Desk.submit_offer Unit Traced.engine d id text source ready).2]
    exact offer ready _ _ rfl
  · rw [Desk.submit_refused ready]
    exact refl d

theorem controllerShutDown (d : Desk Traced) : Calls d (d.shutDown Traced.engine).desk := by
  rw [Desk.shutDown]
  split
  · exact refl d
  · exact shutDown _ _ _ fun _ => .inr rfl

end Calls

/-- Adding what the user said leaves an engine that stands where a server is there. -/
theorem submitUser_stands {now : Nat} (stands : s.desk.engine.Stands now) (text : String) :
    (s.submitUser Traced.engine text .add).2.1.desk.engine.Stands now := by
  change (s.desk.submitUser Traced.engine _ text .add).desk.engine.Stands now
  by_cases ready : s.desk.controller.phase = .ready
  · rw [(Desk.submitUser_offer Traced.engine s.desk _ text .add ready).2]
    exact ((stands.setRate _).setPitch _).add text _
  · rw [Desk.submitUser_refused ready]
    exact stands

theorem submitAll_stands {now : Nat} (texts : List String) (stands : s.desk.engine.Stands now) :
    (s.submitAll Traced.engine texts).2.1.desk.engine.Stands now := by
  induction texts generalizing s with
  | nil => exact stands
  | cons text rest ih => exact ih (submitUser_stands stands text)

theorem submitAll_refused (texts : List String) (early : s.desk.controller.phase ≠ .ready) :
    (s.submitAll Traced.engine texts).2.1.desk = s.desk := by
  induction texts generalizing s with
  | nil => rfl
  | cons text rest ih =>
    have same : (s.submitUser Traced.engine text .add).2.1.desk = s.desk :=
      Desk.submitUser_refused early
    have still : (s.submitUser Traced.engine text .add).2.1.desk.controller.phase ≠ .ready := by
      rw [same]
      exact early
    exact (ih still).trans same

/-- Submitting changes nothing but the desk and the supply of identifiers. -/
theorem submitAll_rest (texts : List String) (s : Session Traced) :
    (s.submitAll Traced.engine texts).2.1.pending = s.pending ∧
      (s.submitAll Traced.engine texts).2.1.now = s.now ∧
      (s.submitAll Traced.engine texts).2.1.tickets = s.tickets := by
  induction texts generalizing s with
  | nil => exact ⟨rfl, rfl, rfl⟩
  | cons text rest ih => exact ih (s.submitUser Traced.engine text .add).2.1

theorem Calls.submitAll (texts : List String) (s : Session Traced) :
    Calls s.desk (s.submitAll Traced.engine texts).2.1.desk := by
  by_cases ready : s.desk.controller.phase = .ready
  · refine of_ready ready fun server represents settled => ?_
    exact (submitAll_stands texts (represents.stands settled)).recovers
  · rw [submitAll_refused texts ready]
    exact refl _

/-! ## Requests -/

/-- A session at rest, but for a call of its engine that has yet to take effect. -/
inductive Stirs (s : Session Traced) : Prop
  | free : s.pending = [] → s.desk.engine.Recovers s.now → Stirs s
  | awaiting : s.Rests → Stirs s

/-- A call leaves a session that is at rest again as soon as it settles. -/
theorem Rests.stirs {t : Session Traced} (rests : s.Rests) (calls : Calls s.desk t.desk)
    (pending : t.pending = s.pending) (now : t.now = s.now) (tickets : t.tickets = s.tickets) :
    t.Stirs := by
  cases rests with
  | free server refines =>
    refine .free (pending.trans refines.pending) ?_
    rw [now, refines.now]
    exact calls.recovers server refines.represents refines.settled
  | awaiting p awaited starter begun fresh soon vacant =>
    obtain ⟨still, setup, isBegun⟩ := calls.vacant vacant begun
    refine .awaiting (.awaiting p (pending.trans awaited) starter isBegun (tickets ▸ fresh) ?_ still)
    rw [now, setup]
    exact soon

theorem Stirs.settles (stirs : s.Stirs) : (s.advanceTo Traced.engine s.now).1.Rests := by
  cases stirs with
  | free pending recovers =>
    obtain ⟨server, settles, now, settled⟩ := recovers
    exact .free server (settled_refines pending now.symm settles settled)
  | awaiting rests => exact rests.advanceTo (Nat.le_refl _)

/-- Whatever is asked for is asked for of a session at rest. -/
theorem Rests.perform (rests : s.Rests) (request : Request) :
    (s.perform Traced.engine request).2.1.Stirs := by
  cases request with
  | init => exact .awaiting (rests.startAndWait .controller)
  | engineInit => exact .awaiting (rests.startAndWait .engine)
  | spawnInit =>
    have begun := rests.begin_controller (begin_begins .controller s)
    exact .awaiting (begun.of_same rfl rfl rfl (Nat.le_refl _) id)
  | joinInit =>
    cases unjoined : s.unjoined with
    | nil =>
      simp only [Session.perform, unjoined]
      exact .awaiting rests
    | cons ticket rest =>
      simp only [Session.perform, unjoined]
      have joined : Rests { s with unjoined := rest } := rests.of_same rfl rfl rfl (Nat.le_refl _) id
      exact .awaiting (joined.waitFor ticket)
  | advance span => exact .awaiting (rests.advanceTo (Nat.le_add_right _ _))
  | submitUser text mode => exact rests.stirs (.submitUser s.desk _ text mode) rfl rfl rfl
  | submitSystem text => exact rests.stirs (.submitSystem s.desk _ text) rfl rfl rfl
  | submit text source => exact rests.stirs (.submit s.desk _ text source) rfl rfl rfl
  | submitAll texts =>
    obtain ⟨pending, now, tickets⟩ := submitAll_rest texts s
    exact rests.stirs (.submitAll texts s) pending now tickets
  | shutDown => exact rests.stirs (.controllerShutDown s.desk) rfl rfl rfl
  | isReady => exact .awaiting rests
  | engineSpeak speech => exact rests.stirs (.speak s.desk.controller s.desk.engine speech) rfl rfl rfl
  | engineSetLanguage locale => exact .awaiting rests
  | engineSetRate rate => exact rests.stirs (.setRate s.desk.controller s.desk.engine rate) rfl rfl rfl
  | engineSetPitch pitch =>
    exact rests.stirs (.setPitch s.desk.controller s.desk.engine pitch) rfl rfl rfl
  | engineShutDown => exact rests.stirs (.shutDown _ _ s.desk.engine id) rfl rfl rfl

/-- Whatever a session at rest is asked, it comes to rest again. -/
theorem Rests.handle (rests : s.Rests) (request : Request) :
    (s.handle Traced.engine request).2.1.Rests := (rests.perform request).settles

theorem Rests.replay (rests : s.Rests) (requests : List Request) :
    (s.replay Traced.engine requests).2.Rests := by
  induction requests generalizing s with
  | nil => exact rests
  | cons request requests ih => exact ih (rests.handle request)

/-- A session in which nothing has happened yet is at rest. -/
theorem rests_new (controller : Controller.Setup) (setup : Console.Setup) :
    (new controller (Traced.new setup)).Rests := by
  have represents : (Traced.new setup).Represents
      { Server.new .milliseconds setup.wordsPerMinute (max 1 setup.queueCapacity) 0 with
        accepting := false } := by
    refine ⟨⟨rfl, rfl, rfl, ?_, ?_, rfl, rfl⟩, rfl, fun _ => ⟨rfl, rfl, rfl⟩, nofun⟩
    · simp only [Traced.new, Console.new, Server.new]
    · simp only [Traced.new, Console.new, Server.new]
  exact .free _ ⟨rfl, rfl, represents, .idle rfl rfl⟩

/-- A controller that is ready has an engine that is where some server is, and waits for nothing. -/
theorem Rests.of_ready (rests : s.Rests) (ready : s.desk.controller.phase = .ready) :
    ∃ server, s.Refines server := by
  cases rests with
  | free server refines => exact ⟨server, refines⟩
  | awaiting p pending starter begun =>
    rw [IsBegun, ready] at begun
    rcases begun with begun | begun <;> cases begun

end Session

end SpeechQueue
