import SpeechQueue.Proofs.Conservation
import SpeechQueue.Proofs.StartCourse

/-! # A desk with the console engine

What the moves of a shared desk are for the engine. Only a controller that is ready speaks, only one
that is not closed shuts the engine down, and the engine gets a player when it answers a start. All
else that happens with it is the work of its players. -/

namespace SpeechQueue

open Playback

variable {ω : Type}

/-- The engine answers a start. -/
def Move.isAnswer : Move ω → Bool
  | .answer _ => true
  | _ => false

/-- The engine's own work consists of what its players do, in portions of any size. -/
def Plays (work : ω → Console → Console × List Record) : Prop :=
  ∀ label c, ∃ events : List Event, Console.Run c (work label c).1 (events.map .happened)

theorem plays_settle : Plays Console.engine.settle := by
  intro now c
  have here : Console.Run c c [] := .nil
  have run := here.play now
  rw [List.nil_append] at run
  exact ⟨_, run⟩

namespace Console

/-- Calls of the engine and steps of its players, without a start, lead from one state to another. -/
def Reaches (c d : Console) : Prop := ∃ notes, Run c d notes ∧ .installed ∉ notes

theorem reaches_speak (c : Console) (speech : Speech) : c.Reaches (c.speak speech).2.1 := by
  refine ⟨_, Run.nil.snoc (.speak c speech), ?_⟩
  rw [List.nil_append]
  exact List.count_eq_zero.mp (count_installed_notesOfSpeak speech c)

theorem reaches_speakDialled (c : Console) (rate pitch : Single) (speech : Speech) :
    c.Reaches ({ c with rate := rate, pitch := pitch }.speak speech).2.1 := by
  have here : Run c c [] := .nil
  have dialled := (here.snoc (.setRate c rate)).snoc (.setPitch _ pitch)
  refine ⟨_, dialled.snoc (.speak _ speech), ?_⟩
  rw [List.append_nil, List.append_nil, List.nil_append]
  exact List.count_eq_zero.mp (count_installed_notesOfSpeak speech _)

theorem start_state (c : Console) : c.start.2.1 = c := by
  unfold start
  split
  · rfl
  · split <;> rfl

/-- The end of a start installs a player, unless the engine breaks down over its capacity. -/
theorem finishStart_cases (c : Console) :
    maxCapacity < c.capacity ∧ c.finishStart = (none, c, []) ∨
    c.capacity ≤ maxCapacity ∧ c.finishStart.1 = some (.ok ()) := by
  unfold finishStart
  split
  · next large => exact .inl ⟨large, rfl⟩
  · next small => exact .inr ⟨Nat.le_of_not_lt small, rfl⟩

end Console

namespace Desk

variable (d : Desk Console)

theorem speakWithParameters_console (id : UtteranceId) (text : String) (mode : Mode) :
    d.engine.Reaches (d.speakWithParameters Console.engine id text mode).desk.engine := by
  have reaches := d.engine.reaches_speakDialled d.controller.parameters.rate
    d.controller.parameters.pitch
    ⟨text, mode, some ((Attributes.empty.withVolume d.controller.parameters.volume).withId id)⟩
  unfold speakWithParameters
  dsimp only
  split <;> exact reaches

/-- A controller that is not ready leaves the engine alone. -/
theorem submitUser_console (id : UtteranceId) (text : String) (mode : Mode) :
    let submitted := (d.submitUser Console.engine id text mode).desk
    submitted.engine = d.engine ∨ d.controller.phase = .ready ∧ d.engine.Reaches submitted.engine := by
  unfold submitUser
  split
  · exact .inl rfl
  · next ready =>
    refine .inr ⟨(refusal?_eq_none_iff _).mp ready, ?_⟩
    exact speakWithParameters_console ⟨directedBy text d.controller, d.engine⟩ id text mode

theorem submitSystem_console (id : UtteranceId) (text : String) :
    let submitted := (d.submitSystem Console.engine id text).desk
    submitted.engine = d.engine ∨ d.controller.phase = .ready ∧ d.engine.Reaches submitted.engine := by
  unfold submitSystem
  split
  · exact .inl rfl
  · next ready =>
    refine .inr ⟨(refusal?_eq_none_iff _).mp ready, ?_⟩
    have reaches := d.engine.reaches_speak ⟨text, .flush, none⟩
    dsimp only
    split <;> exact reaches

theorem submit_console (id : UtteranceId) (text : String) (source : Source) :
    let submitted := (d.submit Console.engine id text source).desk
    submitted.engine = d.engine ∨ d.controller.phase = .ready ∧ d.engine.Reaches submitted.engine := by
  cases source with
  | user => exact submitUser_console d id text .add
  | system =>
    unfold submit
    dsimp only
    split
    · exact .inl rfl
    · next ready =>
      exact .inr ⟨(refusal?_eq_none_iff _).mp ready, speakWithParameters_console d id text .add⟩

theorem beginInit_console : (d.beginInit Console.engine).desk.engine = d.engine := by
  have same : (Console.engine.start d.engine).2.1 = d.engine := d.engine.start_state
  unfold beginInit
  cases phase : d.controller.phase with
  | uninitialized => cases attempted : d.controller.attempted <;> simp [phase, attempted, same]
  | initializing | ready | closed => simp [phase]

theorem finishInit_console (result : Except EngineError Unit) :
    (d.finishInit Console.engine result).desk.engine = d.engine := by
  unfold finishInit
  by_cases closed : d.controller.phase = .closed
  · rw [if_pos closed]
  · rw [if_neg closed]
    cases result <;> rfl

end Desk

namespace Shared

/-- What a move is for the engine. -/
inductive EngineUse (s : Shared Console) : Move ω → Turn Console → Prop
  | untouched {move : Move ω} {turn : Turn Console} : move.isAnswer = false →
      (move = .shutDown → s.desk.controller.phase = .closed) →
      turn.after.desk.engine = s.desk.engine → EngineUse s move turn
  | spoke {move : Move ω} {turn : Turn Console} : move.isAnswer = false →
      move ≠ .shutDown → s.desk.controller.phase = .ready →
      s.desk.engine.Reaches turn.after.desk.engine → EngineUse s move turn
  | played {label : ω} {turn : Turn Console} (events : List Event) :
      Console.Run s.desk.engine turn.after.desk.engine (events.map .happened) →
      EngineUse s (.work label) turn
  | shut {turn : Turn Console} : s.desk.controller.phase ≠ .closed →
      turn.after.desk.engine = s.desk.engine.shutDown.1 → EngineUse s .shutDown turn
  | answered {place : Nat} {turn : Turn Console} : s.starting[place]? = some .awaited →
      turn.after.desk.engine = s.desk.engine.finishStart.2.1 →
      turn.after.desk.controller = s.desk.controller →
      turn.after.starting = answeredAt place s.desk.engine.finishStart.1 s.starting →
      EngineUse s (.answer place) turn

variable {work : ω → Console → Console × List Record} {s : Shared Console} {turn : Turn Console}

theorem EngineUse.of_submission {move : Move ω} (noAnswer : move.isAnswer = false)
    (noShutDown : move ≠ .shutDown) (submitted : turn.after.desk.engine = s.desk.engine ∨ s.desk.controller.phase = .ready ∧
      s.desk.engine.Reaches turn.after.desk.engine) : EngineUse s move turn := by
  rcases submitted with same | ⟨ready, reaches⟩
  · exact .untouched noAnswer (fun shutDown => absurd shutDown noShutDown) same
  · exact .spoke noAnswer noShutDown ready reaches

/-- Every move that is possible is one of these for the engine. -/
theorem step?_engineUse (plays : Plays work) {move : Move ω}
    (possible : s.step? Console.engine work move = some turn) : EngineUse s move turn := by
  cases move with
  | beginInit =>
    cases possible
    refine .untouched rfl (by simp) ?_
    have same := s.desk.beginInit_console
    unfold turnOfBegun
    split <;> exact same
  | answer place =>
    simp only [step?] at possible
    split at possible
    · next awaited =>
      cases possible
      exact .answered awaited rfl rfl rfl
    · cases possible
  | finishInit place =>
    simp only [step?] at possible
    split at possible
    · next result _ =>
      cases possible
      exact .untouched rfl (by simp) (s.desk.finishInit_console result)
    · cases possible
  | submitUser id text mode =>
    cases possible
    exact .of_submission rfl (by simp) (s.desk.submitUser_console id text mode)
  | submitSystem id text =>
    cases possible
    exact .of_submission rfl (by simp) (s.desk.submitSystem_console id text)
  | submit id text source =>
    cases possible
    exact .of_submission rfl (by simp) (s.desk.submit_console id text source)
  | setListener listener =>
    cases possible
    exact .untouched rfl (by simp) rfl
  | shutDown =>
    cases possible
    by_cases closed : s.desk.controller.phase = .closed
    · refine .untouched rfl (fun _ => closed) ?_
      simp [turn, Desk.shutDown, closed]
    · refine .shut closed ?_
      simp [turn, Desk.shutDown, closed, Console.engine]
  | work label =>
    cases possible
    obtain ⟨events, run⟩ := plays label s.desk.engine
    exact .played events run

/-- Whatever a move is for the engine is part of a run of it. -/
theorem EngineUse.run {move : Move ω} (use : EngineUse s move turn) :
    ∃ notes, Console.Run s.desk.engine turn.after.desk.engine notes := by
  cases use with
  | untouched _ _ same => exact ⟨[], same ▸ .nil⟩
  | spoke _ _ _ reaches => exact ⟨reaches.choose, reaches.choose_spec.1⟩
  | played events run => exact ⟨_, run⟩
  | shut _ same => exact ⟨_, same ▸ Console.Run.nil.snoc (.shutDown _)⟩
  | answered _ same =>
    rcases s.desk.engine.finishStart_cases with ⟨-, broken⟩ | ⟨-, done⟩
    · rw [broken] at same
      exact ⟨[], same ▸ .nil⟩
    · exact ⟨_, same ▸ Console.Run.nil.snoc (.finishStart done)⟩

end Shared

/-- Behind every run of a desk there is a run of its engine. -/
theorem Run.console {work : ω → Console → Console × List Record} {controller : Controller.Setup}
    {setup : Console.Setup} {s : Shared Console} {history : List (Entry ω)} (plays : Plays work)
    (run : Run Console.engine work (.new controller (.new setup)) s history) :
    ∃ notes, Console.Run (.new setup) s.desk.engine notes := by
  induction run with
  | nil => exact ⟨[], .nil⟩
  | snoc _ possible ih =>
    obtain ⟨notes, earlier⟩ := ih
    obtain ⟨more, later⟩ := (Shared.step?_engineUse plays possible).run
    exact ⟨_, earlier.append later⟩

end SpeechQueue
