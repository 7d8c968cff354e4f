import SpeechQueue.Engine.Scripted
import SpeechQueue.Proofs.StartCourse

/-! # The engine is started once

Main statement: `starts_once`. Whatever tasks do to a shared desk, the engine is asked to start at
most once, and the history alone says how that goes: a start is pending from the call that begins it
to the return of that call. Its success makes the controller ready for good, its failure rules that
out for good, and a shutdown puts an end to either. -/

namespace SpeechQueue

variable {σ ω : Type}

/-! ## Answers -/

namespace Shared

variable {engine : Engine σ} {work : ω → σ → σ × List Record} {s : Shared σ}

/-- The answer to a wish to start that begins none. -/
def wishAnswer (c : Controller) : Except QueueError LanguageStatus :=
  match c.phase with
  | .closed => .error .closed
  | .ready => .ok (c.language.getD .ok)
  | .initializing => .error .notReady
  | .uninitialized => .error (.initFailed "initialization already attempted")

/-- A wish to start that begins none is answered at once and changes nothing; it does not even touch
the listener when the controller is ready. -/
theorem step?_beginInit (engine : Engine σ) (work : ω → σ → σ × List Record) (s : Shared σ)
    (stale : s.desk.controller.phase ≠ .uninitialized ∨ s.desk.controller.attempted = true) :
    ∃ effects, s.step? engine work .beginInit =
        some ⟨s, some (.started (wishAnswer s.desk.controller)), effects⟩ ∧
      (s.desk.controller.phase = .ready → effects = []) := by
  simp only [step?, turnOfBegun, Desk.beginInit, wishAnswer]
  cases phase : s.desk.controller.phase with
  | uninitialized =>
    have attempted := stale.resolve_left (fun other => other phase)
    rw [attempted]
    exact ⟨_, rfl, Phase.noConfusion⟩
  | initializing => exact ⟨_, rfl, Phase.noConfusion⟩
  | ready => exact ⟨_, rfl, fun _ => rfl⟩
  | closed => exact ⟨_, rfl, Phase.noConfusion⟩

/-- The end of a start that the engine has answered is possible at any time. -/
theorem step?_finishInit (engine : Engine σ) (work : ω → σ → σ × List Record) {place : Nat}
    {result : Except EngineError Unit} (present : s.starting[place]? = some (.answered result)) :
    ∃ turn, s.step? engine work (.finishInit place) = some turn ∧
      turn.after.desk = (s.desk.finishInit engine result).desk ∧
      turn.answer = some (.started (s.desk.finishInit engine result).result) := by
  simp [step?, present]

end Shared

/-- The move submits an utterance. -/
def Move.isSubmission : Move ω → Bool
  | .submitUser .. => true
  | .submitSystem .. => true
  | .submit .. => true
  | _ => false

/-- A submission that the phase of the controller rules out is refused and changes nothing. -/
theorem Shared.step?_refused {engine : Engine σ} {work : ω → σ → σ × List Record} {s : Shared σ}
    {move : Move ω} {e : QueueError} (submission : move.isSubmission = true)
    (refused : Desk.refusal? s.desk.controller.phase = some e) :
    s.step? engine work move =
      some ⟨s, some (.submitted (.error e)), s.desk.controller.report e⟩ := by
  cases move with
  | submitUser id text mode => simp [step?, turn, Desk.submitUser, refused, Desk.fail]
  | submitSystem id text => simp [step?, turn, Desk.submitSystem, refused, Desk.fail]
  | submit id text source =>
    cases source <;> simp [step?, turn, Desk.submit, Desk.submitUser, refused, Desk.fail]
  | beginInit | answer | finishInit | setListener | shutDown | work => cases submission

/-! ## Once the start has returned -/

variable {engine : Engine σ} {work : ω → σ → σ × List Record} {setup : Controller.Setup}
  {state : σ} {s t : Shared σ} {turn : Turn σ} {history later : List (Entry ω)}

/-- A move after the return of the start leaves its course as it is, unless it is a shutdown. -/
theorem Course.change_of_returned (course : Course setup s history) (returned : HasReturned history)
    {move : Move ω} (possible : s.step? engine work move = some turn) :
    turn.after.desk.controller.language = s.desk.controller.language ∧
      (move ≠ .shutDown → turn.after.desk.controller.phase = s.desk.controller.phase) := by
  have none_awaited {place : Nat} {progress : Progress} :
      s.starting[place]? ≠ some progress := by
    simp [course.not_awaited returned]
  cases Shared.step?_change possible with
  | begun progress first fresh => exact absurd returned (course.not_begun fresh).2.1
  | discarded present => exact absurd present none_awaited
  | failed present => exact absurd present none_awaited
  | succeeded present => exact absurd present none_awaited
  | closed controller =>
    rw [controller]
    exact ⟨rfl, fun other => absurd rfl other⟩
  | kept _ _ _ same => exact ⟨same.language, fun _ => same.phase⟩

/-- Once the start has returned, the language stays, and so does the phase until a shutdown. -/
theorem Run.after_return (run : Run engine work (.new setup state) s history)
    (returned : HasReturned history) (second : Run engine work s t later) :
    t.desk.controller.language = s.desk.controller.language ∧
      (¬ WasShutDown later → t.desk.controller.phase = s.desk.controller.phase) := by
  induction second with
  | nil => exact ⟨rfl, fun _ => rfl⟩
  | snoc second possible ih =>
    have course := Course.of_run (run.append second)
    obtain ⟨language, phase⟩ := course.change_of_returned
      ((hasReturned_append ..).mpr (.inl returned)) possible
    refine ⟨language.trans ih.1, fun stillOpen => ?_⟩
    rw [wasShutDown_snoc, not_or] at stillOpen
    exact (phase stillOpen.2).trans (ih.2 stillOpen.1)

/-- The end of the start was a success, and stays one: the language was chosen this once, and until a
shutdown every other wish to start gets the same answer without touching the engine or the
listener. -/
structure StartSucceeded (engine : Engine σ) (work : ω → σ → σ × List Record)
    (setup : Controller.Setup) (status : LanguageStatus) (history : List (Entry ω))
    (turn : Turn σ) : Prop where
  answer : turn.answer = some (.started (.ok status))
  phase : turn.after.desk.controller.phase = .ready
  calls : ∀ t later, Run engine work turn.after t later →
    setupCalls (history ++ later) = [.start, .setLanguage setup.locale]
  still_ready : ∀ t later, Run engine work turn.after t later → ¬ WasShutDown later →
    t.desk.controller.phase = .ready ∧
      t.step? engine work .beginInit = some ⟨t, some (.started (.ok status)), []⟩

/-- The end of the start was a failure, and stays one: the controller is never ready, and until a
shutdown every other wish to start is told that there was one. -/
structure StartFailed (engine : Engine σ) (work : ω → σ → σ × List Record) (e : EngineError)
    (turn : Turn σ) : Prop where
  answer : turn.answer = some (.started (.error (.ofInit e)))
  kind : ∃ reason, QueueError.ofInit e = .initFailed reason
  phase : turn.after.desk.controller.phase = .uninitialized
  never_ready : ∀ t later, Run engine work turn.after t later →
    t.desk.controller.phase ≠ .ready
  refused : ∀ t later, Run engine work turn.after t later → ¬ WasShutDown later →
    t.desk.controller.phase = .uninitialized ∧
      ∃ effects, t.step? engine work .beginInit = some ⟨t,
        some (.started (.error (.initFailed "initialization already attempted"))), effects⟩

/-- How the start of a shared desk goes, seen from a state that a run has reached. -/
structure StartsOnce (engine : Engine σ) (work : ω → σ → σ × List Record)
    (setup : Controller.Setup) (s : Shared σ) (history : List (Entry ω)) : Prop where
  /-- The engine is asked to start at most once. -/
  asked : (setupCalls history).count .start ≤ 1
  /-- The controller is starting exactly while the call that asked for it goes on. -/
  initializing_iff :
    s.desk.controller.phase = .initializing ↔ IsPending history ∧ ¬ WasShutDown history
  succeeds : ∀ place, s.starting[place]? = some (.answered (.ok ())) → ¬ WasShutDown history →
    ∃ turn, s.step? engine work (.finishInit place) = some turn ∧
      StartSucceeded engine work setup (engine.setLanguage setup.locale s.desk.engine).1
        (history ++ [⟨s.desk.controller, .finishInit place, turn.answer, turn.effects⟩]) turn
  fails : ∀ place e, s.starting[place]? = some (.answered (.error e)) → ¬ WasShutDown history →
    ∃ turn, s.step? engine work (.finishInit place) = some turn ∧
      StartFailed engine work e turn
  /-- Calls that come while the start is pending find the controller not ready. -/
  waits : IsPending history → ¬ WasShutDown history →
    (∃ effects, s.step? engine work .beginInit =
      some ⟨s, some (.started (.error .notReady)), effects⟩) ∧
    ∀ move : Move ω, move.isSubmission = true → ∃ effects, s.step? engine work move =
      some ⟨s, some (.submitted (.error .notReady)), effects⟩
  /-- After a shutdown the controller stays closed, and every wish to start is told so, a pending one
  included. -/
  closes : WasShutDown history → s.desk.controller.phase = .closed ∧
    (∃ effects, s.step? engine work .beginInit =
      some ⟨s, some (.started (.error .closed)), effects⟩) ∧
    ∀ place result, s.starting[place]? = some (.answered result) →
      ∃ turn, s.step? engine work (.finishInit place) = some turn ∧
        turn.answer = some (.started (.error .closed))

/-- A start that succeeds has succeeded for good. -/
theorem startSucceeded (run : Run engine work (.new setup state) s history) {place : Nat}
    (present : s.starting[place]? = some (.answered (.ok ()))) (stillOpen : ¬ WasShutDown history) :
    ∃ turn, s.step? engine work (.finishInit place) = some turn ∧
      StartSucceeded engine work setup (engine.setLanguage setup.locale s.desk.engine).1
        (history ++ [⟨s.desk.controller, .finishInit place, turn.answer, turn.effects⟩]) turn := by
  have course := Course.of_run run
  have goesOn : s.desk.controller.phase ≠ .closed := fun closed =>
    stillOpen (course.closed_iff.mp closed)
  obtain ⟨turn, possible, desk, answer⟩ := Shared.step?_finishInit engine work present
  have controller := s.desk.finishInit_controller engine (.ok ())
  rw [Desk.finished.eq_def, if_neg goesOn, ← desk] at controller
  have returned := run.snoc possible
  have ended := (hasReturned_snoc history
    ⟨s.desk.controller, .finishInit place, turn.answer, turn.effects⟩).mpr (.inr ⟨place, rfl⟩)
  refine ⟨turn, possible, ?_, ?_, ?_, ?_⟩
  · simp [answer, Desk.finishInit, goesOn, course.setup_eq]
  · rw [controller]
  · intro t later second
    have last := Course.of_run (returned.append second)
    have attempted := last.attempted_iff.mpr (last.begun ((hasReturned_append ..).mpr (.inl ended)))
    obtain ⟨language, -⟩ := returned.after_return ended second
    rw [last.calls, attempted, language, controller]
    rfl
  · intro t later second notShut
    obtain ⟨language, phase⟩ := returned.after_return ended second
    rw [controller] at language phase
    have ready := phase notShut
    obtain ⟨effects, answered, none⟩ := Shared.step?_beginInit engine work t
      (.inl (by simp [ready]))
    rw [answered, none ready, Shared.wishAnswer, ready, language, course.setup_eq]
    exact ⟨rfl, rfl⟩

/-- A start that fails has failed for good. -/
theorem startFailed (run : Run engine work (.new setup state) s history) {place : Nat}
    {e : EngineError} (present : s.starting[place]? = some (.answered (.error e)))
    (stillOpen : ¬ WasShutDown history) :
    ∃ turn, s.step? engine work (.finishInit place) = some turn ∧
      StartFailed engine work e turn := by
  have course := Course.of_run run
  have goesOn : s.desk.controller.phase ≠ .closed := fun closed =>
    stillOpen (course.closed_iff.mp closed)
  obtain ⟨turn, possible, desk, answer⟩ := Shared.step?_finishInit engine work present
  have controller := s.desk.finishInit_controller engine (.error e)
  rw [Desk.finished.eq_def, if_neg goesOn, ← desk] at controller
  have returned := run.snoc possible
  have ended := (hasReturned_snoc history
    ⟨s.desk.controller, .finishInit place, turn.answer, turn.effects⟩).mpr (.inr ⟨place, rfl⟩)
  have failed {t : Shared σ} {later : List (Entry ω)} (second : Run engine work turn.after t later)
      (notShut : ¬ WasShutDown later) : t.desk.controller.phase = .uninitialized := by
    rw [(returned.after_return ended second).2 notShut, controller]
  refine ⟨turn, possible, ?_, ?_, ?_, ?_, ?_⟩
  · simp [answer, Desk.finishInit, goesOn]
  · cases e <;> exact ⟨_, rfl⟩
  · rw [controller]
  · intro t later second ready
    by_cases shut : WasShutDown later
    · have last := Course.of_run (returned.append second)
      rw [last.closed_iff.mpr ((wasShutDown_append ..).mpr (.inr shut))] at ready
      cases ready
    · rw [failed second shut] at ready
      cases ready
  · intro t later second notShut
    have last := Course.of_run (returned.append second)
    have attempted := last.attempted_iff.mpr (last.begun ((hasReturned_append ..).mpr (.inl ended)))
    obtain ⟨effects, answered, -⟩ := Shared.step?_beginInit engine work t
      (.inr attempted)
    refine ⟨failed second notShut, effects, ?_⟩
    rw [answered, Shared.wishAnswer, failed second notShut]

/-- Whatever tasks do, the engine is started at most once, and all of them see the one outcome. -/
theorem starts_once (run : Run engine work (.new setup state) s history) :
    StartsOnce engine work setup s history where
  asked := by
    rw [(Course.of_run run).calls]
    cases s.desk.controller.attempted <;> cases s.desk.controller.language <;> simp
  initializing_iff := (Course.of_run run).initializing_iff
  succeeds _ := startSucceeded run
  fails _ _ := startFailed run
  waits pending stillOpen := by
    have phase := (Course.of_run run).initializing_iff.mpr ⟨pending, stillOpen⟩
    constructor
    · obtain ⟨effects, answered, -⟩ := Shared.step?_beginInit engine work s
        (.inl (by simp [phase]))
      exact ⟨effects, by rw [answered, Shared.wishAnswer, phase]⟩
    · intro move submission
      exact ⟨_, Shared.step?_refused submission (by rw [phase]; rfl)⟩
  closes shut := by
    have phase := (Course.of_run run).closed_iff.mpr shut
    refine ⟨phase, ?_, ?_⟩
    · obtain ⟨effects, answered, -⟩ := Shared.step?_beginInit engine work s
        (.inl (by simp [phase]))
      exact ⟨effects, by rw [answered, Shared.wishAnswer, phase]⟩
    · intro place result present
      obtain ⟨turn, possible, -, answer⟩ := Shared.step?_finishInit engine work present
      exact ⟨turn, possible, by simp [answer, Desk.finishInit, phase]⟩

/-- A start that is pending while a second wish to start comes in between. -/
theorem starts_once_of_overlap :
    ∃ s history, Run Scripted.engine (fun (_ : Unit) engine => (engine, []))
        (.new .default ⟨none, none, .notSupported⟩) s history ∧
      s.starting[0]? = some (.answered (.ok ())) ∧ ¬ WasShutDown history ∧
      StartsOnce Scripted.engine (fun (_ : Unit) engine => (engine, [])) .default s history := by
  let start : Shared Scripted := .new .default ⟨none, none, .notSupported⟩
  have first : Run Scripted.engine (fun (_ : Unit) engine => (engine, [])) start _ _ :=
    .snoc .nil (show start.step? _ _ .beginInit = some _ from rfl)
  have second := first.snoc (show Shared.step? _ _ _ .beginInit = some _ from rfl)
  exact ⟨_, _, second, rfl, by simp [WasShutDown], starts_once second⟩

end SpeechQueue
