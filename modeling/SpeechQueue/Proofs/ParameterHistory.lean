import SpeechQueue.Engine.Scripted
import SpeechQueue.Proofs.SharedDesk

/-! # The parameters follow from the history

Main statement: `parameters_eq_resolvedFrom`. Whatever tasks do to a shared desk, its parameters are
those that the texts of the user lead to, one resolved after another, beginning with the defaults.
A text counts when it finds the controller ready, whether or not the engine then accepts it. The end
of a start sets the volume again, but at that time nothing can have changed it yet. -/

namespace SpeechQueue

variable {σ ω : Type}

/-- The text that a move searches for directives. -/
def Move.userText? : Move ω → Option String
  | .submitUser _ text _ => some text
  | .submit _ text .user => some text
  | _ => none

/-- The move submits an utterance that is spoken with the parameters of the controller. -/
def Move.carriesParameters : Move ω → Bool
  | .submitUser .. => true
  | .submit .. => true
  | _ => false

/-- The user's text of a move that found the controller ready. -/
def Entry.heard? (entry : Entry ω) : Option String :=
  if entry.found.phase = .ready then entry.move.userText? else none

/-- The texts of the user that found the controller ready, in the order of the lock. -/
def heardTexts (history : List (Entry ω)) : List String :=
  history.filterMap Entry.heard?

/-- The parameters after texts, each resolved from what the ones before it led to. -/
def resolvedFrom (current : Parameters) (texts : List String) : Parameters :=
  texts.foldl (fun parameters text => resolveParameters text parameters) current

@[simp] theorem resolvedFrom_append (current : Parameters) (first second : List String) :
    resolvedFrom current (first ++ second) = resolvedFrom (resolvedFrom current first) second :=
  List.foldl_append

@[simp] theorem heardTexts_append (first second : List (Entry ω)) :
    heardTexts (first ++ second) = heardTexts first ++ heardTexts second :=
  List.filterMap_append

/-- A move without a text of the user leads nowhere. -/
theorem resolvedFrom_silent (current : Parameters) {entry : Entry ω}
    (silent : entry.move.userText? = none) :
    resolvedFrom current entry.heard?.toList = current := by
  simp [Entry.heard?, silent, resolvedFrom]

/-- A text of the user leads where it directs a controller that hears it. -/
theorem resolvedFrom_spoken {c : Controller} {move : Move ω} {answer : Option Answer}
    {effects : List Effect} {text : String} (spoken : move.userText? = some text) :
    resolvedFrom c.parameters (Entry.heard? ⟨c, move, answer, effects⟩).toList =
      (if c.phase = .ready then Desk.directedBy text c else c).parameters := by
  by_cases ready : c.phase = .ready <;>
    simp [Entry.heard?, spoken, resolvedFrom, ready, Desk.directedBy]

/-- Until a controller is ready it has its defaults. There is at most one start, and none before the
first wish to start or once the controller is ready. -/
structure Seeded (setup : Controller.Setup) (c : Controller) (starting : List Progress) : Prop where
  setup_eq : c.setup = setup
  one_start : starting.length ≤ 1
  idle : c.phase = .uninitialized ∨ c.phase = .ready → starting = []
  untouched : c.phase = .uninitialized ∨ c.phase = .initializing → c.parameters = setup.defaults

namespace Seeded

variable {engine : Engine σ} {work : ω → σ → σ × List Record} {setup : Controller.Setup}
  {c : Controller} {starting : List Progress} {s : Shared σ} {turn : Turn σ}

theorem new (setup : Controller.Setup) : Seeded setup (.new setup) [] where
  setup_eq := rfl
  one_start := Nat.zero_le 1
  idle _ := rfl
  untouched _ := rfl

/-- An answer of the engine ends no start, unless the engine breaks down. -/
theorem answeredAt (seeded : Seeded setup c starting) (place : Nat)
    (result : Option (Except EngineError Unit)) :
    Seeded setup c (Shared.answeredAt place result starting) where
  setup_eq := seeded.setup_eq
  one_start := by
    have one := seeded.one_start
    cases result with
    | none => exact Nat.le_trans (List.length_eraseIdx_le ..) one
    | some result => simpa only [Shared.answeredAt, List.length_set] using one
  idle phase := by
    rw [seeded.idle phase]
    cases result <;> rfl
  untouched := seeded.untouched

/-- A text counts only for a controller that is ready, so the defaults stay until then. -/
theorem heard (seeded : Seeded setup c starting) (text : String) :
    Seeded setup (if c.phase = .ready then Desk.directedBy text c else c) starting := by
  by_cases ready : c.phase = .ready
  · rw [if_pos ready]
    refine ⟨seeded.setup_eq, seeded.one_start, seeded.idle, ?_⟩
    intro early
    change c.phase = .uninitialized ∨ c.phase = .initializing at early
    rw [ready] at early
    rcases early with early | early <;> cases early
  · rw [if_neg ready]
    exact seeded

theorem closed (seeded : Seeded setup c starting) :
    Seeded setup { c with phase := .closed } starting where
  setup_eq := seeded.setup_eq
  one_start := seeded.one_start
  idle phase := by rcases phase with phase | phase <;> cases phase
  untouched phase := by rcases phase with phase | phase <;> cases phase

/-- A start that is begun is the only one. -/
theorem begun (seeded : Seeded setup c starting) (first : c.phase = .uninitialized)
    (progress : Progress) :
    Seeded setup { c with phase := .initializing, attempted := true } (starting ++ [progress]) where
  setup_eq := seeded.setup_eq
  one_start := by rw [seeded.idle (.inl first)]; exact Nat.le_refl 1
  idle phase := by rcases phase with phase | phase <;> cases phase
  untouched _ := seeded.untouched (.inl first)

/-- The end of a start finds the defaults, or a closed controller: either way it sets the volume to
what it is. -/
theorem finished_parameters (seeded : Seeded setup c starting) (pending : starting ≠ [])
    (language : LanguageStatus) (result : Except EngineError Unit) :
    (Desk.finished language result c).parameters = c.parameters := by
  unfold Desk.finished
  split
  · rfl
  · next goesOn =>
    cases result with
    | error e => rfl
    | ok =>
      have defaults : c.parameters = setup.defaults := by
        cases phase : c.phase with
        | uninitialized => exact seeded.untouched (.inl phase)
        | initializing => exact seeded.untouched (.inr phase)
        | ready => exact absurd (seeded.idle (.inr phase)) pending
        | closed => exact absurd phase goesOn
      dsimp only
      rw [seeded.setup_eq, defaults]

/-- When a start ends, no other one is left. -/
theorem finished (seeded : Seeded setup c starting) {place : Nat} (inside : place < starting.length)
    (language : LanguageStatus) (result : Except EngineError Unit) :
    Seeded setup (Desk.finished language result c) (starting.eraseIdx place) := by
  have pending : starting ≠ [] := List.ne_nil_of_length_pos (Nat.zero_lt_of_lt inside)
  have empty : starting.eraseIdx place = [] := by
    have one := seeded.one_start
    apply List.length_eq_zero_iff.mp
    rw [List.length_eraseIdx, if_pos inside]
    omega
  have kept := seeded.finished_parameters pending language result
  rw [empty]
  refine ⟨?_, Nat.zero_le 1, fun _ => rfl, ?_⟩
  · unfold Desk.finished
    split
    · exact seeded.setup_eq
    · cases result <;> exact seeded.setup_eq
  · intro early
    rw [kept]
    cases phase : c.phase with
    | uninitialized => exact seeded.untouched (.inl phase)
    | initializing => exact seeded.untouched (.inr phase)
    | ready => exact absurd (seeded.idle (.inr phase)) pending
    | closed =>
      simp only [Desk.finished, phase, ↓reduceIte] at early
      rcases early with early | early <;> cases early

/-- The first step of starting begins a start, or changes nothing. -/
theorem turnOfBegun (seeded : Seeded setup s.desk.controller s.starting) :
    let after := (s.turnOfBegun (s.desk.beginInit engine)).after
    Seeded setup after.desk.controller after.starting ∧
      after.desk.controller.parameters = s.desk.controller.parameters := by
  have controller := s.desk.beginInit_controller engine
  by_cases fresh : s.desk.controller.phase = .uninitialized ∧ s.desk.controller.attempted = false
  · obtain ⟨progress, begins⟩ := s.turnOfBegun_fresh engine fresh
    rw [if_pos fresh] at controller
    dsimp only
    rw [begins, controller]
    exact ⟨seeded.begun fresh.1 progress, rfl⟩
  · rw [if_neg fresh] at controller
    dsimp only
    rw [s.turnOfBegun_stale engine fresh, controller]
    exact ⟨seeded, rfl⟩

/-- Every move keeps the invariant, and changes the parameters by the text that it was heard. -/
theorem step (seeded : Seeded setup s.desk.controller s.starting) {move : Move ω}
    (possible : s.step? engine work move = some turn) :
    Seeded setup turn.after.desk.controller turn.after.starting ∧
      turn.after.desk.controller.parameters = resolvedFrom s.desk.controller.parameters
        (Entry.heard? ⟨s.desk.controller, move, turn.answer, turn.effects⟩).toList := by
  cases move with
  | beginInit =>
    cases possible
    rw [resolvedFrom_silent _ rfl]
    exact seeded.turnOfBegun
  | answer place =>
    simp only [Shared.step?] at possible
    split at possible
    · cases possible
      exact ⟨seeded.answeredAt place _, (resolvedFrom_silent _ rfl).symm⟩
    · cases possible
  | finishInit place =>
    simp only [Shared.step?] at possible
    split at possible
    · next present =>
      obtain ⟨inside, -⟩ := List.getElem?_eq_some_iff.mp present
      cases possible
      rw [resolvedFrom_silent _ rfl]
      dsimp only
      rw [Desk.finishInit_controller]
      have pending : s.starting ≠ [] := List.ne_nil_of_length_pos (Nat.zero_lt_of_lt inside)
      exact ⟨seeded.finished inside _ _, seeded.finished_parameters pending _ _⟩
    · cases possible
  | submitUser id text mode =>
    cases possible
    simp only [Shared.turn, Desk.submitUser_controller]
    exact ⟨seeded.heard text, (resolvedFrom_spoken rfl).symm⟩
  | submitSystem id text =>
    cases possible
    rw [resolvedFrom_silent _ rfl]
    simp only [Shared.turn, Desk.submitSystem_controller]
    exact ⟨seeded, trivial⟩
  | submit id text source =>
    cases possible
    cases source with
    | user =>
      simp only [Shared.turn, Desk.submit_controller, true_and]
      exact ⟨seeded.heard text, (resolvedFrom_spoken rfl).symm⟩
    | system =>
      rw [resolvedFrom_silent _ rfl]
      simp only [Shared.turn, Desk.submit_controller, reduceCtorEq, false_and, ↓reduceIte]
      exact ⟨seeded, trivial⟩
  | setListener listener =>
    cases possible
    rw [resolvedFrom_silent _ rfl]
    exact ⟨⟨seeded.setup_eq, seeded.one_start, seeded.idle, seeded.untouched⟩, rfl⟩
  | shutDown =>
    cases possible
    rw [resolvedFrom_silent _ rfl]
    simp only [Shared.turn, Desk.shutDown_controller]
    exact ⟨seeded.closed, trivial⟩
  | work label =>
    cases possible
    exact ⟨seeded, (resolvedFrom_silent _ rfl).symm⟩

end Seeded

variable {engine : Engine σ} {work : ω → σ → σ × List Record} {setup : Controller.Setup}
  {state : σ} {s : Shared σ} {turn : Turn σ} {history : List (Entry ω)}

/-- The receipt of an utterance that carries parameters has those that the controller goes on with. -/
theorem Shared.step?_receipt {move : Move ω} {receipt : Receipt}
    (possible : s.step? engine work move = some turn) (carries : move.carriesParameters = true)
    (accepted : turn.answer = some (.submitted (.ok receipt))) :
    receipt.parameters = some turn.after.desk.controller.parameters := by
  cases move with
  | submitUser id text mode =>
    cases possible
    obtain ⟨ready, rfl⟩ := Desk.submitUser_receipt engine s.desk
      (Answer.submitted.inj (Option.some.inj accepted))
    simp only [Shared.turn, Desk.submitUser_controller, if_pos ready, Desk.directedBy]
  | submit id text source =>
    cases possible
    have result := Answer.submitted.inj (Option.some.inj accepted)
    cases source with
    | user =>
      obtain ⟨ready, rfl⟩ := Desk.submitUser_receipt engine s.desk result
      simp [Shared.turn, Desk.submit_controller, ready, Desk.directedBy]
    | system =>
      obtain ⟨ready, rfl⟩ := Desk.submit_system_receipt engine s.desk result
      simp [Shared.turn, Desk.submit_controller]
  | beginInit | answer | finishInit | submitSystem | setListener | shutDown | work => cases carries

/-- Every run keeps the invariant. -/
theorem Seeded.of_run (run : Run engine work (.new setup state) s history) :
    Seeded setup s.desk.controller s.starting :=
  run.preserves (fun s => Seeded setup s.desk.controller s.starting) (.new setup)
    fun _ _ _ seeded possible => (seeded.step possible).1

private theorem run_parameters (run : Run engine work (.new setup state) s history) :
    s.desk.controller.parameters = resolvedFrom setup.defaults (heardTexts history) := by
  induction run with
  | nil => rfl
  | snoc run possible ih =>
    rw [((Seeded.of_run run).step possible).2, ih, heardTexts_append, resolvedFrom_append]
    rfl

/-- No text is lost or invented: the parameters, and those of every receipt, are what the texts heard
by then lead to, and the end of a start leaves them as they are. -/
theorem parameters_eq_resolvedFrom (run : Run engine work (.new setup state) s history) :
    s.desk.controller.parameters = resolvedFrom setup.defaults (heardTexts history) ∧
      (∀ earlier entry later receipt, history = earlier ++ entry :: later →
        entry.move.carriesParameters = true → entry.answer = some (.submitted (.ok receipt)) →
        receipt.parameters =
          some (resolvedFrom setup.defaults (heardTexts (earlier ++ [entry])))) ∧
      ∀ place turn, s.step? engine work (.finishInit place) = some turn →
        turn.after.desk.controller.parameters = s.desk.controller.parameters := by
  refine ⟨run_parameters run, ?_, ?_⟩
  · intro earlier entry later receipt split carries accepted
    obtain ⟨before, turn, reached, possible, same⟩ := run.entry split
    rw [same] at accepted
    rw [Shared.step?_receipt possible carries accepted, run_parameters (reached.snoc possible),
      ← same]
  · intro place turn possible
    rw [((Seeded.of_run run).step possible).2, resolvedFrom_silent _ rfl]

/-- A text before the start is not heard, and one that the engine then refuses is. -/
theorem parameters_after_refusal :
    ∃ s history, Run Scripted.engine (fun (_ : Unit) engine => (engine, []))
        (.new .default ⟨none, some (.rejected "busy"), .ok⟩) s history ∧
      heardTexts history = ["slowly"] ∧
      s.desk.controller.parameters = resolvedFrom Parameters.default ["slowly"] := by
  let start : Shared Scripted := .new .default ⟨none, some (.rejected "busy"), .ok⟩
  have early : Run Scripted.engine (fun (_ : Unit) engine => (engine, [])) start _ _ :=
    .snoc .nil (show start.step? _ _ (.submitUser (.supply 0) "loud" .add) = some _ from rfl)
  have begun := early.snoc (show Shared.step? _ _ _ .beginInit = some _ from rfl)
  have ready := begun.snoc (show Shared.step? _ _ _ (.finishInit 0) = some _ from rfl)
  have refused := ready.snoc
    (show Shared.step? _ _ _ (.submitUser (.supply 1) "slowly" .flush) = some _ from rfl)
  exact ⟨_, _, refused, rfl, (parameters_eq_resolvedFrom refused).1⟩

end SpeechQueue
