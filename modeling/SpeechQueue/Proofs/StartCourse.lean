import SpeechQueue.Proofs.StartCalls

/-! # The course of a start

`Shared.Change` says what a move can do to the start of a shared desk. From it follows `Course`: the
controller is always as far with its start as the history says. -/

namespace SpeechQueue

variable {σ ω : Type}

/-! ## What a move can do -/

/-- Two controllers are equally far with their start. -/
structure Controller.SameCourse (c d : Controller) : Prop where
  setup : d.setup = c.setup
  phase : d.phase = c.phase
  attempted : d.attempted = c.attempted
  language : d.language = c.language

theorem Controller.SameCourse.refl (c : Controller) : c.SameCourse c := ⟨rfl, rfl, rfl, rfl⟩

theorem Controller.SameCourse.directed (text : String) (c : Controller) (condition : Prop)
    [Decidable condition] : c.SameCourse (if condition then Desk.directedBy text c else c) := by
  split <;> exact ⟨rfl, rfl, rfl, rfl⟩

namespace Shared

/-- What a move can do to the start: begin it, let its call return in one of three ways, close the
controller, or none of these. -/
inductive Change (engine : Engine σ) (s : Shared σ) : Move ω → Turn σ → Prop
  | begun {turn : Turn σ} (progress : Progress) :
      s.desk.controller.phase = .uninitialized → s.desk.controller.attempted = false →
      turn.after.desk.controller =
        { s.desk.controller with phase := .initializing, attempted := true } →
      turn.after.starting = s.starting ++ [progress] → turn.answer = none →
      Effect.setupCalls turn.effects = [.start] →
      Change engine s .beginInit turn
  | discarded {turn : Turn σ} {place : Nat} {result : Except EngineError Unit} :
      s.starting[place]? = some (.answered result) → s.desk.controller.phase = .closed →
      turn.after.desk.controller = s.desk.controller →
      turn.after.starting = s.starting.eraseIdx place →
      turn.answer = some (.started (.error .closed)) →
      Effect.setupCalls turn.effects = [] →
      Change engine s (.finishInit place) turn
  | failed {turn : Turn σ} {place : Nat} {e : EngineError} :
      s.starting[place]? = some (.answered (.error e)) → s.desk.controller.phase ≠ .closed →
      turn.after.desk.controller = { s.desk.controller with phase := .uninitialized } →
      turn.after.starting = s.starting.eraseIdx place →
      turn.answer = some (.started (.error (.ofInit e))) →
      Effect.setupCalls turn.effects = [] →
      Change engine s (.finishInit place) turn
  | succeeded {turn : Turn σ} {place : Nat} {language : LanguageStatus} {parameters : Parameters} :
      s.starting[place]? = some (.answered (.ok ())) → s.desk.controller.phase ≠ .closed →
      language = (engine.setLanguage s.desk.controller.setup.locale s.desk.engine).1 →
      turn.after.desk.controller =
        { s.desk.controller with
          parameters := parameters
          language := some language
          phase := .ready } →
      turn.after.starting = s.starting.eraseIdx place →
      turn.answer = some (.started (.ok language)) →
      Effect.setupCalls turn.effects = [.setLanguage s.desk.controller.setup.locale] →
      Change engine s (.finishInit place) turn
  | closed {turn : Turn σ} :
      turn.after.desk.controller = { s.desk.controller with phase := .closed } →
      turn.after.starting = s.starting →
      Effect.setupCalls turn.effects = [] →
      Change engine s .shutDown turn
  | kept {move : Move ω} {turn : Turn σ} :
      move ≠ .shutDown → (∀ place, move ≠ .finishInit place) →
      ¬ (move = .beginInit ∧ turn.answer = none) →
      s.desk.controller.SameCourse turn.after.desk.controller →
      turn.after.starting.length ≤ s.starting.length →
      Effect.setupCalls turn.effects = [] →
      Change engine s move turn

variable {engine : Engine σ} {work : ω → σ → σ × List Record} {s : Shared σ} {turn : Turn σ}

theorem answeredAt_length_le (place : Nat) (result : Option (Except EngineError Unit))
    (starting : List Progress) : (answeredAt place result starting).length ≤ starting.length := by
  cases result with
  | none => exact List.length_eraseIdx_le ..
  | some result => exact Nat.le_of_eq (List.length_set ..)

theorem change_of_beginInit : Change engine s (Move.beginInit : Move ω)
    (s.turnOfBegun (s.desk.beginInit engine)) := by
  have controller := s.desk.beginInit_controller engine
  have calls := s.desk.beginInit_setupCalls engine
  by_cases fresh : s.desk.controller.phase = .uninitialized ∧ s.desk.controller.attempted = false
  · rw [if_pos fresh] at controller calls
    have begun := s.desk.beginInit_begun engine fresh
    -- Whether the engine answers at once or takes its time, the call goes on.
    unfold turnOfBegun
    split
    · next result answered => exact absurd answered (begun result)
    · exact .begun _ fresh.1 fresh.2 controller rfl rfl calls
    · exact .begun _ fresh.1 fresh.2 controller rfl rfl calls
  · rw [if_neg fresh] at controller calls
    obtain ⟨result, answered⟩ := s.desk.beginInit_answered engine fresh
    rw [turnOfBegun, answered]
    refine .kept (by simp) (by simp) (by simp) ?_ (Nat.le_refl _) calls
    rw [controller]
    exact .refl _

theorem change_of_finishInit {place : Nat} {result : Except EngineError Unit}
    (present : s.starting[place]? = some (.answered result)) :
    Change engine s (.finishInit place : Move ω)
      ⟨⟨(s.desk.finishInit engine result).desk, s.starting.eraseIdx place⟩,
        some (.started (s.desk.finishInit engine result).result),
        (s.desk.finishInit engine result).effects⟩ := by
  have calls := s.desk.finishInit_setupCalls engine result
  by_cases closed : s.desk.controller.phase = .closed
  · have discarded : (s.desk.finishInit engine result).result = .error .closed ∧
        (s.desk.finishInit engine result).desk = s.desk := by
      simp [Desk.finishInit, closed]
    rw [if_pos closed] at calls
    refine .discarded present closed ?_ rfl ?_ calls
    · rw [discarded.2]
    · rw [discarded.1]
  · rw [if_neg closed] at calls
    cases result with
    | error e =>
      have failed : s.desk.finishInit engine (.error e) =
          ⟨.error (.ofInit e),
            { s.desk with controller := { s.desk.controller with phase := .uninitialized } },
            Controller.report { s.desk.controller with phase := .uninitialized } (.ofInit e)⟩ := by
        simp [Desk.finishInit, closed]
      refine .failed present closed ?_ rfl ?_ calls
      · rw [failed]
      · rw [failed]
    | ok =>
      have controller := s.desk.finishInit_controller engine (.ok ())
      simp only [Desk.finished, closed, if_false] at controller
      refine .succeeded present closed rfl controller rfl ?_ calls
      simp [Desk.finishInit, closed]

/-- Every move that is possible changes the start in one of these ways. -/
theorem step?_change {move : Move ω} (possible : s.step? engine work move = some turn) :
    Change engine s move turn := by
  cases move with
  | beginInit =>
    cases possible
    exact change_of_beginInit
  | answer place =>
    simp only [step?] at possible
    split at possible
    · cases possible
      exact .kept (by simp) (by simp) (by simp) (.refl _) (answeredAt_length_le ..)
        (Effect.setupCalls_records _)
    · cases possible
  | finishInit place =>
    simp only [step?] at possible
    split at possible
    · next present =>
      cases possible
      exact change_of_finishInit present
    · cases possible
  | submitUser id text mode =>
    cases possible
    refine .kept (by simp) (by simp) (by simp) ?_ (Nat.le_refl _)
      (Desk.submitUser_setupCalls engine s.desk id text mode)
    simp only [turn, Desk.submitUser_controller]
    exact .directed ..
  | submitSystem id text =>
    cases possible
    refine .kept (by simp) (by simp) (by simp) ?_ (Nat.le_refl _)
      (Desk.submitSystem_setupCalls engine s.desk id text)
    simp only [turn, Desk.submitSystem_controller]
    exact .refl _
  | submit id text source =>
    cases possible
    refine .kept (by simp) (by simp) (by simp) ?_ (Nat.le_refl _)
      (Desk.submit_setupCalls engine s.desk id text source)
    simp only [turn, Desk.submit_controller]
    exact .directed ..
  | setListener listener =>
    cases possible
    exact .kept (by simp) (by simp) (by simp) ⟨rfl, rfl, rfl, rfl⟩ (Nat.le_refl _) rfl
  | shutDown =>
    cases possible
    exact .closed (Desk.shutDown_controller ..) rfl (Desk.shutDown_setupCalls engine s.desk)
  | work label =>
    cases possible
    exact .kept (by simp) (by simp) (by simp) (.refl _) (Nat.le_refl _) (Effect.setupCalls_background _)

end Shared

/-! ## The invariant -/

/-- The controller is as far with its start as the history says. -/
structure Course (setup : Controller.Setup) (s : Shared σ) (history : List (Entry ω)) : Prop where
  setup_eq : s.desk.controller.setup = setup
  one_start : s.starting.length ≤ 1
  pending : s.starting ≠ [] → IsPending history
  attempted_iff : s.desk.controller.attempted = true ↔ WasBegun history
  begun : HasReturned history → WasBegun history
  closed_iff : s.desk.controller.phase = .closed ↔ WasShutDown history
  initializing_iff :
    s.desk.controller.phase = .initializing ↔ IsPending history ∧ ¬ WasShutDown history
  no_language : s.desk.controller.phase = .uninitialized ∨ s.desk.controller.phase = .initializing →
    s.desk.controller.language = none
  calls : setupCalls history = (if s.desk.controller.attempted then [.start] else []) ++
    (s.desk.controller.language.map fun _ => Call.setLanguage setup.locale).toList

namespace Course

variable {engine : Engine σ} {work : ω → σ → σ × List Record} {setup : Controller.Setup}
  {state : σ} {s t : Shared σ} {turn : Turn σ} {history : List (Entry ω)}

theorem new : Course setup (.new setup state) ([] : List (Entry ω)) := by
  constructor <;>
    simp [Shared.new, Controller.new, WasBegun, HasReturned, WasShutDown, IsPending, setupCalls]

/-- A start whose call goes on finds the controller starting, unless it was shut down. -/
theorem initializing (course : Course setup s history) (awaited : s.starting ≠ [])
    (goesOn : s.desk.controller.phase ≠ .closed) : s.desk.controller.phase = .initializing :=
  course.initializing_iff.mpr
    ⟨course.pending awaited, fun shut => goesOn (course.closed_iff.mpr shut)⟩

/-- A start that has not been begun has not returned either, and nothing is awaited. -/
theorem not_begun (course : Course setup s history)
    (fresh : s.desk.controller.attempted = false) :
    ¬ WasBegun history ∧ ¬ HasReturned history ∧ s.starting = [] := by
  have begun : ¬ WasBegun history := by
    intro begun
    rw [← course.attempted_iff, fresh] at begun
    cases begun
  refine ⟨begun, fun returned => begun (course.begun returned), ?_⟩
  exact Classical.byContradiction fun awaited => begun (course.pending awaited).1

/-- Once the call of the start has returned, nothing is awaited any more. -/
theorem not_awaited (course : Course setup s history) (returned : HasReturned history) :
    s.starting = [] :=
  Classical.byContradiction fun awaited => (course.pending awaited).2 returned

/-- The end of a start leaves none behind. -/
theorem eraseIdx_eq_nil (course : Course setup s history) {place : Nat} {progress : Progress}
    (present : s.starting[place]? = some progress) : s.starting.eraseIdx place = [] := by
  obtain ⟨inside, -⟩ := List.getElem?_eq_some_iff.mp present
  have one := course.one_start
  apply List.length_eq_zero_iff.mp
  rw [List.length_eraseIdx, if_pos inside]
  omega

theorem awaited_of_getElem? {place : Nat} {progress : Progress}
    (present : s.starting[place]? = some progress) : s.starting ≠ [] := by
  rintro empty
  simp [empty] at present

/-- The first wish to start keeps to the course. -/
theorem after_begun (course : Course setup s history) {progress : Progress} {answer : Option Answer}
    {effects : List Effect} (first : s.desk.controller.phase = .uninitialized)
    (fresh : s.desk.controller.attempted = false)
    (controller : t.desk.controller =
      { s.desk.controller with phase := .initializing, attempted := true })
    (starting : t.starting = s.starting ++ [progress]) (goesOn : answer = none)
    (calls : Effect.setupCalls effects = [.start]) :
    Course setup t (history ++ [⟨s.desk.controller, .beginInit, answer, effects⟩]) := by
  obtain ⟨-, returned, awaited⟩ := course.not_begun fresh
  have language := course.no_language (.inl first)
  have earlier := course.calls
  have stillOpen : ¬ WasShutDown history := by
    rw [← course.closed_iff, first]
    exact Phase.noConfusion
  simp only [fresh, language] at earlier
  have begun : WasBegun (history ++ [⟨s.desk.controller, .beginInit, answer, effects⟩]) := by
    rw [wasBegun_snoc]
    exact .inr ⟨rfl, goesOn⟩
  have pending : IsPending (history ++ [⟨s.desk.controller, .beginInit, answer, effects⟩]) := by
    refine ⟨begun, ?_⟩
    simpa [hasReturned_snoc] using returned
  constructor
  · rw [controller]
    exact course.setup_eq
  · simp [starting, awaited]
  · exact fun _ => pending
  · rw [controller]
    exact iff_of_true rfl begun
  · exact fun _ => begun
  · simpa [controller, wasShutDown_snoc] using stillOpen
  · simpa [controller, pending, wasShutDown_snoc] using stillOpen
  · exact fun _ => controller ▸ language
  · simp [controller, setupCalls_snoc, earlier, calls, language]

/-- The return of the start's call keeps to the course: the controller has been closed already, or is
neither closed nor starting any more. -/
theorem after_return (course : Course setup s history) {place : Nat} {progress : Progress}
    {answer : Option Answer} {effects : List Effect}
    (present : s.starting[place]? = some progress)
    (setup_eq : t.desk.controller.setup = s.desk.controller.setup)
    (attempted_eq : t.desk.controller.attempted = s.desk.controller.attempted)
    (starting : t.starting = s.starting.eraseIdx place)
    (phase : t.desk.controller.phase = .closed ∧ s.desk.controller.phase = .closed ∨
      t.desk.controller.phase = .ready ∧ s.desk.controller.phase ≠ .closed ∨
      t.desk.controller.phase = .uninitialized ∧ t.desk.controller.language = none ∧
        s.desk.controller.phase ≠ .closed)
    (calls : setupCalls history ++ Effect.setupCalls effects =
      [.start] ++ (t.desk.controller.language.map fun _ => Call.setLanguage setup.locale).toList) :
    Course setup t (history ++ [⟨s.desk.controller, .finishInit place, answer, effects⟩]) := by
  have begun := (course.pending (awaited_of_getElem? present)).1
  have attempted := course.attempted_iff.mpr begun
  have stillBegun : WasBegun (history ++
      [⟨s.desk.controller, .finishInit place, answer, effects⟩]) := by
    rw [wasBegun_snoc]
    exact .inl begun
  have ended : HasReturned (history ++
      [⟨s.desk.controller, .finishInit place, answer, effects⟩]) := by
    rw [hasReturned_snoc]
    exact .inr ⟨place, rfl⟩
  have closed_iff := course.closed_iff
  constructor
  · exact setup_eq.trans course.setup_eq
  · simp [starting, course.eraseIdx_eq_nil present]
  · simp [starting, course.eraseIdx_eq_nil present]
  · exact iff_of_true (attempted_eq.trans attempted) stillBegun
  · exact fun _ => stillBegun
  · rcases phase with ⟨now, before⟩ | ⟨now, before⟩ | ⟨now, -, before⟩ <;>
      simpa [wasShutDown_snoc, now, before] using closed_iff
  · rcases phase with ⟨now, -⟩ | ⟨now, -⟩ | ⟨now, -⟩ <;> simp [now, IsPending, ended]
  · rcases phase with ⟨now, -⟩ | ⟨now, -⟩ | ⟨now, language, -⟩ <;> simp [now]
    exact language
  · rw [setupCalls_snoc, calls, attempted_eq, attempted]
    rfl

/-- A shutdown keeps to the course. -/
theorem after_shutDown (course : Course setup s history) {answer : Option Answer}
    {effects : List Effect} (controller : t.desk.controller = { s.desk.controller with phase := .closed })
    (starting : t.starting = s.starting) (calls : Effect.setupCalls effects = []) :
    Course setup t (history ++ [⟨s.desk.controller, .shutDown, answer, effects⟩]) := by
  have begun : WasBegun (history ++ [⟨s.desk.controller, .shutDown, answer, effects⟩]) ↔
      WasBegun history := by
    simp [wasBegun_snoc]
  have returned : HasReturned (history ++ [⟨s.desk.controller, .shutDown, answer, effects⟩]) ↔
      HasReturned history := by
    simp [hasReturned_snoc]
  have shut : WasShutDown (history ++ [⟨s.desk.controller, .shutDown, answer, effects⟩]) := by
    rw [wasShutDown_snoc]
    exact .inr rfl
  constructor
  · rw [controller]
    exact course.setup_eq
  · rw [starting]
    exact course.one_start
  · rw [starting, IsPending, begun, returned]
    exact course.pending
  · rw [controller, begun]
    exact course.attempted_iff
  · rw [begun, returned]
    exact course.begun
  · simp [controller, shut]
  · simp [controller, shut]
  · simp [controller]
  · rw [controller, setupCalls_snoc, calls, List.append_nil]
    exact course.calls

/-- A move that leaves the start alone keeps to the course. -/
theorem after_kept (course : Course setup s history) {entry : Entry ω}
    (noShutDown : entry.move ≠ .shutDown) (noReturn : ∀ place, entry.move ≠ .finishInit place)
    (noBegin : ¬ (entry.move = .beginInit ∧ entry.answer = none))
    (same : s.desk.controller.SameCourse t.desk.controller)
    (starting : t.starting.length ≤ s.starting.length)
    (calls : Effect.setupCalls entry.effects = []) : Course setup t (history ++ [entry]) := by
  have begun : WasBegun (history ++ [entry]) ↔ WasBegun history := by
    rw [wasBegun_snoc]
    exact or_iff_left noBegin
  have returned : HasReturned (history ++ [entry]) ↔ HasReturned history := by
    rw [hasReturned_snoc]
    exact or_iff_left fun ⟨place, finish⟩ => noReturn place finish
  have shut : WasShutDown (history ++ [entry]) ↔ WasShutDown history := by
    rw [wasShutDown_snoc]
    exact or_iff_left noShutDown
  constructor
  · rw [same.setup]
    exact course.setup_eq
  · exact Nat.le_trans starting course.one_start
  · rw [IsPending, begun, returned]
    intro awaited
    refine course.pending fun empty => awaited ?_
    rw [empty] at starting
    exact List.length_eq_zero_iff.mp (Nat.le_zero.mp starting)
  · rw [same.attempted, begun]
    exact course.attempted_iff
  · rw [begun, returned]
    exact course.begun
  · rw [same.phase, shut]
    exact course.closed_iff
  · rw [same.phase, IsPending, begun, returned, shut]
    exact course.initializing_iff
  · rw [same.phase, same.language]
    exact course.no_language
  · rw [setupCalls_snoc, calls, List.append_nil, same.attempted, same.language]
    exact course.calls

/-- Every move keeps to the course. -/
theorem step (course : Course setup s history) {move : Move ω}
    (possible : s.step? engine work move = some turn) :
    Course setup turn.after
      (history ++ [⟨s.desk.controller, move, turn.answer, turn.effects⟩]) := by
  have awaited {place : Nat} {progress : Progress} (present : s.starting[place]? = some progress) :
      s.desk.controller.attempted = true :=
    course.attempted_iff.mpr (course.pending (awaited_of_getElem? present)).1
  cases Shared.step?_change possible with
  | begun progress first fresh controller starting answer calls =>
    exact course.after_begun first fresh controller starting answer calls
  | discarded present closed controller starting answer calls =>
    have earlier := course.calls
    rw [awaited present, ← controller] at earlier
    refine course.after_return present (by rw [controller]) (by rw [controller]) starting ?_ ?_
    · exact .inl ⟨by rw [controller, closed], closed⟩
    · rw [calls, List.append_nil, earlier]
      rfl
  | failed present goesOn controller starting answer calls =>
    have language := course.no_language
      (.inr (course.initializing (awaited_of_getElem? present) goesOn))
    have earlier := course.calls
    rw [awaited present, language] at earlier
    refine course.after_return present (by rw [controller]) (by rw [controller]) starting ?_ ?_
    · exact .inr (.inr ⟨by rw [controller], by rw [controller]; exact language, goesOn⟩)
    · simp [calls, earlier, controller, language]
  | succeeded present goesOn chosen controller starting answer calls =>
    have language := course.no_language
      (.inr (course.initializing (awaited_of_getElem? present) goesOn))
    have earlier := course.calls
    rw [awaited present, language] at earlier
    refine course.after_return present (by rw [controller]) (by rw [controller]) starting ?_ ?_
    · exact .inr (.inl ⟨by rw [controller], goesOn⟩)
    · simp [calls, earlier, controller, course.setup_eq]
  | closed controller starting calls => exact course.after_shutDown controller starting calls
  | kept noShutDown noReturn noBegin same starting calls =>
    exact course.after_kept noShutDown noReturn noBegin same starting calls

/-- Every run keeps to the course. -/
theorem of_run (run : Run engine work (.new setup state) s history) : Course setup s history := by
  induction run with
  | nil => exact .new
  | snoc _ possible ih => exact ih.step possible

end Course

end SpeechQueue
