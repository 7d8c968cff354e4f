import SpeechQueue.Controller

/-! # What the steps under the lock do to a controller

Each operation of a desk is read as a change of the controller alone, whatever the engine answers.
Only a submission of the user's text and the end of a start can change the parameters. -/

namespace SpeechQueue

namespace Desk

variable {σ : Type} (engine : Engine σ) (d : Desk σ)

@[simp] theorem refusal?_eq_none_iff (phase : Phase) : refusal? phase = none ↔ phase = .ready := by
  cases phase <;> simp [refusal?]

theorem exists_refusal {phase : Phase} (early : phase ≠ .ready) : ∃ e, refusal? phase = some e :=
  Option.ne_none_iff_exists'.mp fun none => early ((refusal?_eq_none_iff _).mp none)

/-- A start is asked for only once, by the first wish to start. -/
theorem beginInit_controller : (d.beginInit engine).desk.controller =
    if d.controller.phase = .uninitialized ∧ d.controller.attempted = false then
      { d.controller with phase := .initializing, attempted := true }
    else d.controller := by
  unfold beginInit
  cases phase : d.controller.phase with
  | uninitialized => cases attempted : d.controller.attempted <;> simp [phase, attempted]
  | initializing => simp [phase]
  | ready => simp [phase]
  | closed => simp [phase]

/-- A wish to start that is not the first one is answered without the engine. -/
theorem beginInit_answered
    (stale : ¬ (d.controller.phase = .uninitialized ∧ d.controller.attempted = false)) :
    ∃ result, (d.beginInit engine).result = .answered result := by
  unfold beginInit
  cases phase : d.controller.phase with
  | uninitialized =>
    cases attempted : d.controller.attempted with
    | true => simp [phase, attempted]
    | false => exact absurd ⟨phase, attempted⟩ stale
  | initializing => simp [phase]
  | ready => simp [phase]
  | closed => simp [phase]

/-- The first wish to start is not answered without the engine. -/
theorem beginInit_begun
    (fresh : d.controller.phase = .uninitialized ∧ d.controller.attempted = false)
    (result : Except QueueError LanguageStatus) :
    (d.beginInit engine).result ≠ .answered result := by
  unfold beginInit
  simp only [fresh.1, fresh.2, Bool.false_eq_true, ↓reduceIte]
  split <;> exact Desk.Begun.noConfusion

/-- The controller after a start whose result is known. -/
def finished (language : LanguageStatus) (result : Except EngineError Unit) (c : Controller) :
    Controller :=
  if c.phase = .closed then c
  else match result with
    | .error _ => { c with phase := .uninitialized }
    | .ok () =>
      { c with
        parameters := { c.parameters with volume := c.setup.defaults.volume }
        language := some language
        phase := .ready }

theorem finishInit_controller (result : Except EngineError Unit) :
    (d.finishInit engine result).desk.controller =
      finished (engine.setLanguage d.controller.setup.locale d.engine).1 result d.controller := by
  unfold finishInit finished
  by_cases closed : d.controller.phase = .closed
  · rw [if_pos closed, if_pos closed]
  · rw [if_neg closed, if_neg closed]
    cases result <;> rfl

@[simp] theorem speakWithParameters_controller (id : UtteranceId) (text : String) (mode : Mode) :
    (d.speakWithParameters engine id text mode).desk.controller = d.controller := by
  unfold speakWithParameters
  dsimp only
  split <;> rfl

/-- An accepted utterance carries the parameters that the controller has. -/
theorem speakWithParameters_receipt {id : UtteranceId} {text : String} {mode : Mode}
    {receipt : Receipt} (accepted : (d.speakWithParameters engine id text mode).result = .ok receipt) :
    receipt = ⟨id, mode, some d.controller.parameters⟩ := by
  unfold speakWithParameters at accepted
  dsimp only at accepted
  split at accepted
  · cases accepted
  · exact (Except.ok.inj accepted).symm

/-- The controller once the user's text is resolved. -/
def directedBy (text : String) (c : Controller) : Controller :=
  { c with parameters := resolveParameters text c.parameters }

/-- A text of the user changes the parameters exactly when it finds the controller ready. -/
theorem submitUser_controller (id : UtteranceId) (text : String) (mode : Mode) :
    (d.submitUser engine id text mode).desk.controller =
      if d.controller.phase = .ready then directedBy text d.controller else d.controller := by
  unfold submitUser
  cases phase : d.controller.phase <;> simp [refusal?, fail, directedBy, resolveParameters]

theorem submitUser_receipt {id : UtteranceId} {text : String} {mode : Mode} {receipt : Receipt}
    (accepted : (d.submitUser engine id text mode).result = .ok receipt) :
    d.controller.phase = .ready ∧
      receipt = ⟨id, mode, some (resolveParameters text d.controller.parameters)⟩ := by
  unfold submitUser at accepted
  split at accepted
  · cases accepted
  · next ready =>
    exact ⟨(refusal?_eq_none_iff _).mp ready, speakWithParameters_receipt engine _ accepted⟩

/-- A controller that is ready passes on what the engine answers to a flush. -/
theorem submitSystem_result (ready : d.controller.phase = .ready) (id : UtteranceId)
    (text : String) :
    (d.submitSystem engine id text).result =
      match (engine.speak ⟨text, .flush, none⟩ d.engine).1 with
      | .error e => .error (.ofSpeak e)
      | .ok () => .ok ⟨id, .flush, none⟩ := by
  simp only [submitSystem, ready, refusal?]
  cases (engine.speak ⟨text, .flush, none⟩ d.engine).1 <;> rfl

/-- An accepted flush carries no parameters. -/
theorem submitSystem_receipt {id : UtteranceId} {text : String} {receipt : Receipt}
    (accepted : (d.submitSystem engine id text).result = .ok receipt) :
    d.controller.phase = .ready ∧ receipt = ⟨id, .flush, none⟩ := by
  unfold submitSystem at accepted
  dsimp only at accepted
  split at accepted
  · cases accepted
  · next ready =>
    refine ⟨(refusal?_eq_none_iff _).mp ready, ?_⟩
    split at accepted
    · cases accepted
    · exact (Except.ok.inj accepted).symm

@[simp] theorem submitSystem_controller (id : UtteranceId) (text : String) :
    (d.submitSystem engine id text).desk.controller = d.controller := by
  unfold submitSystem
  split
  · rfl
  · dsimp only
    split <;> rfl

/-- Only the source of a text decides whether its directives count. -/
theorem submit_controller (id : UtteranceId) (text : String) (source : Source) :
    (d.submit engine id text source).desk.controller =
      if source = .user ∧ d.controller.phase = .ready then directedBy text d.controller
      else d.controller := by
  cases source with
  | user => simpa [submit] using submitUser_controller engine d id text .add
  | system =>
    unfold submit
    dsimp only
    split <;> simp [fail]

theorem submit_system_receipt {id : UtteranceId} {text : String} {receipt : Receipt}
    (accepted : (d.submit engine id text .system).result = .ok receipt) :
    d.controller.phase = .ready ∧ receipt = ⟨id, .add, some d.controller.parameters⟩ := by
  unfold submit at accepted
  dsimp only at accepted
  split at accepted
  · cases accepted
  · next ready =>
    exact ⟨(refusal?_eq_none_iff _).mp ready, speakWithParameters_receipt engine _ accepted⟩

/-- A controller that is shut down is closed, and nothing else about it changes. -/
theorem shutDown_controller :
    (d.shutDown engine).desk.controller = { d.controller with phase := .closed } := by
  unfold shutDown
  split
  · next closed => rw [← closed]
  · rfl

end Desk

end SpeechQueue
