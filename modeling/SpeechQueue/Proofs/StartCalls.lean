import SpeechQueue.Proofs.SharedDesk

/-! # What a history says of the start

A history tells when a start was begun, whether its call has returned, and whether the controller was
shut down. It also lists the calls by which the engine is started and its language chosen; all other
steps of a controller make none of these. -/

namespace SpeechQueue

variable {σ ω : Type}

namespace Effect

/-- The call to start the engine or to choose its language that an effect is. -/
def setupCall? : Effect → Option Call
  | .call .start => some .start
  | .call (.setLanguage locale) => some (.setLanguage locale)
  | _ => none

/-- The calls to start the engine or to choose its language among some effects, in order. -/
def setupCalls (effects : List Effect) : List Call := effects.filterMap setupCall?

@[simp] theorem setupCalls_nil : setupCalls [] = [] := rfl

@[simp] theorem setupCalls_append (first second : List Effect) :
    setupCalls (first ++ second) = setupCalls first ++ setupCalls second :=
  List.filterMap_append

@[simp] theorem setupCalls_cons (effect : Effect) (effects : List Effect) :
    setupCalls (effect :: effects) = effect.setupCall?.toList ++ setupCalls effects := by
  cases found : effect.setupCall? <;> simp [setupCalls, found]

@[simp] theorem setupCalls_records (records : List Record) :
    setupCalls (records.map .record) = [] := by
  induction records with
  | nil => rfl
  | cons record records ih => simpa [setupCall?] using ih

@[simp] theorem setupCalls_background (records : List Record) :
    setupCalls (records.map .background) = [] := by
  induction records with
  | nil => rfl
  | cons record records ih => simpa [setupCall?] using ih

/-- A report is no call. -/
@[simp] theorem setupCalls_report (c : Controller) (e : QueueError) :
    setupCalls (c.report e) = [] := by
  cases listener : c.listener <;>
    simp [Controller.report, Controller.reportRecord, Controller.log, setupCall?, listener]

end Effect

/-- The calls to start the engine or to choose its language, in order. -/
def setupCalls (history : List (Entry ω)) : List Call :=
  history.flatMap fun entry => Effect.setupCalls entry.effects

/-- The controller was shut down. -/
def WasShutDown (history : List (Entry ω)) : Prop :=
  ∃ entry ∈ history, entry.move = .shutDown

/-- A wish to start has begun a start: its call went on. -/
def WasBegun (history : List (Entry ω)) : Prop :=
  ∃ entry ∈ history, entry.move = .beginInit ∧ entry.answer = none

/-- The call that began a start has returned. -/
def HasReturned (history : List (Entry ω)) : Prop :=
  ∃ entry ∈ history, ∃ place, entry.move = .finishInit place

/-- The call that began a start has yet to return. -/
def IsPending (history : List (Entry ω)) : Prop :=
  WasBegun history ∧ ¬ HasReturned history

theorem setupCalls_snoc (history : List (Entry ω)) (entry : Entry ω) :
    setupCalls (history ++ [entry]) =
      setupCalls history ++ Effect.setupCalls entry.effects := by
  simp [setupCalls]

theorem wasShutDown_append (first second : List (Entry ω)) :
    WasShutDown (first ++ second) ↔ WasShutDown first ∨ WasShutDown second := by
  simp only [WasShutDown, List.mem_append, or_and_right, exists_or]

theorem wasShutDown_snoc (history : List (Entry ω)) (entry : Entry ω) :
    WasShutDown (history ++ [entry]) ↔ WasShutDown history ∨ entry.move = .shutDown := by
  simp [WasShutDown, or_and_right, exists_or]

theorem wasBegun_snoc (history : List (Entry ω)) (entry : Entry ω) :
    WasBegun (history ++ [entry]) ↔
      WasBegun history ∨ entry.move = .beginInit ∧ entry.answer = none := by
  simp [WasBegun, or_and_right, exists_or]

theorem hasReturned_append (first second : List (Entry ω)) :
    HasReturned (first ++ second) ↔ HasReturned first ∨ HasReturned second := by
  simp only [HasReturned, List.mem_append, or_and_right, exists_or]

theorem hasReturned_snoc (history : List (Entry ω)) (entry : Entry ω) :
    HasReturned (history ++ [entry]) ↔
      HasReturned history ∨ ∃ place, entry.move = .finishInit place := by
  simp [HasReturned, or_and_right, exists_or]

namespace Desk

variable (engine : Engine σ) (d : Desk σ)

theorem beginInit_setupCalls : Effect.setupCalls (d.beginInit engine).effects =
    if d.controller.phase = .uninitialized ∧ d.controller.attempted = false then [.start]
    else [] := by
  simp only [beginInit]
  cases d.controller.phase with
  | uninitialized => cases d.controller.attempted <;> simp [Effect.setupCall?, Controller.log]
  | initializing | ready | closed => simp [Effect.setupCall?, Controller.log]

/-- The language is chosen at the end of a start that was of use. -/
theorem finishInit_setupCalls (result : Except EngineError Unit) :
    Effect.setupCalls (d.finishInit engine result).effects =
      if d.controller.phase = .closed then []
      else match result with
        | .error _ => []
        | .ok () => [.setLanguage d.controller.setup.locale] := by
  by_cases closed : d.controller.phase = .closed
  · simp [finishInit, closed, Effect.setupCall?, Controller.log]
  · simp only [finishInit, closed, if_false]
    cases result with
    | error e => simp
    | ok =>
      dsimp only
      split <;> simp [Effect.setupCall?, Controller.log]

theorem speakWithParameters_setupCalls (id : UtteranceId) (text : String) (mode : Mode) :
    Effect.setupCalls (d.speakWithParameters engine id text mode).effects = [] := by
  unfold speakWithParameters
  dsimp only
  split <;> simp [Effect.setupCall?, Controller.log]

theorem submitUser_setupCalls (id : UtteranceId) (text : String) (mode : Mode) :
    Effect.setupCalls (d.submitUser engine id text mode).effects = [] := by
  unfold submitUser
  split
  · simp [fail]
  · simp only [Effect.setupCalls_append, speakWithParameters_setupCalls, List.append_nil]
    unfold resolvedRecord
    split <;> simp [Effect.setupCall?, Controller.log]

theorem submitSystem_setupCalls (id : UtteranceId) (text : String) :
    Effect.setupCalls (d.submitSystem engine id text).effects = [] := by
  unfold submitSystem
  split
  · simp [fail]
  · dsimp only
    split <;> simp [Effect.setupCall?, Controller.log]

theorem submit_setupCalls (id : UtteranceId) (text : String) (source : Source) :
    Effect.setupCalls (d.submit engine id text source).effects = [] := by
  cases source with
  | user => exact submitUser_setupCalls engine d id text .add
  | system =>
    unfold submit
    dsimp only
    split
    · simp [fail]
    · exact speakWithParameters_setupCalls engine _ id text .add

theorem shutDown_setupCalls : Effect.setupCalls (d.shutDown engine).effects = [] := by
  unfold shutDown
  split <;> simp [Effect.setupCall?, Controller.log]

end Desk

end SpeechQueue
