import SpeechQueue.Engine.Scripted
import SpeechQueue.Proofs.Listening
import SpeechQueue.Proofs.Reports
import SpeechQueue.Proofs.StartCourse

/-! # Every error is reported once

Main statement: `reports_errors`. Whatever tasks do and whatever the engine is, the listener of the
moment is told of every call that fails, once, and of one start at most that has succeeded in a
language that cannot be spoken. With each message goes one record in the log. -/

namespace SpeechQueue

variable {σ ω : Type}

/-! ## What is to be reported -/

/-- The errors that a history is to report, in the order of the lock. -/
def notices (locale : String) (history : List (Entry ω)) : List QueueError :=
  history.filterMap (Entry.notice? locale)

/-- The listener that a move sets. -/
def Move.listener? : Move ω → Option ListenerId
  | .setListener listener => some listener
  | _ => none

/-- The listener after a history: the one that was set last. -/
def listenerAfter (listener : Option ListenerId) (history : List (Entry ω)) : Option ListenerId :=
  history.foldl (fun listener entry => entry.move.listener?.or listener) listener

/-- What is to be told of a move, and to whom. -/
def Entry.addressed? (locale : String) (listener : Option ListenerId) (entry : Entry ω) :
    Option (ListenerId × String) :=
  (entry.notice? locale).bind fun e => listener.map (·, e.message)

/-- What is to be told of a history, and to whom: always to the listener set last. -/
def addressed (locale : String) : Option ListenerId → List (Entry ω) → List (ListenerId × String)
  | _, [] => []
  | listener, entry :: later =>
    (entry.addressed? locale listener).toList ++
      addressed locale (entry.move.listener?.or listener) later

/-- The record is the one of an error: of level and title as grave as the error is. -/
structure Record.Announces (r : Record) (e : QueueError) : Prop where
  target : r.target = Controller.target
  level : r.level = if e.isFatal then .error else .warn
  message : r.message = if e.isFatal then "TTS error" else "TTS warning"
  shown : r.fields.lookup "error" = some (.shown e.message)

theorem announces_reportRecord (phase : Phase) (e : QueueError) :
    ∃ r, Controller.reportRecord phase e = .record r ∧ r.Announces e :=
  ⟨_, rfl, rfl, rfl, rfl, rfl⟩

theorem addressed_append (locale : String) (listener : Option ListenerId)
    (first second : List (Entry ω)) :
    addressed locale listener (first ++ second) =
      addressed locale listener first ++ addressed locale (listenerAfter listener first) second := by
  induction first generalizing listener with
  | nil => rfl
  | cons entry rest ih =>
    rw [List.cons_append, addressed, addressed, ih, List.append_assoc]
    rfl

theorem listenerAfter_snoc (listener : Option ListenerId) (history : List (Entry ω))
    (entry : Entry ω) :
    listenerAfter listener (history ++ [entry]) =
      entry.move.listener?.or (listenerAfter listener history) := by
  simp [listenerAfter]

/-! ## Moves -/

theorem Quiet.told {writes : Record → Prop} {effects : List Effect} (quiet : Quiet writes effects) :
    Effect.told effects = [] := by
  rw [Effect.told, List.filterMap_eq_nil_iff]
  intro effect inside
  cases effect with
  | tell listener message => exact (quiet _ inside).elim
  | call | record | background => rfl

/-- Of a report only its listener is told. -/
theorem Controller.Reports.told {writes : Record → Prop} {c : Controller}
    {error : Option QueueError} {effects : List Effect} (reports : c.Reports writes error effects) :
    Effect.told effects = (error.bind fun e => c.listener.map (·, e.message)).toList := by
  obtain ⟨before, rfl, quiet⟩ := reports
  rw [Effect.told, List.filterMap_append, ← Effect.told, quiet.told]
  cases error with
  | none => rfl
  | some e => cases listener : c.listener <;> simp [report, reportRecord, log, listener]

namespace Shared

variable {engine : Engine σ} {work : ω → σ → σ × List Record} {s : Shared σ} {turn : Turn σ}

/-- Only by being set does a listener change. -/
theorem step?_listener {move : Move ω} (possible : s.step? engine work move = some turn) :
    turn.after.desk.controller.listener = move.listener?.or s.desk.controller.listener := by
  cases move with
  | beginInit =>
    cases possible
    have controller := s.desk.beginInit_controller engine
    by_cases fresh : s.desk.controller.phase = .uninitialized ∧
        s.desk.controller.attempted = false
    · obtain ⟨progress, begins⟩ := s.turnOfBegun_fresh engine fresh
      rw [begins, controller, if_pos fresh]
      rfl
    · rw [s.turnOfBegun_stale engine fresh, controller, if_neg fresh]
      rfl
  | answer place =>
    simp only [step?] at possible
    split at possible
    · cases possible
      rfl
    · cases possible
  | finishInit place =>
    simp only [step?] at possible
    split at possible
    · next result present =>
      cases possible
      rw [Desk.finishInit_controller]
      unfold Desk.finished
      split
      · rfl
      · cases result <;> rfl
    · cases possible
  | submitUser id text mode =>
    cases possible
    simp only [Shared.turn, Desk.submitUser_controller]
    split <;> rfl
  | submitSystem id text =>
    cases possible
    simp only [Shared.turn, Desk.submitSystem_controller]
    rfl
  | submit id text source =>
    cases possible
    simp only [Shared.turn, Desk.submit_controller]
    split <;> rfl
  | setListener listener =>
    cases possible
    rfl
  | shutDown =>
    cases possible
    simp only [Shared.turn, Desk.shutDown_controller]
    rfl
  | work label =>
    cases possible
    rfl

/-- A move that has something to report sets no listener. -/
theorem step?_listener_kept {move : Move ω} {e : QueueError} {locale : String}
    (possible : s.step? engine work move = some turn)
    (notice : Entry.notice? locale ⟨s.desk.controller, move, turn.answer, turn.effects⟩ = some e) :
    turn.after.desk.controller.listener = s.desk.controller.listener := by
  rw [step?_listener possible]
  cases move with
  | setListener listener =>
    cases possible
    cases notice
  | beginInit | answer | finishInit | submitUser | submitSystem | submit | shutDown | work => rfl

/-- A move tells what is to be told of it, and nothing else. -/
theorem step?_told {move : Move ω} (possible : s.step? engine work move = some turn) :
    Effect.told turn.effects = (Entry.addressed? s.desk.controller.setup.locale
      s.desk.controller.listener
      ⟨s.desk.controller, move, turn.answer, turn.effects⟩).toList := by
  rw [(step?_reports possible).told, Entry.addressed?]
  cases notice : Entry.notice? s.desk.controller.setup.locale
      ⟨s.desk.controller, move, turn.answer, turn.effects⟩ with
  | none => rfl
  | some e => rw [step?_listener_kept possible notice]

end Shared

/-- The effects of a move: with an error to report they end with one record of it and one message, if
anybody listens, and there is no other report among them. -/
def Entry.Logs (writes : Record → Prop) (listener : Option ListenerId) (entry : Entry ω) :
    Option QueueError → Prop
  | none => Quiet writes entry.effects
  | some e => ∃ before r, Quiet writes before ∧ r.Announces e ∧
      entry.effects = before ++ .record r :: (listener.map fun l => Effect.tell l e.message).toList

/-- Every move logs what it is to report. -/
theorem Shared.step?_logs {engine : Engine σ} {work : ω → σ → σ × List Record} {s : Shared σ}
    {turn : Turn σ} {move : Move ω} (possible : s.step? engine work move = some turn) :
    let entry : Entry ω := ⟨s.desk.controller, move, turn.answer, turn.effects⟩
    entry.Logs (engine.Writes work) s.desk.controller.listener
      (entry.notice? s.desk.controller.setup.locale) := by
  intro entry
  have reports := Shared.step?_reports possible
  cases notice : entry.notice? s.desk.controller.setup.locale with
  | none =>
    rw [notice] at reports
    exact reports_none.mp reports
  | some e =>
    rw [notice] at reports
    obtain ⟨before, effects, quiet⟩ := reports
    -- The report comes from the controller after the move, which has the same listener.
    obtain ⟨r, same, announces⟩ :=
      announces_reportRecord turn.after.desk.controller.phase e
    refine ⟨before, r, quiet, announces, ?_⟩
    rw [← Shared.step?_listener_kept possible notice, ← same]
    exact effects

/-! ## Runs -/

section Runs

variable {engine : Engine σ} {work : ω → σ → σ × List Record} {setup : Controller.Setup} {state : σ}
  {s : Shared σ} {history : List (Entry ω)}

theorem Run.listener (run : Run engine work (.new setup state) s history) :
    s.desk.controller.listener = listenerAfter none history := by
  induction run with
  | nil => rfl
  | snoc run possible ih => rw [listenerAfter_snoc, ← ih, Shared.step?_listener possible]

/-- What a run tells is what is to be told of it. -/
theorem Run.told (run : Run engine work (.new setup state) s history) :
    history.flatMap (fun entry => Effect.told entry.effects) =
      addressed setup.locale none history := by
  induction run with
  | nil => rfl
  | snoc run possible ih =>
    rw [List.flatMap_append, ih, addressed_append, ← run.listener, List.flatMap_singleton,
      Shared.step?_told possible, (Course.of_run run).setup_eq]
    simp [addressed]

/-- A move tells of one thing at most. -/
theorem Run.told_single {start : Shared σ} (run : Run engine work start s history) :
    ∀ entry ∈ history, ∃ told : Option (ListenerId × String),
      Effect.told entry.effects = told.toList := by
  induction run with
  | nil => exact fun entry inside => absurd inside List.not_mem_nil
  | snoc run possible ih =>
    intro entry inside
    rcases List.mem_append.mp inside with before | now
    · exact ih entry before
    · obtain rfl := List.mem_singleton.mp now
      exact ⟨_, Shared.step?_told possible⟩

/-- The errors to report that do not end their operation. -/
def warnings (locale : String) (history : List (Entry ω)) : List QueueError :=
  (notices locale history).filter fun e => !e.isFatal

theorem warnings_snoc (locale : String) (history : List (Entry ω)) (entry : Entry ω) :
    warnings locale (history ++ [entry]) =
      warnings locale history ++ (entry.notice? locale).toList.filter fun e => !e.isFatal := by
  rw [warnings, notices, filterMap_snoc, List.filter_append]
  rfl

/-- Only the start that has returned can have given a warning. -/
theorem Run.single_warning (run : Run engine work (.new setup state) s history) :
    (warnings setup.locale history).length ≤ 1 ∧
      (¬ HasReturned history → warnings setup.locale history = []) := by
  induction run with
  | nil => exact ⟨Nat.zero_le 1, fun _ => rfl⟩
  | @snoc s history move turn run possible ih =>
    by_cases returns : ∃ place, move = .finishInit place
    · obtain ⟨place, rfl⟩ := returns
      -- The start was pending until now, so this is the first return and the only one.
      have notReturned : ¬ HasReturned history := by
        simp only [Shared.step?] at possible
        split at possible
        · next present =>
          exact ((Course.of_run run).pending (Course.awaited_of_getElem? present)).2
        · cases possible
      have returned := (hasReturned_snoc history
        ⟨s.desk.controller, .finishInit place, turn.answer, turn.effects⟩).mpr (.inr ⟨place, rfl⟩)
      refine ⟨?_, fun notYet => absurd returned notYet⟩
      rw [warnings_snoc, ih.2 notReturned, List.nil_append]
      exact Nat.le_trans (List.length_filter_le ..) (Option.length_toList_le)
    · have noReturn : ∀ place, move ≠ .finishInit place := fun place same => returns ⟨place, same⟩
      have silent : (Entry.notice? setup.locale
          ⟨s.desk.controller, move, turn.answer, turn.effects⟩).toList.filter
            (fun e => !e.isFatal) = [] := by
        cases notice : Entry.notice? setup.locale
            ⟨s.desk.controller, move, turn.answer, turn.effects⟩ with
        | none => rfl
        | some e => simp [Shared.step?_fatal possible noReturn notice]
      rw [warnings_snoc, silent, List.append_nil, hasReturned_snoc]
      exact ⟨ih.1, fun notReturned => ih.2 fun before => notReturned (.inl before)⟩

/-- How errors are reported along a run. -/
structure ReportsErrors (engine : Engine σ) (work : ω → σ → σ × List Record)
    (setup : Controller.Setup) (history : List (Entry ω)) : Prop where
  /-- The messages are those that are due, in order, and each goes to the listener set last. -/
  told : history.flatMap (fun entry => Effect.told entry.effects) =
    addressed setup.locale none history
  /-- All listeners hear of theirs at once, and nobody hears of anything else. -/
  heard : ∀ listeners : List (String × Bool),
    ((Audience.ofListeners listeners).hearAll (history.map Entry.effects)).1 =
      (addressed setup.locale none history).filterMap fun (id, message) =>
        listeners[id]?.map fun listener => (listener.1, message)
  /-- With each message goes one record, and there is no record of an error otherwise. -/
  logged : ∀ earlier entry later, history = earlier ++ entry :: later →
    entry.Logs (engine.Writes work) (listenerAfter none earlier) (entry.notice? setup.locale)
  /-- At most one start succeeds in a language that cannot be spoken. -/
  warned : (warnings setup.locale history).length ≤ 1

/-- Whatever tasks do and whatever the engine is, every error is reported once, to the listener of the
moment. -/
theorem reports_errors (run : Run engine work (.new setup state) s history) :
    ReportsErrors engine work setup history where
  told := run.told
  heard listeners := by
    rw [Audience.hearAll_told (Audience.isIdle_ofListeners listeners), List.flatMap_map, run.told]
    · simp only [Audience.name?_ofListeners, Option.map_map]
      rfl
    · intro effects inside
      obtain ⟨entry, within, rfl⟩ := List.mem_map.mp inside
      exact run.told_single entry within
  logged earlier entry later split := by
    obtain ⟨before, turn, reached, possible, same⟩ := run.entry split
    have logs := Shared.step?_logs possible
    rw [(Course.of_run reached).setup_eq, reached.listener, ← same] at logs
    exact logs
  warned := run.single_warning.1

/-- An error before anybody listens, one start on which another one comes in, a language that cannot be
spoken, and an utterance that is refused. The listener changes in between. -/
theorem reports_errors_of_change :
    ∃ s history, Run Scripted.engine (fun (_ : Unit) engine => (engine, []))
        (.new .default ⟨none, some (.rejected "busy"), .notSupported⟩) s history ∧
      addressed "en-US" none history =
        [(0, "This Language is not supported: en-US"), (1, "Speak failed: Speak rejected: busy")] ∧
      ReportsErrors Scripted.engine (fun (_ : Unit) engine => (engine, [])) .default history := by
  let start : Shared Scripted := .new .default ⟨none, some (.rejected "busy"), .notSupported⟩
  have early : Run Scripted.engine (fun (_ : Unit) engine => (engine, [])) start _ _ :=
    .snoc .nil (show start.step? _ _ (.submitSystem (.supply 0) "hello") = some _ from rfl)
  have first := early.snoc (show Shared.step? _ _ _ (.setListener 0) = some _ from rfl)
  have begun := first.snoc (show Shared.step? _ _ _ .beginInit = some _ from rfl)
  have silent := begun.snoc (show Shared.step? _ _ _ .beginInit = some _ from rfl)
  have warned := silent.snoc (show Shared.step? _ _ _ (.finishInit 0) = some _ from rfl)
  have second := warned.snoc (show Shared.step? _ _ _ (.setListener 1) = some _ from rfl)
  have refused := second.snoc
    (show Shared.step? _ _ _ (.submitSystem (.supply 1) "hello") = some _ from rfl)
  exact ⟨_, _, refused, rfl, reports_errors refused⟩

end Runs

end SpeechQueue
