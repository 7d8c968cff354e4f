import SpeechQueue.Proofs.SharedDesk

/-! # What a step reports

A step of a controller makes calls, keeps records and tells its listener. Here it is shown that all
it tells is one error, at its end, with one record of it, and only if the step fails or the language
cannot be spoken: `Shared.step?_reports`. -/

namespace SpeechQueue

variable {σ ω : Type}

/-! ## Effects that tell nothing -/

/-- The record is that of an error that the controller reports. -/
def Record.isReport (r : Record) : Bool :=
  r.target == Controller.target && (r.message == "TTS error" || r.message == "TTS warning")

/-- The records that an engine can write, when it is called and by its own work. -/
inductive Engine.Writes (engine : Engine σ) (work : ω → σ → σ × List Record) (r : Record) : Prop
  | start (state : σ) : r ∈ (engine.start state).2.2 → Engine.Writes engine work r
  | finishStart (state : σ) : r ∈ (engine.finishStart state).2.2 → Engine.Writes engine work r
  | speak (speech : Speech) (state : σ) : r ∈ (engine.speak speech state).2.2 →
      Engine.Writes engine work r
  | shutDown (state : σ) : r ∈ (engine.shutDown state).2 → Engine.Writes engine work r
  | work (label : ω) (state : σ) : r ∈ (work label state).2 → Engine.Writes engine work r

/-- The effect is no report: nobody is told of anything, and a record is the engine's own or about
something else. -/
def Effect.IsQuiet (writes : Record → Prop) : Effect → Prop
  | .call _ => True
  | .record r => writes r ∨ r.isReport = false
  | .background r => writes r
  | .tell _ _ => False

/-- There is no report among the effects. -/
def Quiet (writes : Record → Prop) (effects : List Effect) : Prop :=
  ∀ effect ∈ effects, effect.IsQuiet writes

/-- The effects end with the controller's report of an error, if there is one, and there is no other
report among them. -/
def Controller.Reports (writes : Record → Prop) (c : Controller) (error : Option QueueError)
    (effects : List Effect) : Prop :=
  ∃ before, effects = before ++ (error.map c.report).getD [] ∧ Quiet writes before

section Quiet

variable {writes : Record → Prop} {c : Controller} {first second effects : List Effect}

@[simp] theorem quiet_nil : Quiet writes [] := fun _ inside => absurd inside List.not_mem_nil

@[simp] theorem quiet_cons {effect : Effect} :
    Quiet writes (effect :: effects) ↔ effect.IsQuiet writes ∧ Quiet writes effects :=
  List.forall_mem_cons

@[simp] theorem quiet_append :
    Quiet writes (first ++ second) ↔ Quiet writes first ∧ Quiet writes second :=
  List.forall_mem_append

theorem quiet_records {records : List Record} (written : ∀ r ∈ records, writes r) :
    Quiet writes (records.map .record) := by
  intro effect inside
  obtain ⟨r, within, rfl⟩ := List.mem_map.mp inside
  exact .inl (written r within)

theorem quiet_background {records : List Record} (written : ∀ r ∈ records, writes r) :
    Quiet writes (records.map .background) := by
  intro effect inside
  obtain ⟨r, within, rfl⟩ := List.mem_map.mp inside
  exact written r within

/-- What the controller logs under any other title is no report. -/
@[simp] theorem isQuiet_log {level : Level} {message : String} {fields : List (String × FieldValue)}
    (noError : message ≠ "TTS error") (noWarning : message ≠ "TTS warning") :
    (Controller.log level message fields).IsQuiet writes := by
  refine .inr ?_
  simp [Record.isReport, noError, noWarning]

@[simp] theorem isQuiet_call (call : Call) : (Effect.call call).IsQuiet writes := trivial

theorem reports_none : c.Reports writes none effects ↔ Quiet writes effects := by
  constructor
  · rintro ⟨before, rfl, quiet⟩
    simpa using quiet
  · exact fun quiet => ⟨effects, (List.append_nil _).symm, quiet⟩

theorem reports_some (quiet : Quiet writes first) (e : QueueError) :
    c.Reports writes (some e) (first ++ c.report e) := ⟨first, rfl, quiet⟩

theorem Controller.Reports.after {error : Option QueueError} (reports : c.Reports writes error second)
    (quiet : Quiet writes first) : c.Reports writes error (first ++ second) := by
  obtain ⟨before, rfl, earlier⟩ := reports
  exact ⟨first ++ before, (List.append_assoc ..).symm, quiet_append.mpr ⟨quiet, earlier⟩⟩

end Quiet

/-! ## Operations -/

/-- The error of a result, if it is one. -/
def errorOf? {α : Type} : Except QueueError α → Option QueueError
  | .error e => some e
  | .ok _ => none

/-- The step reports the error that it ends with, and that is never a mere warning. -/
structure Outcome.ReportsError {α : Type} (writes : Record → Prop)
    (o : Outcome σ (Except QueueError α)) : Prop where
  reports : o.desk.controller.Reports writes (errorOf? o.result) o.effects
  fatal : ∀ e, errorOf? o.result = some e → e.isFatal = true

theorem QueueError.isFatal_ofSpeak (e : EngineError) : (ofSpeak e).isFatal = true := by
  cases e <;> rfl

namespace Desk

variable (engine : Engine σ) (work : ω → σ → σ × List Record) (d : Desk σ) (id : UtteranceId)
  (text : String) (mode : Mode)

/-- A submission that is refused before anything else is done reports why. -/
theorem fail_reports {α : Type} {e : QueueError}
    (refused : refusal? d.controller.phase = some e) :
    (d.fail e : Outcome σ (Except QueueError α)).ReportsError (engine.Writes work) where
  reports := ⟨[], rfl, quiet_nil⟩
  fatal := by
    rintro e ⟨⟩
    cases phase : d.controller.phase <;> rw [phase] at refused <;> cases refused <;> rfl

theorem quiet_speak (speech : Speech) (state : σ) :
    Quiet (engine.Writes work) ((engine.speak speech state).2.2.map .record) :=
  quiet_records fun _ inside => .speak speech state inside

theorem speakWithParameters_reports :
    (d.speakWithParameters engine id text mode).ReportsError (engine.Writes work) := by
  simp only [speakWithParameters]
  split
  · refine ⟨reports_some (by simp [quiet_speak]) _, ?_⟩
    rintro e ⟨⟩
    exact QueueError.isFatal_ofSpeak _
  · exact ⟨reports_none.mpr (by simp [quiet_speak]), nofun⟩

theorem resolvedRecord_quiet (r : Resolved) : Quiet (engine.Writes work) (resolvedRecord r) := by
  unfold resolvedRecord
  split <;> simp

theorem submitUser_reports :
    (d.submitUser engine id text mode).ReportsError (engine.Writes work) := by
  unfold submitUser
  split
  · next refused => exact fail_reports engine work d refused
  · obtain ⟨reports, fatal⟩ := speakWithParameters_reports engine work
      { d with controller := directedBy text d.controller } id text mode
    exact ⟨reports.after (resolvedRecord_quiet engine work _), fatal⟩

theorem submitSystem_reports :
    (d.submitSystem engine id text).ReportsError (engine.Writes work) := by
  unfold submitSystem
  split
  · next refused => exact fail_reports engine work d refused
  · dsimp only
    split
    · refine ⟨reports_some (by simp [quiet_speak]) _, ?_⟩
      rintro e ⟨⟩
      exact QueueError.isFatal_ofSpeak _
    · exact ⟨reports_none.mpr (by simp [quiet_speak]), nofun⟩

theorem submit_reports (source : Source) :
    (d.submit engine id text source).ReportsError (engine.Writes work) := by
  cases source with
  | user => exact submitUser_reports engine work d id text .add
  | system =>
    unfold submit
    dsimp only
    split
    · next refused => exact fail_reports engine work d refused
    · exact speakWithParameters_reports engine work d id text .add

/-- A wish to start that finds another start going on is not reported. -/
theorem beginInit_reports :
    let o := d.beginInit engine
    o.desk.controller.Reports (engine.Writes work)
      (match o.result with
      | .answered result => if d.controller.phase = .initializing then none else errorOf? result
      | _ => none) o.effects := by
  have written : ∀ state, Quiet (engine.Writes work) ((engine.start state).2.2.map .record) :=
    fun state => quiet_records fun r inside => .start state inside
  simp only [beginInit]
  cases phase : d.controller.phase with
  | closed => exact ⟨[], rfl, quiet_nil⟩
  | ready => exact reports_none.mpr quiet_nil
  | initializing => exact reports_none.mpr (by simp)
  | uninitialized =>
    cases d.controller.attempted with
    | true => exact ⟨[], rfl, quiet_nil⟩
    | false =>
      cases (engine.start d.engine).1 with
      | answered | awaited =>
        refine reports_none.mpr ?_
        simp [written]

/-- A wish to start that is answered with an error is answered with a grave one. -/
theorem beginInit_fatal {result : Except QueueError LanguageStatus} {e : QueueError}
    (answered : (d.beginInit engine).result = .answered result)
    (failed : errorOf? result = some e) : e.isFatal = true := by
  unfold beginInit at answered
  cases phase : d.controller.phase with
  | closed | ready | initializing =>
    simp only [phase, Begun.answered.injEq] at answered
    subst answered
    cases failed <;> rfl
  | uninitialized =>
    cases attempted : d.controller.attempted with
    | true =>
      simp only [phase, attempted, if_true, Begun.answered.injEq] at answered
      subst answered
      cases failed
      rfl
    | false => exact absurd answered (d.beginInit_begun engine ⟨phase, attempted⟩ result)

/-- A start that succeeds is reported when the language cannot be spoken. -/
theorem finishInit_reports (result : Except EngineError Unit) :
    let o := d.finishInit engine result
    o.desk.controller.Reports (engine.Writes work)
      (match o.result with
      | .error e => some e
      | .ok status =>
        if status.isUsable then none else some (.unsupportedLanguage d.controller.setup.locale))
      o.effects := by
  by_cases closed : d.controller.phase = .closed
  · simp only [finishInit, closed, if_true]
    exact ⟨[_], rfl, by simp⟩
  · simp only [finishInit, closed, if_false]
    cases result with
    | error e => exact ⟨[], rfl, quiet_nil⟩
    | ok =>
      dsimp only
      by_cases usable : (engine.setLanguage d.controller.setup.locale d.engine).1.isUsable = true
      · simp only [usable, if_true]
        exact reports_none.mpr (by simp)
      · simp only [usable]
        exact ⟨[_, _], rfl, by simp⟩

theorem shutDown_quiet : Quiet (engine.Writes work) (d.shutDown engine).effects := by
  have written : ∀ state, Quiet (engine.Writes work) ((engine.shutDown state).2.map .record) :=
    fun state => quiet_records fun r inside => .shutDown state inside
  unfold shutDown
  split <;> simp [written]

end Desk

/-! ## Moves -/

/-- The error that a move is to report: that of a call that fails, unless a wish to start has found
another start going on, and that of a start that succeeds in a language that cannot be spoken. -/
def Entry.notice? (locale : String) (entry : Entry ω) : Option QueueError :=
  match entry.move, entry.answer with
  | .beginInit, some (.started result) =>
    if entry.found.phase = .initializing then none else errorOf? result
  | .finishInit _, some (.started (.error e)) => some e
  | .finishInit _, some (.started (.ok status)) =>
    if status.isUsable then none else some (.unsupportedLanguage locale)
  | _, some (.submitted result) => errorOf? result
  | _, _ => none

/-- Every move reports what it is to report, and nothing else. -/
theorem Shared.step?_reports {engine : Engine σ} {work : ω → σ → σ × List Record} {s : Shared σ}
    {turn : Turn σ} {move : Move ω} (possible : s.step? engine work move = some turn) :
    turn.after.desk.controller.Reports (engine.Writes work)
      (Entry.notice? s.desk.controller.setup.locale
        ⟨s.desk.controller, move, turn.answer, turn.effects⟩) turn.effects := by
  cases move with
  | beginInit =>
    cases possible
    have reports := Desk.beginInit_reports engine work s.desk
    cases begun : (s.desk.beginInit engine).result with
    | answered | started | awaited =>
      simpa only [turnOfBegun, begun, Entry.notice?] using reports
  | answer place =>
    simp only [step?] at possible
    split at possible
    · cases possible
      exact reports_none.mpr (quiet_records fun r inside => .finishStart _ inside)
    · cases possible
  | finishInit place =>
    simp only [step?] at possible
    split at possible
    · next result present =>
      cases possible
      have reports := Desk.finishInit_reports engine work s.desk result
      cases ended : (s.desk.finishInit engine result).result with
      | error | ok => simpa only [ended, Entry.notice?] using reports
    · cases possible
  | submitUser id text mode =>
    cases possible
    exact (Desk.submitUser_reports engine work s.desk id text mode).reports
  | submitSystem id text =>
    cases possible
    exact (Desk.submitSystem_reports engine work s.desk id text).reports
  | submit id text source =>
    cases possible
    exact (Desk.submit_reports engine work s.desk id text source).reports
  | setListener listener =>
    cases possible
    exact reports_none.mpr quiet_nil
  | shutDown =>
    cases possible
    exact reports_none.mpr (Desk.shutDown_quiet engine work s.desk)
  | work label =>
    cases possible
    exact reports_none.mpr (quiet_background fun r inside => .work label _ inside)

/-- An error that a call returns is never a mere warning; a start that has ended can give one. -/
theorem Shared.step?_fatal {engine : Engine σ} {work : ω → σ → σ × List Record} {s : Shared σ}
    {turn : Turn σ} {move : Move ω} {e : QueueError} {locale : String}
    (possible : s.step? engine work move = some turn)
    (noReturn : ∀ place, move ≠ .finishInit place)
    (notice : Entry.notice? locale ⟨s.desk.controller, move, turn.answer, turn.effects⟩ = some e) :
    e.isFatal = true := by
  cases move with
  | beginInit =>
    cases possible
    cases begun : (s.desk.beginInit engine).result with
    | answered result =>
      simp only [turnOfBegun, begun, Entry.notice?] at notice
      split at notice
      · cases notice
      · exact Desk.beginInit_fatal engine s.desk begun notice
    | started | awaited => simp [turnOfBegun, begun, Entry.notice?] at notice
  | finishInit place => exact absurd rfl (noReturn place)
  | submitUser id text mode =>
    cases possible
    exact (Desk.submitUser_reports engine work s.desk id text mode).fatal e notice
  | submitSystem id text =>
    cases possible
    exact (Desk.submitSystem_reports engine work s.desk id text).fatal e notice
  | submit id text source =>
    cases possible
    exact (Desk.submit_reports engine work s.desk id text source).fatal e notice
  | answer place =>
    simp only [step?] at possible
    split at possible <;> cases possible
    cases notice
  | setListener | shutDown | work =>
    cases possible
    cases notice

end SpeechQueue
