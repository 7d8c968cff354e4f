import SpeechQueue.Proofs.SpokenOnce

/-! # Who is let in

A submission is let in by the phase of the controller alone. `Shared.step?_refused` says what becomes
of one that is not, and `Shared.step?_ready` what becomes of one that is: only the engine's answer
decides then. Main statement: `gates_submissions`, with what it means that closed is the last phase. -/

namespace SpeechQueue

variable {σ ω : Type}

/-! ## What is handed over -/

namespace Submission

/-- The utterance that the engine is asked to speak, with the given parameters. -/
def speech (p : Parameters) (s : Submission) : Speech where
  text := s.text
  mode := s.mode
  attributes := if s.carries then some ((Attributes.empty.withVolume p.volume).withId s.id) else none

/-- The receipt of the submission, if it is accepted. -/
def receipt (p : Parameters) (s : Submission) : Receipt :=
  ⟨s.id, s.mode, if s.carries then some p else none⟩

/-- What the submitter is told of the engine's answer. -/
def verdict (p : Parameters) (s : Submission) :
    Except EngineError Unit → Except QueueError Receipt
  | .error e => .error (.ofSpeak e)
  | .ok () => .ok (s.receipt p)

/-- The engine's answer to the utterance, and its state then. Rate and pitch are set first, if the
utterance goes with parameters. -/
def offer (engine : Engine σ) (p : Parameters) (s : Submission) (state : σ) :
    Except EngineError Unit × σ :=
  let dialled := if s.carries then engine.setPitch p.pitch (engine.setRate p.rate state) else state
  let (answer, state, _) := engine.speak (s.speech p) dialled
  (answer, state)

/-- An engine's refusal is never told as one of the controller's own. -/
theorem verdict_ne (p : Parameters) (s : Submission) (answer : Except EngineError Unit) :
    s.verdict p answer ≠ .error .notReady ∧ s.verdict p answer ≠ .error .closed := by
  cases answer with
  | ok => exact ⟨nofun, nofun⟩
  | error e => cases e <;> exact ⟨nofun, nofun⟩

end Submission

/-- The parameters that a submission is made with: the user's text directs them first. -/
def Move.directs (c : Controller) (move : Move ω) : Parameters :=
  resolvedFrom c.parameters move.userText?.toList

namespace Desk

variable (engine : Engine σ) (d : Desk σ) (id : UtteranceId) (text : String) (mode : Mode)

/-- With an utterance that carries parameters, only the engine's state changes. -/
theorem speakWithParameters_offer :
    let submission : Submission := ⟨id, text, mode, true⟩
    let offered := submission.offer engine d.controller.parameters d.engine
    let o := d.speakWithParameters engine id text mode
    o.result = submission.verdict d.controller.parameters offered.1 ∧
      o.desk = { d with engine := offered.2 } := by
  simp only [speakWithParameters, Submission.offer, Submission.speech, if_true]
  split <;> simp_all [Submission.verdict, Submission.receipt]

/-- A controller that is ready offers the user's utterance with the parameters that it leads to. -/
theorem submitUser_offer (ready : d.controller.phase = .ready) :
    let submission : Submission := ⟨id, text, mode, true⟩
    let p := resolveParameters text d.controller.parameters
    let offered := submission.offer engine p d.engine
    let o := d.submitUser engine id text mode
    o.result = submission.verdict p offered.1 ∧
      o.desk = ⟨{ d.controller with parameters := p }, offered.2⟩ := by
  have spoken := speakWithParameters_offer engine ⟨directedBy text d.controller, d.engine⟩ id text mode
  unfold submitUser
  rw [(refusal?_eq_none_iff _).mpr ready]
  exact spoken

/-- It offers the program's utterance at once, with no parameters. -/
theorem submitSystem_offer (ready : d.controller.phase = .ready) :
    let submission : Submission := ⟨id, text, .flush, false⟩
    let offered := submission.offer engine d.controller.parameters d.engine
    let o := d.submitSystem engine id text
    o.result = submission.verdict d.controller.parameters offered.1 ∧
      o.desk = { d with engine := offered.2 } := by
  simp only [submitSystem, ready, refusal?, Submission.offer, Submission.speech]
  split <;> simp_all [Submission.verdict, Submission.receipt]

variable (ω) in
/-- An utterance of either source is added, and carries the parameters that its move leads to. -/
theorem submit_offer (source : Source) (ready : d.controller.phase = .ready) :
    let submission : Submission := ⟨id, text, .add, true⟩
    let p := (Move.submit id text source : Move ω).directs d.controller
    let offered := submission.offer engine p d.engine
    let o := d.submit engine id text source
    o.result = submission.verdict p offered.1 ∧
      o.desk = ⟨{ d.controller with parameters := p }, offered.2⟩ := by
  cases source with
  | user => exact submitUser_offer engine d id text .add ready
  | system =>
    unfold submit
    dsimp only
    rw [(refusal?_eq_none_iff _).mpr ready]
    exact speakWithParameters_offer engine d id text .add

end Desk

namespace Shared

variable {engine : Engine σ} {work : ω → σ → σ × List Record} {s t : Shared σ} {turn : Turn σ}
  {move : Move ω} {submission : Submission}

/-- A submission to a controller that is ready is offered to the engine, whose answer decides. Of the
controller only the parameters can change, and they do so whatever the answer is. -/
theorem step?_ready (engine : Engine σ) (work : ω → σ → σ × List Record)
    (submits : move.submission? = some submission) (ready : s.desk.controller.phase = .ready) :
    let p := move.directs s.desk.controller
    let offered := submission.offer engine p s.desk.engine
    ∃ effects, s.step? engine work move =
      some ⟨⟨⟨{ s.desk.controller with parameters := p }, offered.2⟩, s.starting⟩,
        some (.submitted (submission.verdict p offered.1)), effects⟩ := by
  cases move with
  | submitUser id text mode =>
    cases submits
    obtain ⟨result, desk⟩ := Desk.submitUser_offer engine s.desk id text mode ready
    exact ⟨_, by rw [step?, turn, result, desk]; rfl⟩
  | submitSystem id text =>
    cases submits
    obtain ⟨result, desk⟩ := Desk.submitSystem_offer engine s.desk id text ready
    exact ⟨_, by rw [step?, turn, result, desk]; rfl⟩
  | submit id text source =>
    cases submits
    obtain ⟨result, desk⟩ := Desk.submit_offer ω engine s.desk id text source ready
    exact ⟨_, by rw [step?, turn, result, desk]⟩
  | beginInit | answer | finishInit | setListener | shutDown | work => cases submits

theorem isSubmission_of_submission? (submits : move.submission? = some submission) :
    move.isSubmission = true := by
  cases move <;> first | rfl | cases submits

/-! ## Closed for good -/

/-- Of a controller that is closed a move changes nothing but the listener. -/
theorem step?_of_closed (closed : s.desk.controller.phase = .closed)
    (possible : s.step? engine work move = some turn) :
    turn.after.desk.controller =
      { s.desk.controller with listener := turn.after.desk.controller.listener } := by
  cases move with
  | submitUser | submitSystem | submit =>
    have refused : Desk.refusal? s.desk.controller.phase = some .closed := by rw [closed]; rfl
    rw [step?_refused rfl refused] at possible
    cases possible
    rfl
  | beginInit =>
    obtain ⟨effects, answered, -⟩ := step?_beginInit engine work s (.inl (by simp [closed]))
    rw [answered] at possible
    cases possible
    rfl
  | answer place =>
    simp only [step?] at possible
    split at possible
    · cases possible
      rfl
    · cases possible
  | finishInit place =>
    simp only [step?] at possible
    split at possible
    · cases possible
      rw [Desk.finishInit_controller, Desk.finished.eq_def, if_pos closed]
    · cases possible
  | setListener listener =>
    cases possible
    rfl
  | shutDown =>
    cases possible
    simp only [Shared.turn, Desk.shutDown_controller, ← closed]
  | work label =>
    cases possible
    rfl

end Shared

/-- Whatever follows, a controller that is closed changes in nothing but its listener. -/
theorem Run.of_closed {engine : Engine σ} {work : ω → σ → σ × List Record} {s t : Shared σ}
    {later : List (Entry ω)} (run : Run engine work s t later)
    (closed : s.desk.controller.phase = .closed) :
    t.desk.controller = { s.desk.controller with listener := t.desk.controller.listener } := by
  induction run with
  | nil => rfl
  | snoc _ possible ih =>
    have still := (congrArg Controller.phase ih).trans closed
    rw [Shared.step?_of_closed still possible, ih]

/-! ## The gate -/

/-- How a submission is answered, by the phase in which it finds the controller. -/
structure IsGated (engine : Engine σ) (s : Shared σ) (move : Move ω) (submission : Submission)
    (turn : Turn σ) : Prop where
  notReady_iff : turn.answer = some (.submitted (.error .notReady)) ↔
    s.desk.controller.phase = .uninitialized ∨ s.desk.controller.phase = .initializing
  closed_iff : turn.answer = some (.submitted (.error .closed)) ↔
    s.desk.controller.phase = .closed
  /-- One that is not let in changes nothing, and the engine does not hear of it. -/
  refused : s.desk.controller.phase ≠ .ready →
    turn.after = s ∧ ∀ call, .call call ∉ turn.effects
  /-- One that is let in is answered as the engine has it, and the controller stays ready. -/
  ready : s.desk.controller.phase = .ready →
    turn.after.desk.controller.phase = .ready ∧
      turn.answer = some (.submitted (submission.verdict (move.directs s.desk.controller)
        (submission.offer engine (move.directs s.desk.controller) s.desk.engine).1))

/-- A desk lets submissions in by its phase alone, and once it is closed this is the end of it. -/
structure GatesSubmissions (engine : Engine σ) (work : ω → σ → σ × List Record) (s : Shared σ) :
    Prop where
  gated : ∀ (move : Move ω) submission, move.submission? = some submission →
    ∃ turn, s.step? engine work move = some turn ∧ IsGated engine s move submission turn
  closed : s.desk.controller.phase = .closed → ∀ t later, Run engine work s t later →
    t.desk.controller.phase = .closed ∧
      t.desk.controller.parameters = s.desk.controller.parameters ∧
      t.desk.controller.language = s.desk.controller.language

/-- A report calls nobody. -/
theorem not_call_of_report (c : Controller) (e : QueueError) (call : Call) :
    .call call ∉ c.report e := by
  cases listener : c.listener <;> simp [Controller.report, Controller.reportRecord, Controller.log,
    listener]

theorem isGated_of_refused {engine : Engine σ} {s : Shared σ} {move : Move ω}
    {submission : Submission} {e : QueueError}
    (refused : Desk.refusal? s.desk.controller.phase = some e) :
    IsGated engine s move submission
      ⟨s, some (.submitted (.error e)), s.desk.controller.report e⟩ := by
  have other : s.desk.controller.phase ≠ .ready := by
    rw [Ne, ← Desk.refusal?_eq_none_iff, refused]
    exact Option.some_ne_none e
  refine ⟨?_, ?_, fun _ => ⟨rfl, not_call_of_report _ e⟩, fun ready => absurd ready other⟩
  · cases phase : s.desk.controller.phase <;> rw [phase] at refused <;> cases refused <;> simp
  · cases phase : s.desk.controller.phase <;> rw [phase] at refused <;> cases refused <;> simp

theorem isGated_of_ready {engine : Engine σ} {s : Shared σ} {move : Move ω}
    {submission : Submission} (ready : s.desk.controller.phase = .ready) {turn : Turn σ}
    (stays : turn.after.desk.controller.phase = .ready)
    (answer : turn.answer = some (.submitted (submission.verdict (move.directs s.desk.controller)
      (submission.offer engine (move.directs s.desk.controller) s.desk.engine).1))) :
    IsGated engine s move submission turn := by
  obtain ⟨notReady, notClosed⟩ := submission.verdict_ne (move.directs s.desk.controller)
    (submission.offer engine (move.directs s.desk.controller) s.desk.engine).1
  refine ⟨?_, ?_, fun other => absurd ready other, fun _ => ⟨stays, answer⟩⟩
  · simp [answer, ready, notReady]
  · simp [answer, ready, notClosed]

/-- Whatever the engine is, and in whatever state it is and the controller. -/
theorem gates_submissions (engine : Engine σ) (work : ω → σ → σ × List Record) (s : Shared σ) :
    GatesSubmissions engine work s where
  gated move submission submits := by
    cases refusal : Desk.refusal? s.desk.controller.phase with
    | some e =>
      exact ⟨_, Shared.step?_refused (Shared.isSubmission_of_submission? submits) refusal,
        isGated_of_refused refusal⟩
    | none =>
      have ready := (Desk.refusal?_eq_none_iff _).mp refusal
      obtain ⟨effects, possible⟩ := Shared.step?_ready engine work submits ready
      exact ⟨_, possible, isGated_of_ready ready ready rfl⟩
  closed closed t later run := by
    rw [run.of_closed closed]
    exact ⟨closed, rfl, rfl⟩

end SpeechQueue
