import SpeechQueue.Proofs.ErrorReports
import SpeechQueue.Proofs.Gate
import SpeechQueue.Proofs.Projection

/-! # Engines that oblige

An engine obliges a controller if it starts after a given time and then speaks all it is given, up to
a number of utterances. Besides the records that it writes, a controller cannot tell such an engine from
one that has no state at all: every step of the controller gives the same with the two
(`Outcome.Matches`), and leaves an engine that still obliges. -/

namespace SpeechQueue

variable {σ : Type}

/-- The engine without a state: it starts after a delay and speaks everything. -/
def Engine.willing (delay : Duration) (language : LanguageStatus) : Engine Unit where
  start _ := (.awaited delay, (), [])
  finishStart _ := (some (.ok ()), (), [])
  setLanguage _ _ := (language, ())
  setRate _ _ := ()
  setPitch _ _ := ()
  speak _ _ := (.ok (), (), [])
  shutDown _ := ((), [])

/-- Nothing is done by the engine itself. -/
def noWork (_ : Empty) (s : σ) : σ × List Record := (s, [])

/-- An engine that answers like the one without a state, as long as it is treated as a controller
for one locale treats it and not given more utterances than it has room for. -/
structure Obliging (engine : Engine σ) (delay : Duration) (locale : String) (language : LanguageStatus)
    (room : Nat) where
  /-- Nobody has shut the engine down, and it has nothing to play. -/
  IsFresh : σ → Prop
  /-- It has nothing to play. -/
  IsSilent : σ → Prop
  /-- It was started, and takes so many utterances. -/
  Takes : Nat → σ → Prop
  silent : ∀ {s}, IsFresh s → IsSilent s
  fewer : ∀ {n s}, Takes (n + 1) s → Takes n s
  start : ∀ {s}, IsFresh s →
    (engine.start s).1 = .awaited delay ∧ IsFresh (engine.start s).2.1
  finishStart : ∀ {s}, IsSilent s → (engine.finishStart s).1 = some (.ok ())
  started : ∀ {s}, IsFresh s → Takes room (engine.finishStart s).2.1
  setLanguage : ∀ {n s}, Takes n s →
    (engine.setLanguage locale s).1 = language ∧ Takes n (engine.setLanguage locale s).2
  setRate : ∀ {n s} rate, Takes n s → Takes n (engine.setRate rate s)
  setPitch : ∀ {n s} pitch, Takes n s → Takes n (engine.setPitch pitch s)
  speak : ∀ {n s} speech, Takes (n + 1) s →
    (engine.speak speech s).1 = .ok () ∧ Takes n (engine.speak speech s).2.1
  shutDown : ∀ {s}, IsFresh s → IsSilent (engine.shutDown s).1
  settleFresh : ∀ {s} now, IsFresh s → IsFresh (engine.settle now s).1
  settleSilent : ∀ {s} now, IsSilent s → IsSilent (engine.settle now s).1
  settleTakes : ∀ {n s} now, Takes n s → Takes n (engine.settle now s).1
  due : ∀ {s}, IsSilent s → engine.due s = none
  backlog : ∀ {s}, IsSilent s → engine.backlog s = 0

theorem Obliging.takes_of_le {engine : Engine σ} {delay : Duration} {locale : String}
    {language : LanguageStatus} {room n m : Nat}
    (obliging : Obliging engine delay locale language room) (few : m ≤ n) {s : σ}
    (takes : obliging.Takes n s) : obliging.Takes m s :=
  Nat.decreasingInduction (fun _ _ => obliging.fewer) takes few

/-! ## What is left without the state of the engine -/

/-- A desk without the state of its engine. -/
def Desk.outline (d : Desk σ) : Desk Unit := d.project fun _ => ()

/-- A session without the state of its engine. -/
def Session.outline (s : Session σ) : Session Unit := s.project fun _ => ()

/-- A step with one engine is seen as a step with another. -/
structure Outcome.Matches {α : Type} (o : Outcome σ α) (p : Outcome Unit α) : Prop where
  result : o.result = p.result
  desk : o.desk.outline = p.desk
  told : Effect.told o.effects = Effect.told p.effects

namespace Effect

@[simp] theorem told_append (first second : List Effect) :
    told (first ++ second) = told first ++ told second := List.filterMap_append

@[simp] theorem told_records (records : List Record) : told (records.map .record) = [] :=
  List.filterMap_eq_nil_iff.mpr fun effect member => by
    obtain ⟨r, -, rfl⟩ := List.mem_map.mp member
    rfl

@[simp] theorem told_background (records : List Record) : told (records.map .background) = [] :=
  List.filterMap_eq_nil_iff.mpr fun effect member => by
    obtain ⟨r, -, rfl⟩ := List.mem_map.mp member
    rfl

end Effect

section Steps

variable {engine : Engine σ} {delay : Duration} {locale : String} {language : LanguageStatus}
  {room n : Nat} {d : Desk σ} {α : Type}

/-- What is told follows from the result, and from who listens. -/
theorem Outcome.Matches.of_reports {writes other : Record → Prop}
    {o : Outcome σ (Except QueueError α)} {p : Outcome Unit (Except QueueError α)}
    (first : o.ReportsError writes) (second : p.ReportsError other) (result : o.result = p.result)
    (controller : o.desk.controller = p.desk.controller) : o.Matches p where
  result := result
  desk := by rw [Desk.outline, Desk.project, controller]
  told := by rw [first.reports.told, second.reports.told, result, controller]

namespace Desk

theorem fail_matches (d : Desk σ) (e : QueueError) :
    (d.fail e : Outcome σ (Except QueueError α)).Matches (d.outline.fail e) := ⟨rfl, rfl, rfl⟩

/-- A wish to start that is not the first one is answered without the engine. -/
theorem beginInit_stale_matches (later : d.controller.phase ≠ .uninitialized) :
    let o := d.beginInit engine
    o.Matches (d.outline.beginInit (.willing delay language)) ∧ o.desk = d ∧
      ∃ result, o.result = .answered result := by
  have alike : ∃ result effects, d.beginInit engine = ⟨.answered result, d, effects⟩ ∧
      d.outline.beginInit (.willing delay language) = ⟨.answered result, d.outline, effects⟩ := by
    cases phase : d.controller.phase with
    | uninitialized => exact absurd phase later
    | initializing | ready | closed =>
      simp only [Desk.beginInit, Desk.outline, Desk.project, phase]
      exact ⟨_, _, rfl, rfl⟩
  obtain ⟨result, effects, answered, outlined⟩ := alike
  rw [answered, outlined]
  exact ⟨⟨rfl, rfl, rfl⟩, rfl, result, rfl⟩

/-- The result of a start is discarded by a controller that is closed by then. -/
theorem finishInit_closed_matches (closed : d.controller.phase = .closed) :
    let o := d.finishInit engine (.ok ())
    o.Matches (d.outline.finishInit (.willing delay language) (.ok ())) ∧ o.desk = d := by
  have discarded : ∃ effects, d.finishInit engine (.ok ()) = ⟨.error .closed, d, effects⟩ ∧
      d.outline.finishInit (.willing delay language) (.ok ()) =
        ⟨.error .closed, d.outline, effects⟩ := by
    simp only [Desk.finishInit, Desk.outline, Desk.project, closed, if_true]
    exact ⟨_, rfl, rfl⟩
  obtain ⟨effects, discarded, outlined⟩ := discarded
  rw [discarded, outlined]
  exact ⟨⟨rfl, rfl, rfl⟩, rfl⟩

/-- A shutdown closes the controller, and shuts the engine down unless the controller was closed. -/
theorem shutDown_matches (d : Desk σ) :
    (d.shutDown engine).Matches (d.outline.shutDown (.willing delay language)) where
  result := rfl
  desk := by
    rw [Desk.outline, Desk.project, Desk.shutDown_controller]
    exact congrArg (Desk.mk · ()) (Desk.shutDown_controller _ d.outline).symm
  told := by
    rw [(Desk.shutDown_quiet engine noWork d).told,
      (Desk.shutDown_quiet (.willing delay language) noWork d.outline).told]

theorem shutDown_engine (d : Desk σ) : (d.shutDown engine).desk.engine =
    if d.controller.phase = .closed then d.engine else (engine.shutDown d.engine).1 := by
  unfold Desk.shutDown
  split <;> rfl

end Desk

/-- The engine without a state accepts what it is offered. -/
theorem Submission.offer_willing (p : Parameters) (submission : Submission) :
    submission.offer (.willing delay language) p () = (.ok (), ()) := by
  cases carries : submission.carries <;> simp [offer, carries, Engine.willing]

/-- An engine that still takes an utterance accepts what it is offered. -/
theorem Obliging.offer (obliging : Obliging engine delay locale language room) (p : Parameters)
    (submission : Submission) {s : σ} (takes : obliging.Takes (n + 1) s) :
    (submission.offer engine p s).1 = .ok () ∧ obliging.Takes n (submission.offer engine p s).2 := by
  cases carries : submission.carries with
  | true =>
    simpa [Submission.offer, carries] using
      obliging.speak _ (obliging.setPitch p.pitch (obliging.setRate p.rate takes))
  | false => simpa [Submission.offer, carries] using obliging.speak _ takes

/-- A submission is seen as one to the engine without a state: refused at once, or accepted. -/
structure Obliging.Handles (obliging : Obliging engine delay locale language room) (n : Nat) (d : Desk σ)
    (o : Outcome σ (Except QueueError Receipt)) (p : Outcome Unit (Except QueueError Receipt)) :
    Prop where
  same : o.Matches p
  refused : d.controller.phase ≠ .ready → o.desk = d
  accepted : d.controller.phase = .ready →
    o.desk.controller.phase = .ready ∧ obliging.Takes n o.desk.engine

namespace Obliging

variable {o : Outcome σ (Except QueueError Receipt)} {p : Outcome Unit (Except QueueError Receipt)}
  {submission : Submission} {parameters : Parameters}

theorem handles_of_refused (obliging : Obliging engine delay locale language room)
    (other : d.controller.phase ≠ .ready)
    (refused : ∀ e, Desk.refusal? d.controller.phase = some e → o = d.fail e ∧ p = d.outline.fail e) :
    obliging.Handles n d o p := by
  obtain ⟨e, refusal⟩ := Desk.exists_refusal other
  obtain ⟨rfl, rfl⟩ := refused e refusal
  exact ⟨d.fail_matches e, fun _ => rfl, fun ready => absurd ready other⟩

theorem handles_of_offer (obliging : Obliging engine delay locale language room)
    (ready : d.controller.phase = .ready) (takes : obliging.Takes (n + 1) d.engine)
    {writes other : Record → Prop} (first : o.ReportsError writes) (second : p.ReportsError other)
    (offered : o.result = submission.verdict parameters (submission.offer engine parameters d.engine).1 ∧
      o.desk = ⟨{ d.controller with parameters := parameters },
        (submission.offer engine parameters d.engine).2⟩)
    (willing : p.result = submission.verdict parameters
        (submission.offer (.willing delay language) parameters ()).1 ∧
      p.desk = ⟨{ d.controller with parameters := parameters },
        (submission.offer (.willing delay language) parameters ()).2⟩) :
    obliging.Handles n d o p := by
  obtain ⟨accepted, left⟩ := obliging.offer parameters submission takes
  refine ⟨.of_reports first second ?_ ?_, fun other => absurd ready other, fun _ => ⟨?_, ?_⟩⟩
  · rw [offered.1, willing.1, accepted, Submission.offer_willing]
  · rw [offered.2, willing.2]
  · rw [offered.2]
    exact ready
  · rw [offered.2]
    exact left

variable (obliging : Obliging engine delay locale language room) (id : UtteranceId) (text : String)

theorem submitUser (takes : d.controller.phase = .ready → obliging.Takes (n + 1) d.engine)
    (mode : Mode) : obliging.Handles n d (d.submitUser engine id text mode)
      (d.outline.submitUser (.willing delay language) id text mode) := by
  by_cases ready : d.controller.phase = .ready
  · exact obliging.handles_of_offer ready (takes ready)
      (Desk.submitUser_reports engine noWork d id text mode)
      (Desk.submitUser_reports _ noWork d.outline id text mode)
      (Desk.submitUser_offer engine d id text mode ready)
      (Desk.submitUser_offer _ d.outline id text mode ready)
  · refine obliging.handles_of_refused ready fun e refusal => ⟨?_, ?_⟩
    · rw [Desk.submitUser, refusal]
    · rw [Desk.submitUser, show Desk.refusal? d.outline.controller.phase = some e from refusal]

theorem submitSystem (takes : d.controller.phase = .ready → obliging.Takes (n + 1) d.engine) :
    obliging.Handles n d (d.submitSystem engine id text)
      (d.outline.submitSystem (.willing delay language) id text) := by
  by_cases ready : d.controller.phase = .ready
  · exact obliging.handles_of_offer ready (takes ready)
      (Desk.submitSystem_reports engine noWork d id text)
      (Desk.submitSystem_reports _ noWork d.outline id text)
      (Desk.submitSystem_offer engine d id text ready)
      (Desk.submitSystem_offer _ d.outline id text ready)
  · refine obliging.handles_of_refused ready fun e refusal => ⟨?_, ?_⟩
    · rw [Desk.submitSystem, refusal]
    · rw [Desk.submitSystem, show Desk.refusal? d.outline.controller.phase = some e from refusal]

theorem submit (takes : d.controller.phase = .ready → obliging.Takes (n + 1) d.engine)
    (source : Source) : obliging.Handles n d (d.submit engine id text source)
      (d.outline.submit (.willing delay language) id text source) := by
  cases source with
  | user => exact obliging.submitUser id text takes .add
  | system =>
    by_cases ready : d.controller.phase = .ready
    · exact obliging.handles_of_offer ready (takes ready)
        (Desk.submit_reports engine noWork d id text .system)
        (Desk.submit_reports _ noWork d.outline id text .system)
        (Desk.submit_offer Empty engine d id text .system ready)
        (Desk.submit_offer Empty _ d.outline id text .system ready)
    · refine obliging.handles_of_refused ready fun e refusal => ⟨?_, ?_⟩
      · simp only [Desk.submit, refusal]
      · simp only [Desk.submit, show Desk.refusal? d.outline.controller.phase = some e from refusal]

/-- The first wish to start is awaited. -/
theorem beginInit_fresh (first : d.controller.phase = .uninitialized)
    (untried : d.controller.attempted = false) (fresh : obliging.IsFresh d.engine) :
    let o := d.beginInit engine
    o.Matches (d.outline.beginInit (.willing delay language)) ∧ o.result = .awaited delay ∧
      o.desk.controller.phase = .initializing ∧ o.desk.controller.setup = d.controller.setup ∧
      obliging.IsFresh o.desk.engine := by
  obtain ⟨awaited, still⟩ := obliging.start fresh
  have begun : d.beginInit engine = ⟨.awaited delay,
      ⟨{ d.controller with phase := .initializing, attempted := true }, (engine.start d.engine).2.1⟩,
      Controller.log .debug "Waiting for speech engine initialization" [] :: .call .start ::
        (engine.start d.engine).2.2.map .record⟩ := by
    simp [Desk.beginInit, first, untried, awaited]
  have willing : d.outline.beginInit (.willing delay language) = ⟨.awaited delay,
      ⟨{ d.controller with phase := .initializing, attempted := true }, ()⟩,
      [Controller.log .debug "Waiting for speech engine initialization" [], .call .start]⟩ := by
    simp [Desk.beginInit, Desk.outline, Desk.project, first, untried, Engine.willing]
  rw [begun, willing]
  refine ⟨⟨rfl, rfl, ?_⟩, rfl, rfl, rfl, still⟩
  exact Effect.told_records _

/-- A controller that is still open is ready when the engine has started. -/
theorem finishInit_open (stillOpen : d.controller.phase ≠ .closed)
    (chosen : d.controller.setup.locale = locale) (takes : obliging.Takes n d.engine) :
    let o := d.finishInit engine (.ok ())
    o.Matches (d.outline.finishInit (.willing delay language) (.ok ())) ∧
      o.desk.controller.phase = .ready ∧ obliging.Takes n o.desk.engine := by
  subst chosen
  obtain ⟨answer, still⟩ := obliging.setLanguage takes
  have outlined : d.outline.controller = d.controller := rfl
  have result : (d.finishInit engine (.ok ())).result =
      (d.outline.finishInit (.willing delay language) (.ok ())).result := by
    simp [Desk.finishInit, outlined, stillOpen, answer, Engine.willing]
  have controller : (d.finishInit engine (.ok ())).desk.controller =
      (d.outline.finishInit (.willing delay language) (.ok ())).desk.controller := by
    rw [Desk.finishInit_controller, Desk.finishInit_controller, outlined, answer]
    rfl
  have first := Desk.finishInit_reports engine noWork d (.ok ())
  have second := Desk.finishInit_reports (.willing delay language) noWork
    d.outline (.ok ())
  refine ⟨⟨result, ?_, ?_⟩, ?_, ?_⟩
  · rw [Desk.outline, Desk.project, controller]
  · rw [first.told, second.told, result, controller, outlined]
  · rw [Desk.finishInit_controller, Desk.finished.eq_def, if_neg stillOpen]
  · simpa [Desk.finishInit, stillOpen] using still

end Obliging

end Steps

end SpeechQueue
