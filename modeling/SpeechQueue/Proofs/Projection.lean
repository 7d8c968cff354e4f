import SpeechQueue.Session.Request

/-! # Engines that keep a record

An engine may carry more than another one needs: a record of what it did, say. When forgetting the
rest commutes with every operation, a session over the one engine replies as a session over the
other, with the same effects, and forgetting leads from the one state to the other. So what is
proved of the richer engine holds of the plain one. -/

namespace SpeechQueue

variable {σ τ : Type}

/-- Forgetting by `forget` commutes with every operation of two engines. -/
structure Engine.Projects (rich : Engine σ) (plain : Engine τ) (forget : σ → τ) : Prop where
  start (s : σ) : plain.start (forget s) =
    ((rich.start s).1, forget (rich.start s).2.1, (rich.start s).2.2)
  finishStart (s : σ) : plain.finishStart (forget s) =
    ((rich.finishStart s).1, forget (rich.finishStart s).2.1, (rich.finishStart s).2.2)
  setLanguage (locale : String) (s : σ) : plain.setLanguage locale (forget s) =
    ((rich.setLanguage locale s).1, forget (rich.setLanguage locale s).2)
  setRate (rate : Single) (s : σ) : plain.setRate rate (forget s) = forget (rich.setRate rate s)
  setPitch (pitch : Single) (s : σ) :
    plain.setPitch pitch (forget s) = forget (rich.setPitch pitch s)
  speak (speech : Speech) (s : σ) : plain.speak speech (forget s) =
    ((rich.speak speech s).1, forget (rich.speak speech s).2.1, (rich.speak speech s).2.2)
  shutDown (s : σ) : plain.shutDown (forget s) =
    (forget (rich.shutDown s).1, (rich.shutDown s).2)
  due (s : σ) : plain.due (forget s) = rich.due s
  backlog (s : σ) : plain.backlog (forget s) = rich.backlog s
  settle (now : Nat) (s : σ) : plain.settle now (forget s) =
    (forget (rich.settle now s).1, (rich.settle now s).2)

/-- The desk with only part of its engine's state. -/
def Desk.project (forget : σ → τ) (d : Desk σ) : Desk τ := ⟨d.controller, forget d.engine⟩

/-- The outcome with only part of the engine's state. -/
def Outcome.project {α : Type} (forget : σ → τ) (o : Outcome σ α) : Outcome τ α :=
  ⟨o.result, o.desk.project forget, o.effects⟩

/-- The session with only part of its engine's state. -/
def Session.project (forget : σ → τ) (s : Session σ) : Session τ where
  desk := s.desk.project forget
  now := s.now
  pending := s.pending
  ended := s.ended
  tickets := s.tickets
  unjoined := s.unjoined
  ids := s.ids

variable {rich : Engine σ} {plain : Engine τ} {forget : σ → τ}

/-! ## Steps of the controller -/

namespace Desk

theorem beginInit_project (projects : rich.Projects plain forget) (d : Desk σ) :
    (d.project forget).beginInit plain = (d.beginInit rich).project forget := by
  simp only [beginInit, project, projects.start]
  cases d.controller.phase with
  | closed | ready | initializing => rfl
  | uninitialized =>
    simp only
    split <;> rfl

theorem finishInit_project (projects : rich.Projects plain forget)
    (result : Except EngineError Unit) (d : Desk σ) :
    (d.project forget).finishInit plain result = (d.finishInit rich result).project forget := by
  simp only [finishInit, project, projects.setLanguage]
  split
  · rfl
  · cases result <;> rfl

theorem speakWithParameters_project (projects : rich.Projects plain forget) (id : UtteranceId)
    (text : String) (mode : Mode) (d : Desk σ) :
    (d.project forget).speakWithParameters plain id text mode =
      (d.speakWithParameters rich id text mode).project forget := by
  simp only [speakWithParameters, project, projects.setRate, projects.setPitch, projects.speak]
  split <;> simp_all [Outcome.project, project]

theorem submitUser_project (projects : rich.Projects plain forget) (id : UtteranceId)
    (text : String) (mode : Mode) (d : Desk σ) :
    (d.project forget).submitUser plain id text mode =
      (d.submitUser rich id text mode).project forget := by
  simp only [submitUser]
  rw [show (d.project forget).controller = d.controller from rfl]
  cases refusal? d.controller.phase with
  | some e => rfl
  | none =>
    let resolved := { d.controller with
      parameters := (resolve text d.controller.parameters).parameters }
    have spoken := speakWithParameters_project projects id text mode ⟨resolved, d.engine⟩
    simp only [project, resolved] at spoken ⊢
    rw [spoken]
    rfl

theorem submitSystem_project (projects : rich.Projects plain forget) (id : UtteranceId)
    (text : String) (d : Desk σ) :
    (d.project forget).submitSystem plain id text =
      (d.submitSystem rich id text).project forget := by
  simp only [submitSystem, project, projects.speak]
  cases refusal? d.controller.phase with
  | some e => rfl
  | none =>
    simp only
    split <;> simp_all [Outcome.project, project]

theorem submit_project (projects : rich.Projects plain forget) (id : UtteranceId) (text : String)
    (source : Source) (d : Desk σ) :
    (d.project forget).submit plain id text source =
      (d.submit rich id text source).project forget := by
  cases source with
  | user => exact d.submitUser_project projects id text .add
  | system =>
    simp only [submit]
    rw [show (d.project forget).controller = d.controller from rfl]
    cases refusal? d.controller.phase with
    | some e => rfl
    | none => exact d.speakWithParameters_project projects id text .add

theorem shutDown_project (projects : rich.Projects plain forget) (d : Desk σ) :
    (d.project forget).shutDown plain = (d.shutDown rich).project forget := by
  simp only [shutDown, project, projects.shutDown]
  split <;> rfl

end Desk

/-! ## Sessions -/

namespace Session

/-! A request to the engine is a call of it, and then the session settles. -/

theorem handle_engineSpeak (engine : Engine σ) (s : Session σ) (speech : Speech) :
    (s.handle engine (.engineSpeak speech)).1 = .spoken (engine.speak speech s.desk.engine).1 ∧
      (s.handle engine (.engineSpeak speech)).2.1 =
        ((s.withEngine (engine.speak speech s.desk.engine).2.1).advanceTo engine s.now).1 :=
  ⟨rfl, rfl⟩

theorem handle_engineSetRate (engine : Engine σ) (s : Session σ) (rate : Single) :
    (s.handle engine (.engineSetRate rate)).1 = .done ∧
      (s.handle engine (.engineSetRate rate)).2.1 =
        ((s.withEngine (engine.setRate rate s.desk.engine)).advanceTo engine s.now).1 :=
  ⟨rfl, rfl⟩

theorem handle_engineSetPitch (engine : Engine σ) (s : Session σ) (pitch : Single) :
    (s.handle engine (.engineSetPitch pitch)).1 = .done ∧
      (s.handle engine (.engineSetPitch pitch)).2.1 =
        ((s.withEngine (engine.setPitch pitch s.desk.engine)).advanceTo engine s.now).1 :=
  ⟨rfl, rfl⟩

theorem handle_engineShutDown (engine : Engine σ) (s : Session σ) :
    (s.handle engine .engineShutDown).1 = .done ∧
      (s.handle engine .engineShutDown).2.1 =
        ((s.withEngine (engine.shutDown s.desk.engine).1).advanceTo engine s.now).1 :=
  ⟨rfl, rfl⟩

theorem handle_advance (engine : Engine σ) (s : Session σ) (span : Duration) :
    (s.handle engine (.advance span)).1 = .done ∧
      (s.handle engine (.advance span)).2.1 =
        ((s.advanceTo engine (s.now + span.nanoseconds)).1.advanceTo engine
          (s.advanceTo engine (s.now + span.nanoseconds)).1.now).1 :=
  ⟨rfl, rfl⟩

theorem settle_project (projects : rich.Projects plain forget) (s : Session σ) :
    (s.project forget).settle plain =
      ((s.settle rich).1.project forget, (s.settle rich).2) := by
  simp only [settle, project, Desk.project, projects.settle]

theorem after_project {α : Type} (s : Session σ) (o : Outcome σ α) :
    (s.project forget).after (o.project forget) =
      ((s.after o).1, (s.after o).2.1.project forget, (s.after o).2.2) := rfl

theorem finishController_project (projects : rich.Projects plain forget) (ticket : Nat)
    (result : Except EngineError Unit) (s : Session σ) :
    (s.project forget).finishController plain ticket result =
      ((s.finishController rich ticket result).1.project forget,
        (s.finishController rich ticket result).2) := by
  have desk : (s.project forget).desk = s.desk.project forget := rfl
  simp only [finishController, desk, Desk.finishInit_project projects, after_project]
  rfl

theorem begin_project (projects : rich.Projects plain forget) (starter : Starter) (s : Session σ) :
    (s.project forget).begin plain starter =
      ((s.begin rich starter).1, (s.begin rich starter).2.1.project forget,
        (s.begin rich starter).2.2) := by
  cases starter with
  | controller =>
    simp only [begin, project, after, Desk.beginInit_project projects, Outcome.project]
    cases (s.desk.beginInit rich).result with
    | answered result => rfl
    | awaited delay => rfl
    | started result =>
      have finished := finishController_project projects s.tickets result
        { s with desk := (s.desk.beginInit rich).desk, tickets := s.tickets + 1 }
      simp only [project] at finished ⊢
      rw [finished]
  | engine =>
    simp only [begin, project, Desk.project, projects.start]
    cases (rich.start s.desk.engine).1 <;> rfl

theorem finish_project (projects : rich.Projects plain forget) (p : Pending) (s : Session σ) :
    (s.project forget).finish plain p =
      ((s.finish rich p).1.project forget, (s.finish rich p).2) := by
  simp only [finish, project, Desk.project, projects.finishStart]
  cases p.starter with
  | engine => cases (rich.finishStart s.desk.engine).1 <;> rfl
  | controller =>
    cases (rich.finishStart s.desk.engine).1 with
    | none => rfl
    | some result =>
      have finished := finishController_project projects p.ticket result { s with
        desk := { s.desk with engine := (rich.finishStart s.desk.engine).2.1 }
        pending := s.pending.filter (·.ticket ≠ p.ticket) }
      simp only [project, Desk.project] at finished ⊢
      rw [finished]

theorem tick_project (projects : rich.Projects plain forget) (s : Session σ) :
    (s.project forget).tick plain = ((s.tick rich).1.project forget, (s.tick rich).2) := by
  have pending : (s.project forget).pending = s.pending := rfl
  have now : (s.project forget).now = s.now := rfl
  simp only [tick, pending, now]
  cases s.pending.find? (·.due ≤ s.now) with
  | none => simp only [settle_project projects]
  | some p => simp only [finish_project projects, settle_project projects]

theorem due_project (projects : rich.Projects plain forget) (s : Session σ) :
    (s.project forget).due plain = s.due rich := by
  simp only [due, project, Desk.project, projects.due]

theorem moveTo_project (projects : rich.Projects plain forget) (target stops : Nat)
    (s : Session σ) :
    (s.project forget).moveTo plain target stops =
      ((s.moveTo rich target stops).1.project forget, (s.moveTo rich target stops).2) := by
  induction stops generalizing s with
  | zero => rfl
  | succ stops ih =>
    simp only [moveTo, due_project projects]
    cases s.due rich with
    | none => rfl
    | some due =>
      simp only
      split
      · have ticked := tick_project projects { s with now := max s.now due }
        simp only [project] at ticked ih ⊢
        simp only [ticked, ih]
      · rfl

theorem advanceTo_project (projects : rich.Projects plain forget) (target : Nat) (s : Session σ) :
    (s.project forget).advanceTo plain target =
      ((s.advanceTo rich target).1.project forget, (s.advanceTo rich target).2) := by
  simp only [advanceTo, settle_project projects]
  have stops (s : Session σ) : (s.project forget).pending.length +
      plain.backlog (s.project forget).desk.engine =
        s.pending.length + rich.backlog s.desk.engine :=
    congrArg (s.pending.length + ·) (projects.backlog s.desk.engine)
  simp only [stops, moveTo_project projects]

theorem waitFor_project (projects : rich.Projects plain forget) (ticket : Nat) (s : Session σ) :
    (s.project forget).waitFor plain ticket =
      ((s.waitFor rich ticket).1, (s.waitFor rich ticket).2.1.project forget,
        (s.waitFor rich ticket).2.2) := by
  have pending : (s.project forget).pending = s.pending := rfl
  simp only [waitFor, pending]
  cases s.pending.find? (·.ticket = ticket) with
  | none => rfl
  | some p => simp only [advanceTo_project projects]; rfl

theorem submitUser_project (projects : rich.Projects plain forget) (text : String) (mode : Mode)
    (s : Session σ) :
    (s.project forget).submitUser plain text mode =
      ((s.submitUser rich text mode).1, (s.submitUser rich text mode).2.1.project forget,
        (s.submitUser rich text mode).2.2) := by
  simp only [submitUser, freshId, project, after, Desk.submitUser_project projects, Outcome.project]

theorem submitAll_project (projects : rich.Projects plain forget) (texts : List String)
    (s : Session σ) :
    (s.project forget).submitAll plain texts =
      ((s.submitAll rich texts).1, (s.submitAll rich texts).2.1.project forget,
        (s.submitAll rich texts).2.2) := by
  induction texts generalizing s with
  | nil => rfl
  | cons text rest ih => simp only [submitAll, submitUser_project projects, ih]

theorem perform_project (projects : rich.Projects plain forget) (request : Request)
    (s : Session σ) :
    (s.project forget).perform plain request =
      ((s.perform rich request).1, (s.perform rich request).2.1.project forget,
        (s.perform rich request).2.2) := by
  have desk : (s.project forget).desk = s.desk.project forget := rfl
  cases request with
  | init | engineInit =>
    simp only [perform, startAndWait, begin_project projects, waitFor_project projects]
  | spawnInit =>
    simp only [perform, begin_project projects]
    rfl
  | joinInit =>
    obtain ⟨d, now, pending, ended, tickets, unjoined, ids⟩ := s
    cases unjoined with
    | nil => rfl
    | cons ticket rest =>
      have waited := waitFor_project projects ticket ⟨d, now, pending, ended, tickets, rest, ids⟩
      simp only [perform, project] at waited ⊢
      rw [waited]
  | advance span =>
    simp only [perform, advanceTo_project projects]
    rfl
  | submitUser text mode => simp only [perform, submitUser_project projects]
  | submitAll texts => simp only [perform, submitAll_project projects]
  | submitSystem text =>
    simp only [perform, freshId, project, after, Desk.submitSystem_project projects,
      Outcome.project]
  | submit text source =>
    simp only [perform, freshId, project, after, Desk.submit_project projects, Outcome.project]
  | shutDown => simp only [perform, project, after, Desk.shutDown_project projects, Outcome.project]
  | isReady => rfl
  | engineSpeak speech =>
    simp only [perform, desk, Desk.project, projects.speak]
    rfl
  | engineSetLanguage locale =>
    simp only [perform, desk, Desk.project, projects.setLanguage]
    rfl
  | engineSetRate rate =>
    simp only [perform, desk, Desk.project, projects.setRate]
    rfl
  | engineSetPitch pitch =>
    simp only [perform, desk, Desk.project, projects.setPitch]
    rfl
  | engineShutDown =>
    simp only [perform, desk, Desk.project, projects.shutDown]
    rfl

/-- Handles requests in turn. -/
def replay (engine : Engine σ) (s : Session σ) : List Request → List Reply × Session σ
  | [] => ([], s)
  | request :: requests =>
    let (reply, s, _) := s.handle engine request
    let (replies, s) := s.replay engine requests
    (reply :: replies, s)

/-- A session over the plain engine answers every request as one over the richer engine does. -/
theorem handle_project (projects : rich.Projects plain forget) (request : Request)
    (s : Session σ) :
    (s.project forget).handle plain request =
      ((s.handle rich request).1, (s.handle rich request).2.1.project forget,
        (s.handle rich request).2.2) := by
  have now (s : Session σ) : (s.project forget).now = s.now := rfl
  simp only [handle, perform_project projects, now, advanceTo_project projects]

theorem replay_project (projects : rich.Projects plain forget) (requests : List Request)
    (s : Session σ) :
    (s.project forget).replay plain requests =
      ((s.replay rich requests).1, (s.replay rich requests).2.project forget) := by
  induction requests generalizing s with
  | nil => rfl
  | cons request requests ih => simp only [replay, handle_project projects, ih]

end Session

end SpeechQueue
