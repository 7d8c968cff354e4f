import SpeechQueue.Proofs.Gate
import SpeechQueue.Proofs.Release
import SpeechQueue.Proofs.StandIn
import SpeechQueue.Settings.Load

/-! # Accepted settings bring the controller up

What loading checks is all that the console engine and its controller ask of their setups: the start
cannot fail, and the engine that it leaves has an idle player, so that the first submission finds room.
`Healthy` is what every move before a shutdown keeps of this. The one thing that loading does not check
is whether a channel can have the room that is asked for. Main statement: `starts_of_load`. -/

namespace SpeechQueue

namespace Settings

/-- The language of the engine is among those that it supports. -/
def Speaks (c : Settings) : Prop :=
  ∃ l ∈ c.engine.supportedLocales, l.toList.map Char.toLower = c.engine.locale.toList.map Char.toLower

instance (c : Settings) : Decidable c.Speaks :=
  inferInstanceAs (Decidable (∃ l ∈ c.engine.supportedLocales, _))

/-- What the engine says of its language. -/
def status (c : Settings) : LanguageStatus := if c.Speaks then .ok else .notSupported

/-- What the end of the start reports. -/
def notice? (c : Settings) : Option QueueError :=
  if c.Speaks then none else some (.unsupportedLanguage c.engine.locale)

theorem languageStatus_console (c : Settings) :
    Console.languageStatus c.console c.engine.locale = c.status :=
  if_congr (by simp [console, Console.sameIgnoringCase, Speaks]) rfl rfl

theorem notice?_of_status (c : Settings) :
    (if c.status.isUsable then none else some (.unsupportedLanguage c.engine.locale)) = c.notice? := by
  unfold status notice?
  split <;> rfl

/-- Settings that are loaded have no flaw. -/
theorem flaw?_of_load {folder : Folder} {path : Option String} {environment : List (String × String)}
    {c : Settings} (loaded : load folder path environment = .ok c) : c.flaw? = none := by
  unfold load at loaded
  cases merged : sources folder path environment with
  | error fault =>
    rw [merged] at loaded
    cases loaded
  | ok tree =>
    simp only [merged, bind, Except.bind] at loaded
    split at loaded
    · cases loaded
    · split at loaded
      · cases loaded
      · next flawless =>
        cases loaded
        exact flawless

/-- Settings without a flaw have a speed, and parameters that can be used. -/
theorem usable_of_flaw? {c : Settings} (flawless : c.flaw? = none) :
    c.engine.wordsPerMinute ≠ 0 ∧ c.engine.queueCapacity ≠ 0 ∧ c.speech.flaw? = none := by
  unfold flaw? at flawless
  split at flawless
  · cases flawless
  · split at flawless
    · cases flawless
    · next speed =>
      split at flawless
      · cases flawless
      · next capacity => exact ⟨speed, capacity, Option.map_eq_none_iff.mp flawless⟩

end Settings

variable {ω : Type} {work : ω → Console → Console × List Record} {c : Settings}
  {s : Shared Console} {turn : Turn Console} {history : List (Entry ω)}

/-- No submission has found the controller ready. -/
def NoneLetIn (history : List (Entry ω)) : Prop :=
  ∀ entry ∈ history, entry.found.phase = .ready → entry.move.submission? = none

theorem noneLetIn_snoc (history : List (Entry ω)) (entry : Entry ω) :
    NoneLetIn (history ++ [entry]) ↔
      NoneLetIn history ∧ (entry.found.phase = .ready → entry.move.submission? = none) := by
  simp [NoneLetIn, or_imp, forall_and]

/-! ## What is kept until a shutdown -/

/-- No start has failed or can fail, and an engine that has answered one has an idle player, until a
submission is let in. -/
structure Healthy (s : Shared Console) (history : List (Entry ω)) : Prop where
  fresh_iff : s.desk.controller.phase = .uninitialized ↔ s.desk.controller.attempted = false
  vacant : s.desk.controller.attempted = false → s.desk.engine.Vacant
  succeeding : ∀ progress ∈ s.starting, progress = .awaited ∨ progress = .answered (.ok ())
  idling : .answered (.ok ()) ∈ s.starting ∨ s.desk.controller.phase = .ready →
    NoneLetIn history → s.desk.engine.Idling

namespace Shared

/-- A console engine that has a speed and was never started takes its time over the first start. -/
theorem step?_beginInit_console (work : ω → Console → Console × List Record)
    (first : s.desk.controller.phase = .uninitialized)
    (fresh : s.desk.controller.attempted = false) (stopped : s.desk.engine.installed = none)
    (speed : s.desk.engine.setup.wordsPerMinute ≠ 0) :
    ∃ effects, s.step? Console.engine work .beginInit =
      some ⟨⟨⟨{ s.desk.controller with phase := .initializing, attempted := true }, s.desk.engine⟩,
        s.starting ++ [.awaited]⟩, none, effects⟩ := by
  have start : Console.engine.start s.desk.engine =
      (.awaited s.desk.engine.setup.initDelay, s.desk.engine, []) := by
    simp [Console.engine, Console.start, stopped, speed]
  simp only [step?, turnOfBegun, Desk.beginInit, first, fresh, start]
  exact ⟨_, rfl⟩

/-- An engine whose channel can have the room that it is to have answers that it has started. -/
theorem step?_answer_console (work : ω → Console → Console × List Record) {place : Nat}
    (awaited : s.starting[place]? = some .awaited)
    (fits : s.desk.engine.capacity ≤ Console.maxCapacity) :
    ∃ state effects, state.Idling ∧ s.step? Console.engine work (.answer place) =
      some ⟨⟨{ s.desk with engine := state }, s.starting.set place (.answered (.ok ()))⟩, none,
        effects⟩ := by
  rcases s.desk.engine.finishStart_cases with ⟨large, -⟩ | ⟨-, done⟩
  · exact absurd large (Nat.not_lt_of_le fits)
  · refine ⟨s.desk.engine.finishStart.2.1, s.desk.engine.finishStart.2.2.map .record, ?_, ?_⟩
    · rw [Console.finishStart_installed done]
      exact ⟨_, rfl, rfl⟩
    · simp [step?, awaited, Console.engine, done, answeredAt]

end Shared

namespace Healthy

theorem new : Healthy (.new c.controller (.new c.console)) ([] : List (Entry ω)) where
  fresh_iff := iff_of_true rfl rfl
  vacant _ := Console.vacant_new c.console
  succeeding := by simp [Shared.new]
  idling := by simp [Shared.new, Controller.new]

variable (work) in
/-- A first wish to start finds a fresh engine, which takes its time. -/
theorem begun (healthy : Healthy s history) (course : Course c.controller s history)
    (speed : s.desk.engine.setup.wordsPerMinute ≠ 0)
    (fresh : s.desk.controller.attempted = false) :
    ∃ effects, s.step? Console.engine work .beginInit =
      some ⟨⟨⟨{ s.desk.controller with phase := .initializing, attempted := true }, s.desk.engine⟩,
        [.awaited]⟩, none, effects⟩ := by
  have begins := Shared.step?_beginInit_console work (healthy.fresh_iff.mpr fresh) fresh
    (healthy.vacant fresh).stopped speed
  rwa [(course.not_begun fresh).2.2, List.nil_append] at begins

/-- The engine's answer to a start leaves an idle player. -/
theorem answered (healthy : Healthy s history) {place : Nat} {state : Console} {entry : Entry ω}
    (idling : state.Idling) (attempted : s.desk.controller.attempted = true) :
    Healthy ⟨{ s.desk with engine := state }, s.starting.set place (.answered (.ok ()))⟩
      (history ++ [entry]) where
  fresh_iff := healthy.fresh_iff
  vacant fresh := absurd (attempted.symm.trans fresh) nofun
  succeeding progress member := by
    rcases List.mem_or_eq_of_mem_set member with earlier | rfl
    · exact healthy.succeeding progress earlier
    · exact .inr rfl
  idling _ _ := idling

/-- The end of a start that the engine has answered leaves the engine as it is. -/
theorem finished (healthy : Healthy s history) {t : Shared Console} {place : Nat} {entry : Entry ω}
    (present : s.starting[place]? = some (.answered (.ok ())))
    (same : t.desk.engine = s.desk.engine) (ready : t.desk.controller.phase = .ready)
    (attempted : t.desk.controller.attempted = true) (done : t.starting = []) :
    Healthy t (history ++ [entry]) where
  fresh_iff := by simp [ready, attempted]
  vacant fresh := absurd (attempted.symm.trans fresh) nofun
  succeeding := by simp [done]
  idling _ none := by
    rw [same]
    exact healthy.idling (.inl (List.mem_of_getElem? present)) ((noneLetIn_snoc _ _).mp none).1

/-- The players' work leaves an idle player idle and a spent one spent. -/
theorem played (healthy : Healthy s history) {d : Console} {events : List Playback.Event}
    {entry : Entry ω} (run : Console.Run s.desk.engine d (events.map .happened)) :
    Healthy { s with desk := { s.desk with engine := d } } (history ++ [entry]) where
  fresh_iff := healthy.fresh_iff
  vacant fresh := run.vacant (Console.onlyPlayed_map events) (healthy.vacant fresh)
  succeeding := healthy.succeeding
  idling started none :=
    run.idling (Console.onlyPlayed_map events)
      (healthy.idling started ((noneLetIn_snoc _ _).mp none).1)

/-- What leaves the engine and the start alone keeps what there is. -/
theorem kept (healthy : Healthy s history) {controller : Controller} {entry : Entry ω}
    (same : s.desk.controller.SameCourse controller) :
    Healthy { s with desk := { s.desk with controller := controller } } (history ++ [entry]) where
  fresh_iff := by
    rw [same.phase, same.attempted]
    exact healthy.fresh_iff
  vacant fresh := healthy.vacant (same.attempted ▸ fresh)
  succeeding := healthy.succeeding
  idling started none :=
    healthy.idling (started.imp_right same.phase.symm.trans) ((noneLetIn_snoc _ _).mp none).1

/-- A submission that is let in may leave anything of the engine. -/
theorem letIn (healthy : Healthy s history) {submission : Submission} {entry : Entry ω}
    {controller : Controller} {d : Console} (same : s.desk.controller.SameCourse controller)
    (submits : entry.move.submission? = some submission) (found : entry.found.phase = .ready)
    (ready : s.desk.controller.phase = .ready) :
    Healthy ⟨⟨controller, d⟩, s.starting⟩ (history ++ [entry]) where
  fresh_iff := by
    rw [same.phase, same.attempted]
    exact healthy.fresh_iff
  vacant fresh := by
    have first := healthy.fresh_iff.mpr (same.attempted ▸ fresh)
    exact absurd (first.symm.trans ready) nofun
  succeeding := healthy.succeeding
  idling _ none := by
    have silent := ((noneLetIn_snoc _ _).mp none).2 found
    exact absurd (submits.symm.trans silent) nofun

/-- A submission is let in, or it changes nothing. -/
theorem submitted (healthy : Healthy s history) {move : Move ω} {submission : Submission}
    (submits : move.submission? = some submission)
    (possible : s.step? Console.engine work move = some turn) :
    Healthy turn.after (history ++ [⟨s.desk.controller, move, turn.answer, turn.effects⟩]) := by
  cases refusal : Desk.refusal? s.desk.controller.phase with
  | some e =>
    have refused : s.step? Console.engine work move =
        some ⟨s, some (.submitted (.error e)), s.desk.controller.report e⟩ :=
      Shared.step?_refused (Shared.isSubmission_of_submission? submits) refusal
    obtain rfl := Option.some.inj (refused.symm.trans possible)
    exact healthy.kept (.refl _)
  | none =>
    have ready := (Desk.refusal?_eq_none_iff _).mp refusal
    obtain ⟨effects, offered⟩ := Shared.step?_ready Console.engine work submits ready
    obtain rfl := Option.some.inj (offered.symm.trans possible)
    exact healthy.letIn ⟨rfl, rfl, rfl, rfl⟩ submits ready ready

/-- Every move but a shutdown keeps the start going well. -/
theorem step (healthy : Healthy s history) (course : Course c.controller s history)
    (stillOpen : ¬ WasShutDown history) (speed : s.desk.engine.setup.wordsPerMinute ≠ 0)
    (fits : s.desk.engine.capacity ≤ Console.maxCapacity) (plays : Plays work) {move : Move ω}
    (noShutDown : move ≠ .shutDown) (possible : s.step? Console.engine work move = some turn) :
    Healthy turn.after (history ++ [⟨s.desk.controller, move, turn.answer, turn.effects⟩]) := by
  have goesOn : s.desk.controller.phase ≠ .closed := fun closed =>
    stillOpen (course.closed_iff.mp closed)
  have attempted {place : Nat} {progress : Progress} (present : s.starting[place]? = some progress) :
      s.desk.controller.attempted = true :=
    course.attempted_iff.mpr (course.pending (Course.awaited_of_getElem? present)).1
  cases move with
  | beginInit =>
    cases fresh : s.desk.controller.attempted with
    | false =>
      obtain ⟨effects, begun⟩ := healthy.begun work course speed fresh
      obtain rfl := Option.some.inj (begun.symm.trans possible)
      exact ⟨by simp, nofun, by simp, by simp⟩
    | true =>
      obtain ⟨effects, answered, -⟩ := Shared.step?_beginInit Console.engine work s (.inr fresh)
      obtain rfl := Option.some.inj (answered.symm.trans possible)
      exact healthy.kept (.refl _)
  | answer place =>
    cases present : s.starting[place]? with
    | none => simp [Shared.step?, present] at possible
    | some progress =>
      cases progress with
      | answered result => simp [Shared.step?, present] at possible
      | awaited =>
        obtain ⟨state, effects, idling, answered⟩ := Shared.step?_answer_console work present fits
        obtain rfl := Option.some.inj (answered.symm.trans possible)
        exact healthy.answered idling (attempted present)
  | finishInit place =>
    simp only [Shared.step?] at possible
    split at possible
    · next result present =>
      cases possible
      rcases healthy.succeeding _ (List.mem_of_getElem? present) with awaited | ok
      · cases awaited
      · cases ok
        have controller := s.desk.finishInit_controller Console.engine (.ok ())
        rw [Desk.finished.eq_def, if_neg goesOn] at controller
        refine healthy.finished present (s.desk.finishInit_console (.ok ())) ?_ ?_
          (course.eraseIdx_eq_nil present)
        · rw [controller]
        · rw [controller]
          exact attempted present
    · cases possible
  | submitUser | submitSystem | submit => exact healthy.submitted rfl possible
  | setListener listener =>
    cases possible
    exact healthy.kept ⟨rfl, rfl, rfl, rfl⟩
  | shutDown => exact absurd rfl noShutDown
  | work label =>
    cases possible
    obtain ⟨events, run⟩ := plays label s.desk.engine
    exact healthy.played run

end Healthy

/-- Every run from settings without a flaw goes well until a shutdown. -/
theorem Run.healthy (plays : Plays work)
    (run : Run Console.engine work (.new c.controller (.new c.console)) s history)
    (flawless : c.flaw? = none) (fits : max 1 c.engine.queueCapacity ≤ Console.maxCapacity)
    (stillOpen : ¬ WasShutDown history) : Healthy s history := by
  induction run with
  | nil => exact .new
  | snoc run possible ih =>
    rw [wasShutDown_snoc, not_or] at stillOpen
    obtain ⟨notes, reached⟩ := run.console plays
    have setup := reached.setup_eq
    refine (ih stillOpen.1).step (.of_run run) stillOpen.1 ?_ ?_ plays stillOpen.2 possible
    · rw [setup]
      exact (Settings.usable_of_flaw? flawless).1
    · rw [Console.capacity, setup]
      exact fits

/-! ## How the controller comes up -/

/-- How a controller with usable settings comes up, seen from a state that a run has reached without a
shutdown. -/
structure ComesUp (work : ω → Console → Console × List Record) (c : Settings) (s : Shared Console)
    (history : List (Entry ω)) : Prop where
  /-- The first wish to start begins a start, and nothing is reported. -/
  begins : ¬ WasBegun history → ∃ turn, s.step? Console.engine work .beginInit = some turn ∧
    turn.answer = none ∧ turn.after.starting = [.awaited] ∧
    turn.after.desk.controller.Reports (Console.engine.Writes work) none turn.effects
  /-- The engine never answers that it could not be started. -/
  answers : ∀ place, s.starting[place]? = some .awaited →
    ∃ turn, s.step? Console.engine work (.answer place) = some turn ∧
      turn.after.starting[place]? = some (.answered (.ok ())) ∧
      turn.after.desk.controller.Reports (Console.engine.Writes work) none turn.effects
  /-- A start that the engine has answered succeeds, and at most the language is reported. -/
  ends : ∀ place result, s.starting[place]? = some (.answered result) →
    ∃ turn, s.step? Console.engine work (.finishInit place) = some turn ∧
      turn.answer = some (.started (.ok c.status)) ∧ turn.after.desk.controller.phase = .ready ∧
      turn.after.desk.controller.Reports (Console.engine.Writes work) c.notice? turn.effects
  ready : HasReturned history → s.desk.controller.phase = .ready
  /-- The first submission that the controller lets in is accepted. -/
  accepts : s.desk.controller.phase = .ready → NoneLetIn history →
    ∀ (move : Move ω) submission, move.submission? = some submission →
      ∃ turn, s.step? Console.engine work move = some turn ∧ turn.answer =
        some (.submitted (.ok (submission.receipt (move.directs s.desk.controller))))

/-- A console engine with an idle player accepts what it is offered. -/
theorem Submission.offer_idling {state : Console} (idling : state.Idling) (p : Parameters)
    (submission : Submission) : (submission.offer Console.engine p state).1 = .ok () := by
  obtain ⟨player, running, empty⟩ := idling
  refine Console.Idling.speak ⟨player, ?_, empty⟩ (submission.speech p)
  cases submission.carries <;> exact running

namespace Healthy

theorem begins (healthy : Healthy s history) (course : Course c.controller s history)
    (speed : s.desk.engine.setup.wordsPerMinute ≠ 0) (fresh : ¬ WasBegun history) :
    ∃ turn, s.step? Console.engine work .beginInit = some turn ∧ turn.answer = none ∧
      turn.after.starting = [.awaited] ∧
      turn.after.desk.controller.Reports (Console.engine.Writes work) none turn.effects := by
  have unattempted : s.desk.controller.attempted = false := by
    rwa [← course.attempted_iff, Bool.not_eq_true] at fresh
  obtain ⟨effects, begun⟩ := healthy.begun work course speed unattempted
  exact ⟨_, begun, rfl, rfl, Shared.step?_reports begun⟩

theorem ready_of_returned (healthy : Healthy s history) (course : Course c.controller s history)
    (stillOpen : ¬ WasShutDown history) (returned : HasReturned history) :
    s.desk.controller.phase = .ready := by
  cases phase : s.desk.controller.phase with
  | ready => rfl
  | uninitialized =>
    have fresh := healthy.fresh_iff.mp phase
    exact absurd returned (course.not_begun fresh).2.1
  | initializing => exact absurd returned (course.initializing_iff.mp phase).1.2
  | closed => exact absurd (course.closed_iff.mp phase) stillOpen

theorem accepts (healthy : Healthy s history) (ready : s.desk.controller.phase = .ready)
    (none : NoneLetIn history) {move : Move ω} {submission : Submission}
    (submits : move.submission? = some submission) :
    ∃ turn, s.step? Console.engine work move = some turn ∧ turn.answer =
      some (.submitted (.ok (submission.receipt (move.directs s.desk.controller)))) := by
  obtain ⟨effects, offered⟩ := Shared.step?_ready Console.engine work submits ready
  refine ⟨_, offered, ?_⟩
  rw [Submission.offer_idling (healthy.idling (.inr ready) none)]
  rfl

end Healthy

/-- The start that accepted settings lead to ends with what the engine says of the language. -/
theorem Run.ends (plays : Plays work)
    (run : Run Console.engine work (.new c.controller (.new c.console)) s history)
    (healthy : Healthy s history) (stillOpen : ¬ WasShutDown history) {place : Nat}
    {result : Except EngineError Unit} (present : s.starting[place]? = some (.answered result)) :
    ∃ turn, s.step? Console.engine work (.finishInit place) = some turn ∧
      turn.answer = some (.started (.ok c.status)) ∧ turn.after.desk.controller.phase = .ready ∧
      turn.after.desk.controller.Reports (Console.engine.Writes work) c.notice? turn.effects := by
  rcases healthy.succeeding _ (List.mem_of_getElem? present) with awaited | ok
  · cases awaited
  · cases ok
    obtain ⟨turn, possible, succeeded⟩ := startSucceeded run present stillOpen
    obtain ⟨notes, reached⟩ := run.console plays
    have language : (Console.engine.setLanguage c.controller.locale s.desk.engine).1 = c.status := by
      rw [← c.languageStatus_console]
      exact congrArg (Console.languageStatus · c.engine.locale) reached.setup_eq
    have answer := succeeded.answer
    rw [language] at answer
    have reports := Shared.step?_reports possible
    rw [(Course.of_run run).setup_eq] at reports
    simp only [Entry.notice?, answer, Settings.controller, Settings.notice?_of_status] at reports
    exact ⟨turn, possible, answer, succeeded.phase, reports⟩

/-- Every run from settings without a flaw has come up, or can, until a shutdown. -/
theorem Run.comesUp (plays : Plays work)
    (run : Run Console.engine work (.new c.controller (.new c.console)) s history)
    (flawless : c.flaw? = none) (fits : max 1 c.engine.queueCapacity ≤ Console.maxCapacity)
    (stillOpen : ¬ WasShutDown history) : ComesUp work c s history := by
  have healthy := run.healthy plays flawless fits stillOpen
  have course := Course.of_run run
  obtain ⟨notes, reached⟩ := run.console plays
  have setup := reached.setup_eq
  constructor
  · refine fun fresh => healthy.begins course ?_ fresh
    rw [setup]
    exact (Settings.usable_of_flaw? flawless).1
  · intro place awaited
    have room : s.desk.engine.capacity ≤ Console.maxCapacity := by
      rw [Console.capacity, setup]
      exact fits
    obtain ⟨state, effects, -, answered⟩ := Shared.step?_answer_console work awaited room
    obtain ⟨inside, -⟩ := List.getElem?_eq_some_iff.mp awaited
    exact ⟨_, answered, List.getElem?_set_self inside, Shared.step?_reports answered⟩
  · exact fun place result present => run.ends plays healthy stillOpen present
  · exact healthy.ready_of_returned course stillOpen
  · exact fun ready none move submission submits => healthy.accepts ready none submits

/-- Settings that a controller and a console engine can start with. -/
structure Settings.Starts (c : Settings) : Prop where
  /-- The first parameters can be used. -/
  parameters : (Controller.new c.controller).parameters.flaw? = none
  /-- Whatever tasks do in whatever order, the controller comes up unless it is shut down. -/
  comesUp : ∀ {ω : Type} (work : ω → Console → Console × List Record), Plays work →
    ∀ s history, Run Console.engine work (.new c.controller (.new c.console)) s history →
      ¬ WasShutDown history → ComesUp work c s history
  /-- Somebody who starts it and waits is answered. -/
  answered : ((Session.new c.controller (.new c.console)).handle Console.engine .init).1 =
    .started (.controller (.ok c.status))

/-- A controller that is started by somebody who waits for it starts. -/
theorem Settings.init_console {c : Settings} (flawless : c.flaw? = none)
    (fits : max 1 c.engine.queueCapacity ≤ Console.maxCapacity) :
    ((Session.new c.controller (.new c.console)).handle Console.engine .init).1 =
      .started (.controller (.ok c.status)) := by
  let obliging := Console.obliging c.console c.engine.locale (usable_of_flaw? flawless).1 fits
  have fresh : obliging.IsFresh (Console.new c.console) := ⟨rfl, rfl, rfl⟩
  have standing : Session.Standing obliging 0 (.new c.controller (.new c.console)) :=
    Session.new_standing fresh (Nat.zero_le _) rfl
  have same := Session.observe_outline [.init] standing
  refine (Session.reply_of_observe same).trans ?_
  rw [← c.languageStatus_console]
  exact Session.init_willing c.controller

/-- Settings that are loaded can be started with, if a channel can have the room that they ask for. -/
theorem starts_of_load {folder : Settings.Folder} {path : Option String}
    {environment : List (String × String)} (loaded : Settings.load folder path environment = .ok c)
    (fits : c.engine.queueCapacity ≤ Console.maxCapacity) : c.Starts := by
  have flawless := Settings.flaw?_of_load loaded
  have room : max 1 c.engine.queueCapacity ≤ Console.maxCapacity := Nat.max_le.mpr ⟨by decide, fits⟩
  refine ⟨(Settings.usable_of_flaw? flawless).2.2, ?_, Settings.init_console flawless room⟩
  intro ω work plays s history run stillOpen
  exact run.comesUp plays flawless room stillOpen

/-- What loading gives can be computed. -/
theorem Settings.load_eq_ok {folder : Folder} {path : Option String}
    {environment : List (String × String)}
    (loaded : (load folder path environment).toOption = some c) :
    load folder path environment = .ok c := by
  cases result : load folder path environment <;> simp_all [Except.toOption]

/-- A file asks for a language that is not supported, and the environment for room for one utterance. -/
theorem starts_of_unsupported :
    ∃ c, Settings.load [("voxqueue.toml", "[engine]\nlocale = \"fr-FR\"\n")] none
        [("VOXQUEUE_ENGINE__QUEUE_CAPACITY", "1")] = .ok c ∧
      c.engine.queueCapacity ≤ Console.maxCapacity ∧ c.status = .notSupported ∧ c.Starts := by
  have loaded : Settings.load [("voxqueue.toml", "[engine]\nlocale = \"fr-FR\"\n")] none
      [("VOXQUEUE_ENGINE__QUEUE_CAPACITY", "1")] =
        .ok ⟨{ Settings.defaultEngine with locale := "fr-FR", queueCapacity := 1 }, .default,
          Settings.defaultLog⟩ :=
    Settings.load_eq_ok (by decide +kernel)
  exact ⟨_, loaded, by decide, by decide +kernel, starts_of_load loaded (by decide)⟩

end SpeechQueue
