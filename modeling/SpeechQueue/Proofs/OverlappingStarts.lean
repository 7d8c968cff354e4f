import SpeechQueue.Proofs.RestingSessions
import SpeechQueue.Proofs.Succession

/-! # Starts that may overlap

The engine can be asked to start by its controller and by others, again and again, and while an
earlier start is awaited. Every course of a session is considered here that consists of such starts
and their ends, of submissions and calls of the engine, of the steps of its players and of the time
that passes, in any order. Main statements: `speaks_in_turn`, utterances are spoken one at a time and
in the order of their acceptance, as long as no start ends over a player that still has utterances;
`speaks_at_once`, when one does, two utterances are spoken at once, and one of them out of turn;
`flush_passes_over`, what a flush cancels keeps its place in the order but is never started. -/

namespace SpeechQueue

open Playback

namespace Console

variable {start c d : Console} {notes more : List Note} {now : Nat}

/-- A relay that goes on where another one has ended is one relay with it. -/
theorem Relay.append (first : Relay start c notes) (second : Relay c d more) :
    Relay start d (notes ++ more) := by
  induction second with
  | nil => rwa [List.append_nil]
  | snoc _ step replaced kept ih =>
    rw [← List.append_assoc]
    exact ih.snoc step replaced kept

/-- An engine without a player gets one only by the end of a start. -/
theorem Step.closed (step : Step c more d) (closed : c.installed = none)
    (noStart : .installed ∉ more) : d.installed = none := by
  cases step with
  | finishStart => exact absurd List.mem_cons_self noStart
  | setRate | setPitch | detached | sweep => exact closed
  | speak speech => rwa [speak_unavailable speech closed]
  | shutDown => rfl
  | installed place => cases place.symm.trans closed

theorem Run.closed (run : Run start c notes) (closed : start.installed = none)
    (noStart : .installed ∉ notes) : c.installed = none := by
  induction run with
  | nil => exact closed
  | snoc _ step ih =>
    rw [List.mem_append, not_or] at noStart
    exact step.closed (ih noStart.1) noStart.2

/-! ## What the engine is asked, and what it does by itself -/

/-- What the engine notes of an utterance that is offered to it. -/
def notesOfOffer (submission : Submission) (p : Parameters) (c : Console) : List Note :=
  (c.dialledFor submission p).notesOfSpeak (submission.speech p)

/-- What the engine notes of the end of a start. -/
def notesOfFinish (c : Console) : List Note :=
  if c.finishStart.1.isSome then [.installed] else []

/-- A run in which no start ends and nothing is cancelled is a relay. -/
theorem Relay.of_run (run : Run c d more) (noStart : .installed ∉ more)
    (undisturbed : .renewed ∉ more) : Relay c d more := by
  induction run with
  | nil => exact .nil
  | @snoc middle last notes more run step ih =>
    rw [List.mem_append, not_or] at noStart undisturbed
    refine (ih noStart.1 undisturbed.1).snoc step (fun noted => absurd noted noStart.2) ?_
    intro stopped
    refine (step.stopped stopped).2.resolve_right fun raised => ?_
    rw [step.generation, List.count_eq_zero_of_not_mem undisturbed.2] at raised
    exact absurd raised (Nat.lt_irrefl _)

/-- What is done at a time without being asked for: a step of a player, the loss of players that
have stopped, or all that the players can do. -/
inductive Works (now : Nat) (c : Console) : List Note → Console → Prop
  | installed {p q : Player} {event : Event} : c.installed = some p →
      Player.Step c.setup.wordsPerMinute c.generation now true p event q →
      Works now c [.happened event] (counting event { c with installed := some q })
  | detached {front back : List Player} {p q : Player} {event : Event} :
      c.detached = front ++ p :: back →
      Player.Step c.setup.wordsPerMinute c.generation now false p event q →
      Works now c [.happened event] (counting event { c with detached := front ++ q :: back })
  | sweep : Works now c [] { c with detached := c.detached.filter (·.stage ≠ .stopped) }
  | play : Works now c ((c.play now).2.map .happened) (c.play now).1

/-- Only what happens in playback is noted. -/
theorem Works.happened {note : Note} (works : Works now c more d) (noted : note ∈ more) :
    ∃ event, note = .happened event := by
  cases works with
  | installed | detached => exact ⟨_, List.mem_singleton.mp noted⟩
  | sweep => cases noted
  | play =>
    obtain ⟨event, -, same⟩ := List.mem_map.mp noted
    exact ⟨event, same.symm⟩

theorem Works.noStart (works : Works now c more d) : .installed ∉ more := by
  intro noted
  obtain ⟨event, same⟩ := works.happened noted
  cases same

theorem Works.relay (works : Works now c more d) : Relay c d more := by
  refine .of_run ?_ works.noStart fun noted => ?_
  · have here : Run c c [] := .nil
    cases works with
    | installed place step => exact here.snoc (.installed place step)
    | detached place step => exact here.snoc (.detached place step)
    | sweep => exact here.snoc (.sweep c)
    | play => exact here.play now
  · obtain ⟨event, same⟩ := works.happened noted
    cases same

/-- An utterance that is offered to the engine is spoken after its rate and its pitch are set. -/
theorem relay_offer (submission : Submission) (p : Parameters) (c : Console) :
    Relay c (submission.offer engine p c).2 (c.notesOfOffer submission p) := by
  rw [offer_eq]
  have dialled : Relay c (c.dialledFor submission p) [] := by
    unfold dialledFor
    split
    · exact (Relay.nil.silent (.setRate c p.rate) id).silent (.setPitch _ p.pitch) id
    · exact .nil
  exact dialled.speak (submission.speech p)

/-- The end of a start goes on with a relay when the player that it replaces has nothing left. -/
theorem relay_finishStart (spent : ∀ p ∈ c.installed, p.held = []) :
    Relay c c.finishStart.2.1 c.notesOfFinish := by
  rcases c.finishStart_cases with ⟨-, broken⟩ | ⟨-, done⟩
  · rw [notesOfFinish, broken]
    exact .nil
  · rw [notesOfFinish, done]
    have here : Relay c c [] := .nil
    refine here.snoc (.finishStart done) (fun _ => spent) ?_
    rw [finishStart_installed done]
    intro stopped
    cases stopped

end Console

/-! ## Courses of a session -/

namespace Session

variable {s t start : Session Console} {notes more : List Console.Note} {request : Request}
  {p : Pending} {starter : Starter} {mayEnd : Session Console → Prop}

/-- What the engine notes of a submission: one that is refused it does not hear of. -/
def notesOfSubmission (submission : Submission) (p : Parameters) (s : Session Console) :
    List Console.Note :=
  if s.desk.controller.phase = .ready then s.desk.engine.notesOfOffer submission p else []

/-- What the engine notes of a request that does not start it or shut it down and takes no time. -/
def notesOf? (s : Session Console) : Request → Option (List Console.Note)
  | .submitUser text mode => some (s.notesOfSubmission ⟨.supply s.ids, text, mode, true⟩
      (resolveParameters text s.desk.controller.parameters))
  | .submitSystem text => some (s.notesOfSubmission ⟨.supply s.ids, text, .flush, false⟩
      s.desk.controller.parameters)
  | .submit text source => some (s.notesOfSubmission ⟨.supply s.ids, text, .add, true⟩
      ((Move.submit (.supply s.ids) text source : Move Empty).directs s.desk.controller))
  | .engineSpeak speech => some (s.desk.engine.notesOfSpeak speech)
  | .engineSetRate _ | .engineSetPitch _ | .engineSetLanguage _ | .isReady => some []
  | .init | .spawnInit | .joinInit | .engineInit | .advance _ | .submitAll _ | .shutDown
  | .engineShutDown => none

/-- The courses that a session can take, with what the engine notes on the way: anybody may ask the
engine to start, at any time; a start that is over may end now or later, if it may end at all; and
calls, steps of the players and time come in any order. -/
inductive Course (mayEnd : Session Console → Prop) (start : Session Console) :
    Session Console → List Console.Note → Prop
  | nil : Course mayEnd start start []
  | begin {s : Session Console} {notes : List Console.Note} (starter : Starter) :
      Course mayEnd start s notes →
      Course mayEnd start (s.begin Console.engine starter).2.1 notes
  | finish {s : Session Console} {notes : List Console.Note} {p : Pending} :
      Course mayEnd start s notes → p ∈ s.pending → p.due ≤ s.now → mayEnd s →
      Course mayEnd start (s.finish Console.engine p).1 (notes ++ s.desk.engine.notesOfFinish)
  | ask {s : Session Console} {notes more : List Console.Note} (request : Request) :
      Course mayEnd start s notes → s.notesOf? request = some more →
      Course mayEnd start (s.perform Console.engine request).2.1 (notes ++ more)
  | work {s : Session Console} {notes more : List Console.Note} {c : Console} :
      Course mayEnd start s notes → s.desk.engine.Works s.now more c →
      Course mayEnd start (s.withEngine c) (notes ++ more)
  | wait {s : Session Console} {notes : List Console.Note} (span : Duration) :
      Course mayEnd start s notes →
      Course mayEnd start { s with now := s.now + span.nanoseconds } notes

/-- The player that is there, if any, has nothing left. -/
def FindsIdle (s : Session Console) : Prop := ∀ p ∈ s.desk.engine.installed, p.held = []

instance (s : Session Console) : Decidable s.FindsIdle := Option.decidableForallMem _

/-- No other start is awaited. -/
def StartsApart (s : Session Console) : Prop := s.pending.length ≤ 1

instance (s : Session Console) : Decidable s.StartsApart := Nat.decLe _ _

/-! ### What the steps do to the engine -/

/-- The session over an engine that keeps its trace from now on. -/
def traced (s : Session Console) : Session Traced :=
  ⟨⟨s.desk.controller, ⟨s.desk.engine, []⟩⟩, s.now, s.pending, s.ended, s.tickets, s.unjoined, s.ids⟩

/-- A wish to start leaves the engine as it is. Only an engine without a player takes its time over
it. -/
theorem begin_console (starter : Starter) (s : Session Console) :
    (s.begin Console.engine starter).2.1.desk.engine = s.desk.engine ∧
      ((s.begin Console.engine starter).2.1.pending = s.pending ∨ s.desk.engine.installed = none) := by
  have same : s.begin Console.engine starter =
      ((s.traced.begin Traced.engine starter).1,
        (s.traced.begin Traced.engine starter).2.1.project Traced.console,
        (s.traced.begin Traced.engine starter).2.2) := begin_project Traced.projects starter s.traced
  rw [same]
  cases begin_begins starter s.traced with
  | answered engine pending => exact ⟨congrArg Traced.console engine, .inl pending⟩
  | awaited engine closed => exact ⟨congrArg Traced.console engine, .inr closed⟩

/-- The end of a start is one for the engine. -/
theorem finish_console (p : Pending) (s : Session Console) :
    (s.finish Console.engine p).1.desk.engine = s.desk.engine.finishStart.2.1 ∧
      (s.finish Console.engine p).1.pending = s.pending.filter (·.ticket ≠ p.ticket) := by
  have same : s.finish Console.engine p =
      ((s.traced.finish Traced.engine p).1.project Traced.console,
        (s.traced.finish Traced.engine p).2) := finish_project Traced.projects p s.traced
  obtain ⟨engine, pending, -⟩ := finish_engine p s.traced
  rw [same]
  exact ⟨congrArg Traced.console engine, pending⟩

/-- A request is a relay of the engine, in which no start ends. -/
structure Heeds (s t : Session Console) (more : List Console.Note) : Prop where
  relay : Console.Relay s.desk.engine t.desk.engine more
  noStart : .installed ∉ more
  pending : t.pending = s.pending

theorem Heeds.silent (engine : t.desk.engine = s.desk.engine) (pending : t.pending = s.pending) :
    Heeds s t [] :=
  ⟨engine ▸ .nil, List.not_mem_nil, pending⟩

/-- A submission that is refused leaves the desk as it is; any other is offered to the engine. -/
theorem Heeds.submission {submission : Submission} {p : Parameters}
    (refused : s.desk.controller.phase ≠ .ready → t.desk = s.desk)
    (offered : s.desk.controller.phase = .ready →
      t.desk.engine = (submission.offer Console.engine p s.desk.engine).2)
    (pending : t.pending = s.pending) : Heeds s t (s.notesOfSubmission submission p) := by
  unfold notesOfSubmission
  split
  · next ready =>
    refine ⟨?_, Console.noStart_notesOfSpeak _ _, pending⟩
    rw [offered ready]
    exact s.desk.engine.relay_offer submission p
  · next early => exact .silent (congrArg Desk.engine (refused early)) pending

theorem heeds_of_notesOf? (noted : s.notesOf? request = some more) :
    Heeds s (s.perform Console.engine request).2.1 more := by
  cases request with
  | submitUser text mode =>
    obtain rfl := Option.some.inj noted
    refine .submission (fun early => Desk.submitUser_refused early) (fun ready => ?_) rfl
    exact congrArg Desk.engine (Desk.submitUser_offer Console.engine s.desk _ text mode ready).2
  | submitSystem text =>
    obtain rfl := Option.some.inj noted
    refine .submission (fun early => Desk.submitSystem_refused early) (fun ready => ?_) rfl
    exact congrArg Desk.engine (Desk.submitSystem_offer Console.engine s.desk _ text ready).2
  | submit text source =>
    obtain rfl := Option.some.inj noted
    refine .submission (fun early => Desk.submit_refused early) (fun ready => ?_) rfl
    exact congrArg Desk.engine (Desk.submit_offer Empty Console.engine s.desk _ text source ready).2
  | engineSpeak speech =>
    obtain rfl := Option.some.inj noted
    exact ⟨Console.Relay.nil.speak speech, Console.noStart_notesOfSpeak speech _, rfl⟩
  | engineSetRate rate =>
    obtain rfl := Option.some.inj noted
    exact ⟨Console.Relay.nil.silent (.setRate _ rate) id, List.not_mem_nil, rfl⟩
  | engineSetPitch pitch =>
    obtain rfl := Option.some.inj noted
    exact ⟨Console.Relay.nil.silent (.setPitch _ pitch) id, List.not_mem_nil, rfl⟩
  | engineSetLanguage | isReady =>
    obtain rfl := Option.some.inj noted
    exact .silent rfl rfl
  | init | spawnInit | joinInit | engineInit | advance | submitAll | shutDown | engineShutDown =>
    cases noted

/-! ### What a course is for the engine -/

variable {controller : Controller.Setup} {setup : Console.Setup}

/-- A course in which starts end over idle players only is a relay. -/
theorem Course.relay (course : Course FindsIdle (.new controller (.new setup)) s notes) :
    Console.Relay (.new setup) s.desk.engine notes := by
  induction course with
  | nil => exact .nil
  | begin starter _ ih =>
    rw [(begin_console starter _).1]
    exact ih
  | @finish s notes p _ _ _ idle ih =>
    rw [(finish_console p s).1]
    exact ih.append (Console.relay_finishStart idle)
  | ask request _ noted ih => exact ih.append (heeds_of_notesOf? noted).relay
  | work _ works ih => exact ih.append works.relay
  | wait span _ ih => exact ih

/-- While starts do not overlap, the engine has no player as long as one is awaited; so no start ends
over a player at all. -/
theorem Course.findsIdle (course : Course StartsApart (.new controller (.new setup)) s notes) :
    (s.pending ≠ [] → s.desk.engine.installed = none) ∧
      Course FindsIdle (.new controller (.new setup)) s notes := by
  induction course with
  | nil => exact ⟨fun _ => rfl, .nil⟩
  | @begin s notes starter _ ih =>
    obtain ⟨awaiting, course⟩ := ih
    obtain ⟨engine, pending⟩ := begin_console starter s
    refine ⟨?_, course.begin starter⟩
    rw [engine]
    rcases pending with same | closed
    · rw [same]
      exact awaiting
    · exact fun _ => closed
  | @finish s notes p _ awaited past apart ih =>
    obtain ⟨awaiting, course⟩ := ih
    have closed := awaiting (List.ne_nil_of_mem awaited)
    have idle : s.FindsIdle := by simp [FindsIdle, closed]
    refine ⟨?_, course.finish awaited past idle⟩
    -- The start that ends is the only one.
    obtain ⟨q, only⟩ : ∃ q, s.pending = [q] :=
      List.length_eq_one_iff.mp (Nat.le_antisymm apart (List.length_pos_of_mem awaited))
    obtain rfl : p = q := by simpa [only] using awaited
    rw [(finish_console p s).2, only]
    simp
  | @ask s notes more request _ noted ih =>
    obtain ⟨awaiting, course⟩ := ih
    have heeds := heeds_of_notesOf? noted
    refine ⟨fun others => ?_, course.ask request noted⟩
    rw [heeds.pending] at others
    exact heeds.relay.run.closed (awaiting others) heeds.noStart
  | work _ works ih =>
    obtain ⟨awaiting, course⟩ := ih
    refine ⟨fun others => ?_, course.work works⟩
    exact works.relay.run.closed (awaiting others) works.noStart
  | wait span _ ih => exact ⟨ih.1, ih.2.wait span⟩

/-! ## One utterance after the other -/

/-- How a session speaks that has come to a state with what the engine noted on the way. -/
structure SpeaksInTurn (s : Session Console) (notes : List Console.Note) : Prop where
  /-- No two utterances are spoken at once. -/
  alone : s.desk.engine.spoken.length ≤ 1
  /-- Each was taken out of a channel only after the one before it had ended. -/
  account : ∃ a, Account.ofEvents (Console.eventsIn notes) = some a
  /-- Only the installed player has utterances, and gets more of them. -/
  spent : ∀ p ∈ s.desk.engine.detached, p.speaking = none ∧ p.waiting = []
  /-- The accepted utterances are taken out of a channel in the order of their acceptance. -/
  accepted : Console.acceptedIn notes =
    received (Console.eventsIn notes) ++ s.desk.engine.channel
  /-- They are started in this order. -/
  started : (Console.startedIn notes).Sublist (Console.acceptedIn notes)
  /-- While nothing is cancelled, none is left out. -/
  prompt : .renewed ∉ notes → Console.startedIn notes <+: Console.acceptedIn notes
  /-- What is left out had been accepted, and cancelled since. -/
  skipped : ∀ before after item, notes = before ++ .happened (.skipped item) :: after →
    .accepted item ∈ before ∧
      ∀ early mid, before = early ++ .accepted item :: mid → .renewed ∈ mid
  /-- Nothing is started after it was cancelled. -/
  cancelled : ∀ before after item, notes = before ++ .renewed :: after →
    .accepted item ∈ before → .happened (.started item) ∉ after

/-- Without anything passed over, what is taken out of the channels is started. -/
theorem startedIn_eq_received (none_skipped : ∀ item, .happened (.skipped item) ∉ notes) :
    Console.startedIn notes = received (Console.eventsIn notes) := by
  induction notes with
  | nil => rfl
  | cons note notes ih =>
    have rest := ih fun item later => none_skipped item (List.mem_cons_of_mem _ later)
    cases note with
    | happened event =>
      cases event with
      | started item => exact congrArg (item :: ·) rest
      | skipped item => exact absurd List.mem_cons_self (none_skipped item)
      | opened | completed | interrupted | closed => exact rest
    | installed | accepted | renewed => exact rest

theorem mem_received {item : Item} {event : Event} (happened : .happened event ∈ notes)
    (taken : event.received? = some item) : item ∈ received (Console.eventsIn notes) :=
  List.mem_filterMap.mpr ⟨event, List.mem_filterMap.mpr ⟨_, happened, rfl⟩, taken⟩

/-- Relays speak one utterance after the other. -/
theorem speaksInTurn_of_relay (relay : Console.Relay (.new setup) s.desk.engine notes) :
    s.SpeaksInTurn notes := by
  have run := relay.run
  obtain ⟨a, known, accounted⟩ := relay.account
  have accepted : Console.acceptedIn notes =
      received (Console.eventsIn notes) ++ s.desk.engine.channel := by
    rw [← Account.items_ofEvents known]
    exact accounted.accepted
  have skipped : ∀ before after item, notes = before ++ .happened (.skipped item) :: after →
      .accepted item ∈ before ∧
        ∀ early mid, before = early ++ .accepted item :: mid → .renewed ∈ mid := by
    intro before after item split
    have happened : .happened (.skipped item) ∈ notes := by simp [split]
    have taken : item ∈ received (Console.eventsIn notes) := mem_received happened rfl
    have known : .accepted item ∈ notes :=
      Console.mem_acceptedIn.mp (accepted ▸ List.mem_append_left _ taken)
    exact ⟨run.accepted_before split (.inl rfl) known,
      fun early mid place => run.renewed_between split (.inl rfl) place⟩
  refine ⟨?_, ⟨a, known⟩, ?_, accepted, ?_, ?_, skipped, ?_⟩
  · rw [← accounted.current]
    cases a.current <;> simp
  · exact fun p member => Player.held_eq_nil_iff.mp (relay.spent p member)
  · rw [accepted]
    exact (Console.startedIn_sublist notes).trans (List.sublist_append_left ..)
  · intro undisturbed
    rw [accepted, startedIn_eq_received fun item passed => ?_]
    · exact List.prefix_append ..
    · obtain ⟨before, after, split⟩ := List.append_of_mem passed
      obtain ⟨earlier, cancelled⟩ := skipped before after item split
      obtain ⟨early, mid, place⟩ := List.append_of_mem earlier
      have renewed := cancelled early mid place
      exact undisturbed (by simp [split, place, renewed])
  · exact fun before after item split known => run.not_started_of_renewed split known

end Session

/-- However starts, calls and time come together, utterances are spoken one at a time and in the order
of their acceptance, as long as no start ends over a player that still has some: so always when
starts do not overlap. -/
theorem speaks_in_turn (controller : Controller.Setup) (setup : Console.Setup)
    (s : Session Console) (notes : List Console.Note) :
    (Session.Course Session.FindsIdle (.new controller (.new setup)) s notes →
      s.SpeaksInTurn notes) ∧
    (Session.Course Session.StartsApart (.new controller (.new setup)) s notes →
      s.SpeaksInTurn notes) := by
  constructor
  · intro course
    exact Session.speaksInTurn_of_relay course.relay
  · intro course
    exact Session.speaksInTurn_of_relay course.findsIdle.2.relay

/-- Two starts that overlap and end before two utterances are accepted, and two that are apart with
two utterances in between. -/
theorem speaks_in_turn_of_two_starts :
    (∃ (s : Session Console) (notes : List Console.Note),
      Session.Course Session.FindsIdle
        (.new .default (.new ⟨180, ["en-US"], .ofMilliseconds 100, 2⟩)) s notes ∧
      notes.count .installed = 2 ∧
      (Console.startedIn notes).map (·.text) = ["one", "two"] ∧ s.SpeaksInTurn notes) ∧
    (∃ (s : Session Console) (notes : List Console.Note),
      Session.Course Session.StartsApart
        (.new .default (.new ⟨180, ["en-US"], .ofMilliseconds 100, 2⟩)) s notes ∧
      s.ended.length = 2 ∧
      (Console.startedIn notes).map (·.text) = ["one", "two"] ∧ s.SpeaksInTurn notes) := by
  constructor
  · have asked : Session.Course Session.FindsIdle
        (.new .default (.new ⟨180, ["en-US"], .ofMilliseconds 100, 2⟩)) _ _ :=
      ((Session.Course.nil.begin .controller).wait (.ofMilliseconds 50)).begin .engine
    have first := (asked.wait (.ofMilliseconds 100)).finish (p := ⟨0, 100000000, .controller⟩)
      (by decide +kernel) (by decide +kernel) (by decide +kernel)
    have second := first.finish (p := ⟨1, 150000000, .engine⟩)
      (by decide +kernel) (by decide +kernel) (by decide +kernel)
    have given := (second.ask (.engineSpeak ⟨"one", .add, none⟩) rfl).ask
      (.engineSpeak ⟨"two", .add, none⟩) rfl
    have course := ((given.work .play).wait (.ofMilliseconds 1000)).work .play
    exact ⟨_, _, course, by decide +kernel, by decide +kernel, (speaks_in_turn _ _ _ _).1 course⟩
  · have asked : Session.Course Session.StartsApart
        (.new .default (.new ⟨180, ["en-US"], .ofMilliseconds 100, 2⟩)) _ _ :=
      (Session.Course.nil.begin .controller).wait (.ofMilliseconds 100)
    have first := asked.finish (p := ⟨0, 100000000, .controller⟩)
      (by decide +kernel) (by decide +kernel) (by decide +kernel)
    have given := (first.ask (.engineSpeak ⟨"one", .add, none⟩) rfl).ask
      (.engineSpeak ⟨"two", .add, none⟩) rfl
    have second := (given.work .play).begin .engine
    have course := (second.wait (.ofMilliseconds 1000)).work .play
    exact ⟨_, _, course, by decide +kernel, by decide +kernel, (speaks_in_turn _ _ _ _).2 course⟩

/-- The end of a start over a player that still has utterances leaves it beside the fresh one: two
utterances are spoken at once, and the second one is started after the third. -/
theorem speaks_at_once :
    ∃ (s : Session Console) (notes : List Console.Note),
      Session.Course (fun _ => True)
        (.new .default (.new ⟨180, ["en-US"], .ofMilliseconds 100, 2⟩)) s notes ∧
      s.desk.engine.spoken.map (·.text) = ["two", "three four five"] ∧
      (Console.acceptedIn notes).map (·.text) = ["one", "two", "three four five"] ∧
      (Console.startedIn notes).map (·.text) = ["one", "three four five", "two"] := by
  have asked : Session.Course (fun _ => True)
      (.new .default (.new ⟨180, ["en-US"], .ofMilliseconds 100, 2⟩)) _ _ :=
    ((Session.Course.nil.begin .controller).wait (.ofMilliseconds 50)).begin .engine
  have first := (asked.wait (.ofMilliseconds 100)).finish (p := ⟨0, 100000000, .controller⟩)
    (by decide +kernel) (by decide +kernel) trivial
  have given := (first.ask (.engineSpeak ⟨"one", .add, none⟩) rfl).ask
    (.engineSpeak ⟨"two", .add, none⟩) rfl
  have second := (given.work .play).finish (p := ⟨1, 150000000, .engine⟩)
    (by decide +kernel) (by decide +kernel) trivial
  have beside := (second.ask (.engineSpeak ⟨"three four five", .add, none⟩) rfl).work .play
  have course := (beside.wait (.ofMilliseconds 500)).work .play
  exact ⟨_, _, course, by decide +kernel, by decide +kernel, by decide +kernel⟩

/-- Even if all starts end over idle players, what a flush cancels before it is started is never
started. -/
theorem flush_passes_over :
    ∃ (s : Session Console) (notes : List Console.Note),
      Session.Course Session.FindsIdle
        (.new .default (.new ⟨180, ["en-US"], .ofMilliseconds 100, 2⟩)) s notes ∧
      (Console.acceptedIn notes).map (·.text) = ["one", "two"] ∧
      (Console.startedIn notes).map (·.text) = ["two"] ∧
      s.desk.engine.channel = [] := by
  have asked : Session.Course Session.FindsIdle
      (.new .default (.new ⟨180, ["en-US"], .ofMilliseconds 100, 2⟩)) _ _ :=
    (Session.Course.nil.begin .engine).wait (.ofMilliseconds 100)
  have started := asked.finish (p := ⟨0, 100000000, .engine⟩)
    (by decide +kernel) (by decide +kernel) (by decide +kernel)
  have given := (started.ask (.engineSpeak ⟨"one", .add, none⟩) rfl).ask
    (.engineSpeak ⟨"two", .flush, none⟩) rfl
  exact ⟨_, _, given.work .play, by decide +kernel, by decide +kernel, by decide +kernel⟩

end SpeechQueue
