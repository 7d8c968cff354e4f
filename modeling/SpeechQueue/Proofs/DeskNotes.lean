import SpeechQueue.Proofs.ConsoleDesk
import SpeechQueue.Proofs.Flush
import SpeechQueue.Proofs.Gate
import SpeechQueue.Proofs.PromisedAnnouncements
import SpeechQueue.Proofs.Reports

/-! # What a console engine notes of a desk

The moves of a desk are followed through the record that the console engine keeps. Main statement:
`Run.records`, the engine accepts what the history promises, and its players begin what the history
announces; so what is to be said of announcements can be said of the items of the engine. -/

namespace SpeechQueue

open Playback

variable {ω : Type}

/-! ## What the engine notes -/

/-- The record with which the player begins an utterance. -/
def Playback.Item.beginning (item : Item) : Record where
  level := .info
  target := Playback.target
  message := "Speaking: " ++ item.text
  fields := [("utterance_id", .shown (quotedOption item.id)), ("rate", .number item.rate),
    ("pitch", .number item.pitch), ("volume", .number item.volume)]

theorem Playback.Item.isAnnouncement_beginning (item : Item) :
    item.beginning.isAnnouncement = true := by
  rw [Record.isAnnouncement, beginning, String.toList_append, List.isPrefixOf_iff_prefix]
  exact List.prefix_append ..

namespace Console

/-- The utterances whose start is noted, in turn. -/
def startedIn (notes : List Note) : List Item := notes.filterMap Note.started?

@[simp] theorem startedIn_append (first second : List Note) :
    startedIn (first ++ second) = startedIn first ++ startedIn second :=
  List.filterMap_append

theorem mem_startedIn {item : Item} {notes : List Note} :
    item ∈ startedIn notes ↔ .happened (.started item) ∈ notes := by
  simp only [startedIn, List.mem_filterMap]
  constructor
  · rintro ⟨note, noted, same⟩
    cases note with
    | happened event =>
      cases event with
      | started other =>
        obtain rfl := Option.some.inj same
        exact noted
      | opened | completed | interrupted | skipped | closed => cases same
    | installed | accepted | renewed => cases same
  · exact fun noted => ⟨_, noted, rfl⟩

/-- What is started has been taken out of the channel; what is passed over has been, too. -/
theorem startedIn_sublist (notes : List Note) :
    (startedIn notes).Sublist (received (eventsIn notes)) := by
  induction notes with
  | nil => exact .slnil
  | cons note notes ih =>
    cases note with
    | happened event =>
      cases event with
      | started item => exact ih.cons_cons item
      | skipped item => exact ih.cons item
      | opened | completed | interrupted | closed => exact ih
    | installed | accepted | renewed => exact ih

/-- Of all that the players log, the beginnings are the announcements. -/
theorem announced_background (events : List Event) :
    Effect.announced ((events.filterMap Event.record?).map .background) =
      (startedIn (events.map .happened)).map Item.beginning := by
  have other {r : Record} (plain : r.isAnnouncement = false) :
      Effect.announcement? (.background r) = none := by
    simp [Effect.announcement?, plain]
  induction events with
  | nil => rfl
  | cons event events ih =>
    cases event with
    | started item =>
      have first : Effect.announcement? (.background item.beginning) = some item.beginning :=
        if_pos item.isAnnouncement_beginning
      exact (List.filterMap_cons_some first).trans (congrArg _ ih)
    | completed => exact ih
    | opened | closed => exact (List.filterMap_cons_none (other (by decide))).trans ih
    | interrupted item =>
      have plain : "Speaking: ".toList.isPrefixOf "Utterance interrupted".toList = false := by decide
      refine (List.filterMap_cons_none ?_).trans ih
      exact other plain
    | skipped item =>
      have plain : "Speaking: ".toList.isPrefixOf "Skipping flushed utterance".toList = false := by
        decide
      refine (List.filterMap_cons_none ?_).trans ih
      exact other plain

variable {c : Console}

/-- A call of speaking leaves rate and pitch as they are, and notes what it accepts. -/
theorem speak_voice (speech : Speech) (c : Console) :
    (c.speak speech).2.1.rate = c.rate ∧ (c.speak speech).2.1.pitch = c.pitch := by
  rcases speak_cases speech c with ⟨-, _, same⟩ | ⟨p, item, _, -, -, same⟩ <;> rw [same] <;>
    exact ⟨rfl, rfl⟩

theorem speak_silent (speech : Speech) (c : Console) : (c.speak speech).2.2 = [] := by
  cases running : c.installed with
  | none => rw [speak_unavailable speech running]
  | some player =>
    rcases Nat.lt_or_ge player.waiting.length c.capacity with room | full
    · rw [speak_accepted speech running room]
    · rw [speak_full speech running full]

theorem acceptedIn_notesOfSpeak (speech : Speech) (c : Console) :
    acceptedIn (c.notesOfSpeak speech) =
      match (c.speak speech).1 with
      | .error _ => []
      | .ok () => [(c.renewedFor speech.mode).item speech] := by
  cases running : c.installed with
  | none => rw [notesOfSpeak_stopped speech running, speak_unavailable speech running]; rfl
  | some player =>
    rcases Nat.lt_or_ge player.waiting.length c.capacity with room | full
    · rw [notesOfSpeak_room speech running room, speak_accepted speech running room]
      cases speech.mode <;> rfl
    · rw [notesOfSpeak_full speech running full, speak_full speech running full]
      cases speech.mode <;> rfl

/-- The engine with rate and pitch set, if the utterance goes with parameters. -/
def dialledFor (s : Submission) (p : Parameters) (c : Console) : Console :=
  if s.carries then { c with rate := p.rate, pitch := p.pitch } else c

theorem offer_eq (s : Submission) (p : Parameters) (c : Console) :
    s.offer engine p c =
      (((c.dialledFor s p).speak (s.speech p)).1, ((c.dialledFor s p).speak (s.speech p)).2.1) := by
  unfold Submission.offer dialledFor
  split <;> rfl

theorem run_dialledFor (s : Submission) (p : Parameters) (c : Console) :
    Run c (c.dialledFor s p) [] := by
  unfold dialledFor
  split
  · exact (Run.nil.snoc (.setRate c p.rate)).snoc (.setPitch _ p.pitch)
  · exact .nil

/-- An utterance begins as it was accepted: with the parameters of its receipt, or with rate and pitch
that the engine has. -/
theorem beginning_item (s : Submission) (p : Parameters) (c : Console) :
    (((c.dialledFor s p).renewedFor (s.speech p).mode).item (s.speech p)).beginning =
      (Delivery.announcement ⟨c.rate, c.pitch⟩ ⟨s, s.receipt p⟩).record := by
  have renewed (c : Console) (mode : Mode) :
      (c.renewedFor mode).rate = c.rate ∧ (c.renewedFor mode).pitch = c.pitch := by
    cases mode <;> exact ⟨rfl, rfl⟩
  obtain ⟨rate, pitch⟩ := renewed (c.dialledFor s p) (s.speech p).mode
  simp only [Item.beginning, item, rate, pitch]
  cases carries : s.carries with
  | true =>
    simp [dialledFor, Delivery.announcement, Delivery.announcement?, Submission.receipt,
      Submission.speech, Announcement.record, carries, Attributes.volume?_withVolume_withId,
      Attributes.get?_withVolume_withId]
  | false =>
    simp [dialledFor, Delivery.announcement, Delivery.announcement?, Submission.receipt,
      Submission.speech, Announcement.record, carries, defaultVolume]

end Console

/-! ## Moves -/

/-- The engine's own work consists of what its players do, in portions of any size. They log what
happens and nothing else, and leave rate and pitch of the engine alone. -/
structure Performs (work : ω → Console → Console × List Record) : Prop where
  plays : ∀ label c, ∃ events : List Event,
    Console.Run c (work label c).1 (events.map .happened) ∧
      (work label c).2 = events.filterMap Event.record?
  voice : ∀ label c, (work label c).1.rate = c.rate ∧ (work label c).1.pitch = c.pitch

theorem performs_settle : Performs Console.engine.settle where
  plays now c := by
    have here : Console.Run c c [] := .nil
    have run := here.play now
    rw [List.nil_append] at run
    exact ⟨_, run, rfl⟩
  voice now c := ⟨rfl, rfl⟩

/-- The engine takes its time over a start. -/
def Progress.isAwaited : Progress → Bool
  | .awaited => true
  | .answered _ => false

namespace Shared

/-- How often the engine can still be given a player. -/
def startsLeft (s : Shared Console) : Nat :=
  s.starting.countP Progress.isAwaited + if s.desk.controller.attempted then 0 else 1

/-- Rate and pitch of the engine. -/
def voice (s : Shared Console) : Voice := ⟨s.desk.engine.rate, s.desk.engine.pitch⟩

/-- What the engine notes on the way from one state to another is what the history says: it accepts
what was promised, and begins what was announced. -/
structure Records (s t : Shared Console) (history : List (Entry ω)) (notes : List Console.Note) :
    Prop where
  run : Console.Run s.desk.engine t.desk.engine notes
  starts : notes.count .installed + t.startsLeft ≤ s.startsLeft
  accepted : (Console.acceptedIn notes).map Item.beginning =
    (promised s.voice history).map Announcement.record
  announced : announced history = (Console.startedIn notes).map Item.beginning
  voice : t.voice = history.foldl Entry.voiceAfter s.voice

namespace Records

variable {s t u : Shared Console} {history later : List (Entry ω)} {notes more : List Console.Note}
  {entry : Entry ω}

theorem refl (s : Shared Console) : Records s s ([] : List (Entry ω)) [] where
  run := .nil
  starts := Nat.le_of_eq (Nat.zero_add _)
  accepted := rfl
  announced := rfl
  voice := rfl

theorem append (first : Records s t history notes) (second : Records t u later more) :
    Records s u (history ++ later) (notes ++ more) where
  run := first.run.append second.run
  starts := by
    have earlier := first.starts
    have rest := second.starts
    rw [List.count_append]
    omega
  accepted := by
    rw [Console.acceptedIn_append, List.map_append, first.accepted, second.accepted, promised_append,
      List.map_append, first.voice]
  announced := by
    rw [Console.startedIn_append, List.map_append, ← first.announced, ← second.announced]
    exact List.flatMap_append
  voice := by rw [second.voice, first.voice, List.foldl_append]

/-- A move that submits nothing promises nothing, and leaves rate and pitch as they are. -/
theorem of_other (other : entry.move.submission? = none)
    (run : Console.Run s.desk.engine t.desk.engine notes)
    (starts : notes.count .installed + t.startsLeft ≤ s.startsLeft)
    (nothing : Console.acceptedIn notes = [])
    (announced : Effect.announced entry.effects = (Console.startedIn notes).map Item.beginning)
    (voice : t.voice = s.voice) : Records s t [entry] notes := by
  have silent : entry.promise? s.voice = none := by
    simp [Entry.promise?, Entry.delivery?, other]
  have still : entry.setsVoice = false := by
    unfold Entry.setsVoice
    cases move : entry.move with
    | submitUser | submitSystem | submit => rw [move] at other; cases other
    | beginInit | answer | finishInit | setListener | shutDown | work => simp [Move.carriesParameters]
  refine ⟨run, starts, ?_, ?_, ?_⟩
  · simp [nothing, promised, silent]
  · simpa [SpeechQueue.announced] using announced
  · simpa [Entry.voiceAfter, still] using voice

end Records

variable {work : ω → Console → Console × List Record} {s : Shared Console} {turn : Turn Console}
  {move : Move ω}

/-- Called as it may be, the engine announces nothing. -/
theorem isAnnouncement_of_writes {r : Record}
    (writes : Console.engine.Writes (fun (_ : ω) c => (c, [])) r) : r.isAnnouncement = false := by
  cases writes with
  | start c written =>
    have nothing : (Console.engine.start c).2.2 = [] := by
      simp only [Console.engine, Console.start]
      split
      · rfl
      · split <;> rfl
    simp [nothing] at written
  | finishStart c written =>
    simp only [Console.engine, Console.finishStart] at written
    split at written
    · cases written
    · rw [List.mem_singleton.mp written]
      exact (by decide : "Speaking: ".toList.isPrefixOf "ConsoleSpeechEngine initialized".toList = false)
  | speak speech c written =>
    rw [Console.engine_speak, Console.speak_silent] at written
    cases written
  | shutDown c written =>
    rw [List.mem_singleton.mp written]
    decide
  | work label c written => cases written

/-- Only the work of the players announces anything. -/
theorem announced_eq_nil (possible : s.step? Console.engine work move = some turn)
    (other : ∀ label, move ≠ .work label) : Effect.announced turn.effects = [] := by
  have idle : s.step? Console.engine (fun (_ : ω) c => (c, [])) move = some turn := by
    cases move with
    | work label => exact absurd rfl (other label)
    | _ => exact possible
  obtain ⟨before, effects, quiet⟩ := step?_reports idle
  have silent : Effect.announced before = [] := by
    refine List.filterMap_eq_nil_iff.mpr fun effect member => ?_
    have written := quiet effect member
    cases effect with
    | background r => simp [Effect.announcement?, isAnnouncement_of_writes written]
    | call | record | tell => rfl
  have report (e : QueueError) : Effect.announced (turn.after.desk.controller.report e) = [] := by
    cases listener : turn.after.desk.controller.listener <;>
      simp [Controller.report, Controller.reportRecord, Controller.log, Effect.announced,
        Effect.announcement?, listener]
  rw [effects, Effect.announced, List.filterMap_append]
  refine List.append_eq_nil_iff.mpr ⟨silent, ?_⟩
  cases Entry.notice? s.desk.controller.setup.locale
      ⟨s.desk.controller, move, turn.answer, turn.effects⟩ with
  | none => rfl
  | some e => exact report e

/-- What players note is neither accepted nor the end of a start. -/
theorem played_nothing (events : List Event) :
    Console.acceptedIn (events.map .happened) = [] ∧
      (events.map Console.Note.happened).count .installed = 0 := by
  refine ⟨List.filterMap_eq_nil_iff.mpr fun note noted => ?_, List.count_eq_zero.mpr fun noted => ?_⟩
  · obtain ⟨event, -, rfl⟩ := List.mem_map.mp noted
    rfl
  · obtain ⟨event, -, same⟩ := List.mem_map.mp noted
    cases same

/-- The answer to a start uses up the start. -/
theorem countP_answeredAt {starting : List Progress} {place : Nat}
    (awaited : starting[place]? = some .awaited) (result : Option (Except EngineError Unit)) :
    (answeredAt place result starting).countP Progress.isAwaited + 1 =
      starting.countP Progress.isAwaited := by
  obtain ⟨inside, found⟩ := List.getElem?_eq_some_iff.mp awaited
  have split : starting = starting.take place ++ .awaited :: starting.drop (place + 1) := by
    rw [← found, List.getElem_cons_drop, List.take_append_drop]
  have before := congrArg (List.countP Progress.isAwaited) split
  rw [List.countP_append, List.countP_cons_of_pos rfl] at before
  cases result with
  | none =>
    rw [answeredAt, List.eraseIdx_eq_take_drop_succ, List.countP_append, before, Nat.add_assoc]
  | some result =>
    rw [answeredAt, List.set_eq_take_append_cons_drop, if_pos inside, List.countP_append,
      List.countP_cons_of_neg (by simp [Progress.isAwaited]), before, Nat.add_assoc]

/-- The first wish to start is all that can be awaited. -/
theorem startsLeft_beginInit (s : Shared Console) :
    (s.turnOfBegun (s.desk.beginInit Console.engine)).after.startsLeft ≤ s.startsLeft := by
  have controller := s.desk.beginInit_controller Console.engine
  by_cases fresh : s.desk.controller.phase = .uninitialized ∧ s.desk.controller.attempted = false
  · obtain ⟨progress, after⟩ := s.turnOfBegun_fresh Console.engine fresh
    rw [if_pos fresh] at controller
    rw [after, startsLeft, startsLeft, controller, List.countP_append, fresh.2]
    cases progress <;> simp [Progress.isAwaited]
  · rw [if_neg fresh] at controller
    refine Nat.le_of_eq ?_
    rw [turnOfBegun_stale _ s fresh, startsLeft, startsLeft, controller]

theorem carriesParameters_of_submission? {submission : Submission}
    (submits : move.submission? = some submission) : move.carriesParameters = submission.carries := by
  cases move with
  | submitUser | submitSystem | submit => cases submits; rfl
  | beginInit | answer | finishInit | setListener | shutDown | work => cases submits

/-- A submission that finds the controller ready is noted as it is promised. -/
theorem records_of_ready {submission : Submission} (submits : move.submission? = some submission)
    (ready : s.desk.controller.phase = .ready)
    (possible : s.step? Console.engine work move = some turn) :
    ∃ notes, Records s turn.after [⟨s.desk.controller, move, turn.answer, turn.effects⟩] notes := by
  have silent := announced_eq_nil possible (by rintro label rfl; cases submits)
  obtain ⟨effects, same⟩ := step?_ready Console.engine work submits ready
  rw [same] at possible
  cases possible
  have leaves (answer : Option Answer) (effects : List Effect) :
      Entry.leaves ⟨s.desk.controller, move, answer, effects⟩ = move.directs s.desk.controller := by
    simp [Entry.leaves, Entry.heard?, Move.directs, ready]
  generalize move.directs s.desk.controller = p at leaves silent ⊢
  rw [Console.offer_eq] at silent ⊢
  have noStart := (s.desk.engine.run_dialledFor submission p).snoc (.speak _ (submission.speech p))
  refine ⟨_, noStart, ?_, ?_, ?_, ?_⟩
  · rw [List.nil_append, Console.count_installed_notesOfSpeak, Nat.zero_add]
    exact Nat.le_refl _
  · rw [List.nil_append, Console.acceptedIn_notesOfSpeak]
    have promise := s.desk.engine.beginning_item submission p
    cases answer : ((s.desk.engine.dialledFor submission p).speak (submission.speech p)).1 with
    | error e => simp [promised, Entry.promise?, Entry.delivery?, submits, Submission.verdict]
    | ok =>
      simp only [promised, Entry.promise?, Entry.delivery?, submits, Submission.verdict,
        Option.map_some, Option.toList_some, List.append_nil, List.map_cons, List.map_nil, promise]
      rfl
  · have nothing : Console.startedIn
        ((s.desk.engine.dialledFor submission p).notesOfSpeak (submission.speech p)) = [] := by
      have fewer := Console.startedIn_sublist
        ((s.desk.engine.dialledFor submission p).notesOfSpeak (submission.speech p))
      rw [Console.eventsIn_notesOfSpeak] at fewer
      exact List.sublist_nil.mp fewer
    rw [List.nil_append, nothing]
    simpa [announced] using silent
  · simp only [voice, List.foldl_cons, List.foldl_nil, Entry.voiceAfter, Entry.voice,
      Entry.setsVoice, leaves, ready, carriesParameters_of_submission? submits, true_and,
      Console.dialledFor]
    cases submission.carries <;> simp [Console.speak_voice]

/-- One that is refused at once leaves no trace. -/
theorem records_of_refused {submission : Submission} (submits : move.submission? = some submission)
    (early : s.desk.controller.phase ≠ .ready)
    (possible : s.step? Console.engine work move = some turn) :
    Records s turn.after [⟨s.desk.controller, move, turn.answer, turn.effects⟩] [] := by
  have silent := announced_eq_nil possible (by rintro label rfl; cases submits)
  obtain ⟨e, refusal⟩ := Desk.exists_refusal early
  rw [step?_refused (isSubmission_of_submission? submits) refusal] at possible
  cases possible
  refine ⟨.nil, Nat.le_of_eq (Nat.zero_add _), ?_, ?_, ?_⟩
  · simp [promised, Entry.promise?, Entry.delivery?, submits, Console.acceptedIn]
  · simpa [announced, Console.startedIn] using silent
  · simp [Entry.voiceAfter, Entry.setsVoice, early]

/-- A move that leaves the engine alone and awaits nothing new leaves no trace. -/
theorem records_of_untouched (possible : s.step? Console.engine work move = some turn)
    (noSubmission : move.submission? = none) (noWork : ∀ label, move ≠ .work label)
    (same : turn.after.desk.engine = s.desk.engine) (starts : turn.after.startsLeft ≤ s.startsLeft) :
    Records s turn.after [⟨s.desk.controller, move, turn.answer, turn.effects⟩] [] := by
  refine .of_other noSubmission (same ▸ .nil) ?_ rfl (announced_eq_nil possible noWork) ?_
  · rwa [List.count_nil, Nat.zero_add]
  · rw [voice, same, voice]

/-- Every move that is possible is noted as the history says. -/
theorem step?_records (performs : Performs work)
    (possible : s.step? Console.engine work move = some turn) :
    ∃ notes, Records s turn.after [⟨s.desk.controller, move, turn.answer, turn.effects⟩] notes := by
  cases move with
  | submitUser | submitSystem | submit =>
    by_cases ready : s.desk.controller.phase = .ready
    · exact records_of_ready rfl ready possible
    · exact ⟨[], records_of_refused rfl ready possible⟩
  | beginInit =>
    have starts := s.startsLeft_beginInit
    refine ⟨[], records_of_untouched possible rfl (by simp) ?_ ?_⟩
    · cases possible
      have same := s.desk.beginInit_console
      unfold turnOfBegun
      split <;> exact same
    · cases possible
      exact starts
  | finishInit place =>
    have answered := possible
    simp only [step?] at possible
    split at possible
    · next result _ =>
      cases possible
      refine ⟨[], records_of_untouched answered rfl (by simp) (s.desk.finishInit_console result) ?_⟩
      have fewer := (List.eraseIdx_sublist s.starting place).countP_le (p := Progress.isAwaited)
      have attempted : (s.desk.finishInit Console.engine result).desk.controller.attempted =
          s.desk.controller.attempted := by
        rw [Desk.finishInit_controller, Desk.finished.eq_def]
        split
        · rfl
        · cases result <;> rfl
      simp only [startsLeft, attempted]
      exact Nat.add_le_add_right fewer _
    · cases possible
  | setListener listener =>
    refine ⟨[], records_of_untouched possible rfl (by simp) ?_ ?_⟩ <;> cases possible
    · rfl
    · exact Nat.le_refl _
  | shutDown =>
    have controller := s.desk.shutDown_controller Console.engine
    by_cases closed : s.desk.controller.phase = .closed
    · refine ⟨[], records_of_untouched possible rfl (by simp) ?_ ?_⟩ <;> cases possible
      · simp [Shared.turn, Desk.shutDown, closed]
      · simp [startsLeft, Shared.turn, controller]
    · have silent := announced_eq_nil possible (by simp)
      cases possible
      have shut : (s.desk.shutDown Console.engine).desk.engine = s.desk.engine.shutDown.1 := by
        simp [Desk.shutDown, closed, Console.engine]
      refine ⟨[.renewed], .of_other rfl ?_ ?_ rfl silent ?_⟩
      · simp only [Shared.turn, shut]
        exact Console.Run.nil.snoc (.shutDown _)
      · simp [startsLeft, Shared.turn, controller]
      · simp only [voice, Shared.turn, shut]
        rfl
  | answer place =>
    have silent := announced_eq_nil possible (by simp)
    simp only [step?] at possible
    split at possible
    · next awaited =>
      cases possible
      have starts := countP_answeredAt awaited s.desk.engine.finishStart.1
      rcases s.desk.engine.finishStart_cases with ⟨-, broken⟩ | ⟨-, done⟩
      · refine ⟨[], .of_other rfl ?_ ?_ rfl silent ?_⟩
        · simp only [Console.engine, broken]
          exact .nil
        · simp only [startsLeft, Console.engine, List.count_nil]
          omega
        · simp only [voice, Console.engine, broken]
      · refine ⟨[.installed], .of_other rfl ?_ ?_ rfl silent ?_⟩
        · exact Console.Run.nil.snoc (.finishStart done)
        · simp only [startsLeft, Console.engine, List.count_singleton_self]
          omega
        · simp only [voice, Console.engine, Console.finishStart_installed done]
    · cases possible
  | work label =>
    cases possible
    obtain ⟨events, run, logged⟩ := performs.plays label s.desk.engine
    obtain ⟨rate, pitch⟩ := performs.voice label s.desk.engine
    obtain ⟨nothing, noStart⟩ := played_nothing events
    refine ⟨events.map .happened, .of_other rfl run ?_ nothing ?_ ?_⟩
    · rw [noStart, Nat.zero_add]
      exact Nat.le_refl _
    · rw [logged]
      exact Console.announced_background events
    · simp only [voice, rate, pitch]

end Shared

variable {work : ω → Console → Console × List Record} {s t : Shared Console}
  {history later : List (Entry ω)}

/-- Every run is noted as its history says. -/
theorem Run.records (performs : Performs work) (run : Run Console.engine work s t history) :
    ∃ notes, Shared.Records s t history notes := by
  induction run with
  | nil => exact ⟨[], .refl s⟩
  | snoc _ possible ih =>
    obtain ⟨notes, earlier⟩ := ih
    obtain ⟨more, now⟩ := Shared.step?_records performs possible
    exact ⟨_, earlier.append now⟩

end SpeechQueue
