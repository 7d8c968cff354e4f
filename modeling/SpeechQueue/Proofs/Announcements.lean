import SpeechQueue.Proofs.DeskNotes

/-! # Utterances are announced as they were accepted

Main statement: `announces_receipts`. Between the acceptance of an utterance and its turn many others
may be submitted, and rate and pitch of the engine be set anew. The player takes items out of its
channel in the order in which they were accepted, and each carries its own values. -/

namespace SpeechQueue

open Playback

variable {ω : Type} {work : ω → Console → Console × List Record} {s t : Shared Console}
  {history later : List (Entry ω)}

theorem Shared.voice_new (controller : Controller.Setup) (setup : Console.Setup) :
    (Shared.new controller (.new setup)).voice = .neutral := by
  simp only [Shared.voice, Shared.new, Console.new, Voice.neutral]

namespace Shared.Records

variable {controller : Controller.Setup} {setup : Console.Setup} {notes : List Console.Note}

/-- The engine is started at most once. -/
theorem once (records : Records (.new controller (.new setup)) t history notes) :
    notes.count .installed ≤ 1 := by
  have starts := records.starts
  simp only [startsLeft, Shared.new, Controller.new] at starts
  simp at starts
  omega

/-- What begins has been accepted, and in this order. -/
theorem startedIn_sublist (records : Records (.new controller (.new setup)) t history notes) :
    (Console.startedIn notes).Sublist (Console.acceptedIn notes) := by
  rw [(records.run.conserves records.once).accepted]
  exact (Console.startedIn_sublist notes).trans (List.sublist_append_left ..)

/-- Once the generation is raised, nothing begins that was accepted before. -/
theorem startedIn_since {middle after : Shared Console} {entries : List (Entry ω)}
    {early flush late : List Console.Note}
    (before : Records (.new controller (.new setup)) middle history early)
    (raising : Records middle after entries flush) (since : Records after t later late)
    (raised : middle.desk.engine.generation < after.desk.engine.generation) :
    (Console.startedIn late).Sublist (Console.acceptedIn (flush ++ late)) := by
  let current (item : Item) : Bool := after.desk.engine.generation ≤ item.generation
  have kept : (Console.startedIn late).filter current = Console.startedIn late := by
    refine List.filter_eq_self.mpr fun item started => decide_eq_true ?_
    exact since.run.generation_of_started (Console.mem_startedIn.mp started)
  have cancelled : (Console.acceptedIn early).filter current = [] := by
    refine List.filter_eq_nil_iff.mpr fun item accepted isCurrent => ?_
    have stale := before.run.accepted_le (Console.mem_acceptedIn.mp accepted)
    exact absurd (of_decide_eq_true isCurrent) (Nat.not_le_of_lt (Nat.lt_of_le_of_lt stale raised))
  have all := (before.append (raising.append since)).startedIn_sublist
  have inside : (Console.startedIn late).Sublist (Console.acceptedIn (early ++ (flush ++ late))) := by
    refine .trans ?_ all
    rw [← List.append_assoc, Console.startedIn_append]
    exact List.sublist_append_right ..
  have filtered := inside.filter current
  rw [kept, Console.acceptedIn_append, List.filter_append, cancelled, List.nil_append] at filtered
  exact filtered.trans List.filter_sublist

end Shared.Records

/-- A flush that is accepted raises the generation. -/
theorem Shared.generation_of_flush {move : Move ω} {turn : Turn Console} {submission : Submission}
    {receipt : Receipt} (possible : s.step? Console.engine work move = some turn)
    (submits : move.submission? = some submission)
    (accepted : turn.answer = some (.submitted (.ok receipt))) (flush : submission.mode = .flush) :
    s.desk.engine.generation < turn.after.desk.engine.generation := by
  obtain ⟨ready, -⟩ := step?_accepted possible submits accepted
  obtain ⟨effects, same⟩ := step?_ready Console.engine work submits ready
  rw [same] at possible
  cases possible
  generalize move.directs s.desk.controller = p at accepted ⊢
  rw [Console.offer_eq] at accepted ⊢
  have dialled : (s.desk.engine.dialledFor submission p).generation = s.desk.engine.generation := by
    unfold Console.dialledFor
    split <;> rfl
  cases running : (s.desk.engine.dialledFor submission p).installed with
  | none => simp [Console.speak_unavailable _ running, Submission.verdict] at accepted
  | some player =>
    rcases Nat.lt_or_ge player.waiting.length (s.desk.engine.dialledFor submission p).capacity
      with room | full
    · have renews : (submission.speech p).mode = .flush := flush
      rw [Console.speak_accepted _ running room, renews]
      exact dialled ▸ Nat.lt_succ_self _
    · simp [Console.speak_full _ running full, Submission.verdict] at accepted

/-- What is announced of a history is what was promised in it. -/
structure AnnouncesReceipts (history : List (Entry ω)) : Prop where
  /-- Announcements come in the order of acceptance, at most one for each promise, and there are no
  others. -/
  inOrder : (announced history).Sublist ((promised .neutral history).map Announcement.record)
  /-- Under the identifier of a receipt there is at most one announcement, with its parameters. -/
  underId : ∀ d ∈ deliveries history, (announcedUnder (some d.receipt.id) history).Sublist
    (d.announcement?.toList.map Announcement.record)
  /-- Under none there are only flushes of the program, with rate and pitch that the last submission
  before has set. -/
  withoutId : ∀ r ∈ announcedUnder none history, ∃ earlier entry later id text,
    history = earlier ++ entry :: later ∧ entry.move = .submitSystem id text ∧
      entry.isAccepted = true ∧ r = Announcement.record
        ⟨none, text, (lastVoice earlier).rate, (lastVoice earlier).pitch, .ofNat 1⟩
  /-- After a flush that is accepted, nothing is announced that was accepted before it. -/
  afterFlush : ∀ earlier entry later d, history = earlier ++ entry :: later →
    entry.delivery? = some d → d.receipt.mode = .flush → (announced later).Sublist
      ((promised (lastVoice earlier) (entry :: later)).map Announcement.record)

variable {controller : Controller.Setup} {setup : Console.Setup}

theorem Run.announced_inOrder (performs : Performs work)
    (run : Run Console.engine work (.new controller (.new setup)) s history) :
    (announced history).Sublist ((promised .neutral history).map Announcement.record) := by
  obtain ⟨notes, records⟩ := run.records performs
  rw [records.announced, ← Shared.voice_new controller setup, ← records.accepted]
  exact records.startedIn_sublist.map _

/-- Whatever is submitted between the acceptance of an utterance and its turn. -/
theorem announces_receipts (performs : Performs work)
    (run : Run Console.engine work (.new controller (.new setup)) s history)
    (distinct : ((deliveries history).map (·.receipt.id)).Nodup) : AnnouncesReceipts history where
  inOrder := run.announced_inOrder performs
  underId d member := by
    have inOrder := (run.announced_inOrder performs).filter (Record.isUnder (some d.receipt.id))
    have under : (fun a : Announcement => a.record.isUnder (some d.receipt.id)) =
        fun a => decide (a.id = some d.receipt.id) := by
      funext a
      rw [Bool.eq_iff_iff, a.isUnder_record, decide_eq_true_iff]
    rw [List.filter_map, Function.comp_def, under, promised_under distinct member] at inOrder
    exact inOrder
  withoutId r member := by
    obtain ⟨inside, under⟩ := List.mem_filter.mp member
    obtain ⟨a, promise, rfl⟩ := List.mem_map.mp ((run.announced_inOrder performs).subset inside)
    obtain ⟨earlier, entry, later, split, promise⟩ := mem_promised promise
    obtain ⟨⟨submission, receipt⟩, delivered, rfl⟩ := Option.map_eq_some_iff.mp promise
    have among : ⟨submission, receipt⟩ ∈ deliveries history :=
      List.mem_filterMap.mpr ⟨entry, by simp [split], delivered⟩
    have plain : receipt.parameters = none := by
      have noId := (Announcement.isUnder_record _ none).mp under
      cases parameters : receipt.parameters with
      | none => rfl
      | some p => simp [Delivery.announcement, Delivery.announcement?, parameters] at noId
    have carries := (run.isReceipted _ among).parameters
    rw [plain, Option.isSome_none] at carries
    obtain ⟨submits, answered⟩ := Entry.delivery?_eq_some.mp delivered
    obtain ⟨id, moved⟩ : ∃ id, entry.move = .submitSystem id submission.text := by
      cases move : entry.move with
      | submitSystem id text => rw [move] at submits; cases submits; exact ⟨id, rfl⟩
      | submitUser | submit => rw [move] at submits; cases submits; cases carries
      | beginInit | answer | finishInit | setListener | shutDown | work =>
        rw [move] at submits
        cases submits
    refine ⟨earlier, entry, later, id, submission.text, split, moved, ?_, ?_⟩
    · rw [Entry.isAccepted, answered]
      rfl
    · rw [foldl_voiceAfter, Delivery.announcement, Delivery.announcement?, plain, Option.map_none,
        Option.getD_none]
  afterFlush earlier entry later d split delivered flush := by
    obtain ⟨submits, answered⟩ := Entry.delivery?_eq_some.mp delivered
    obtain ⟨before, first, second⟩ := run.cut split
    obtain ⟨turn, possible, same, rest⟩ := second.uncons rfl
    rw [same] at answered
    have raised := Shared.generation_of_flush possible submits answered
      ((run.isReceipted d (List.mem_filterMap.mpr ⟨entry, by simp [split], delivered⟩)).mode ▸ flush)
    obtain ⟨_, untilFlush⟩ := first.records performs
    obtain ⟨_, atFlush⟩ := Shared.step?_records performs possible
    obtain ⟨_, sinceFlush⟩ := rest.records performs
    rw [← same] at atFlush
    have voice : before.voice = lastVoice earlier := by
      rw [untilFlush.voice, Shared.voice_new, foldl_voiceAfter]
    have began := (untilFlush.startedIn_since atFlush sinceFlush raised).map Item.beginning
    rw [← sinceFlush.announced, (atFlush.append sinceFlush).accepted, voice] at began
    exact began

/-- A slow utterance is announced as slow, although the next one has made the engine quick by then; the
flush that cancels that one is announced as quick. -/
theorem announces_receipts_of_flush :
    ∃ s history, Run Console.engine Console.engine.settle (.new .default (.new .default)) s history ∧
      ((deliveries history).map (·.receipt.id)).Nodup ∧ AnnouncesReceipts history ∧
      (announced history).map (fun r => (r.message, r.fields.lookup "rate")) =
        [("Speaking: slowly one", some (.number (.ofRatio false 1 2))),
          ("Speaking: halt", some (.number (.ofNat 3)))] := by
  have begun : Run Console.engine Console.engine.settle (.new .default (.new .default)) _ _ :=
    .snoc .nil (show Shared.step? _ _ _ .beginInit = some _ from rfl)
  have answered := begun.snoc (show Shared.step? _ _ _ (.answer 0) = some _ from rfl)
  have ready := answered.snoc (show Shared.step? _ _ _ (.finishInit 0) = some _ from rfl)
  have slow := ready.snoc
    (show Shared.step? _ _ _ (.submitUser (.supply 0) "slowly one" .add) = some _ from rfl)
  have quick := slow.snoc
    (show Shared.step? _ _ _ (.submitUser (.supply 1) "quickly two" .add) = some _ from rfl)
  have spoken := quick.snoc (show Shared.step? _ _ _ (.work 0) = some _ from rfl)
  have flushed := spoken.snoc
    (show Shared.step? _ _ _ (.submitSystem (.supply 2) "halt") = some _ from rfl)
  have run := flushed.snoc (show Shared.step? _ _ _ (.work 1) = some _ from rfl)
  refine ⟨_, _, run, ?distinct, announces_receipts performs_settle run ?distinct, ?_⟩
  · decide +kernel
  · decide +kernel

end SpeechQueue
