import Mathlib.Data.List.Forall2
import SpeechQueue.Proofs.NumberText
import SpeechQueue.Proofs.RecordedCalls

/-! # What is accepted is spoken

Main statement: `speaks_accepted`. The receipts that submitters are given and the utterances that an
engine has recorded are two lists of the same things in the same order, whatever tasks do. -/

namespace SpeechQueue

variable {ω : Type}

/-! ## Attributes -/

namespace Attributes

/-- An utterance that carries parameters has these two attributes and no others. -/
theorem entries_withVolume_withId (volume : Single) (id : UtteranceId) :
    ((empty.withVolume volume).withId id).entries =
      [(idKey, id.text), (volumeKey, volume.text)] := by
  have first : idKey < volumeKey := by decide
  simp [withId, withVolume, set, empty, insert, first]

/-- The volume is read back as it was, even when it is not a number. -/
theorem volume?_withVolume_withId (volume : Single) (id : UtteranceId) :
    ((empty.withVolume volume).withId id).volume? = some volume := by
  have other : (volumeKey == idKey) = false := by decide
  have kept : 0 < Format.single.precision := by decide
  rw [volume?, get?, entries_withVolume_withId, List.lookup_cons, other]
  simpa using Binary.read?_text kept volume

theorem get?_withVolume_withId (volume : Single) (id : UtteranceId) :
    ((empty.withVolume volume).withId id).get? idKey = some id.text := by
  rw [get?, entries_withVolume_withId, List.lookup_cons_self]

end Attributes

/-! ## Submissions and their receipts -/

/-- What a submission asks for. -/
structure Submission where
  id : UtteranceId
  text : String
  mode : Mode
  /-- The utterance goes with the parameters of the controller. -/
  carries : Bool

/-- The submission that a move makes. -/
def Move.submission? : Move ω → Option Submission
  | .submitUser id text mode => some ⟨id, text, mode, true⟩
  | .submit id text _ => some ⟨id, text, .add, true⟩
  | .submitSystem id text => some ⟨id, text, .flush, false⟩
  | _ => none

/-- A submission that was accepted, with its receipt. -/
structure Delivery where
  submission : Submission
  receipt : Receipt

/-- The submission of a move that was accepted. -/
def Entry.delivery? (entry : Entry ω) : Option Delivery :=
  match entry.move.submission?, entry.answer with
  | some submission, some (.submitted (.ok receipt)) => some ⟨submission, receipt⟩
  | _, _ => none

/-- The submissions that were accepted, in the order of the lock. -/
def deliveries (history : List (Entry ω)) : List Delivery :=
  history.filterMap Entry.delivery?

namespace Delivery

/-- The receipt is that of the submission. -/
structure IsReceipted (d : Delivery) : Prop where
  id : d.receipt.id = d.submission.id
  mode : d.receipt.mode = d.submission.mode
  parameters : d.receipt.parameters.isSome = d.submission.carries

/-- The utterance that a receipt stands for. -/
def speech (d : Delivery) : Speech where
  text := d.submission.text
  mode := d.receipt.mode
  attributes := d.receipt.parameters.map fun p =>
    (Attributes.empty.withVolume p.volume).withId d.receipt.id

/-- An utterance is what the submitter was promised by the receipt. -/
structure IsSpokenAs (d : Delivery) (speech : Speech) : Prop where
  text : speech.text = d.submission.text
  id : d.receipt.id = d.submission.id
  mode : speech.mode = d.receipt.mode ∧ d.receipt.mode = d.submission.mode
  carries : d.receipt.parameters.isSome = d.submission.carries
  plain : d.receipt.parameters = none → speech.attributes = none
  dressed : ∀ p, d.receipt.parameters = some p → ∃ attributes,
    speech.attributes = some attributes ∧
      attributes.entries.map Prod.fst = [Attributes.idKey, Attributes.volumeKey] ∧
      attributes.volume? = some p.volume ∧
      attributes.get? Attributes.idKey = some d.receipt.id.text

theorem IsReceipted.isSpokenAs {d : Delivery} (receipted : d.IsReceipted) :
    d.IsSpokenAs d.speech where
  text := rfl
  id := receipted.id
  mode := ⟨rfl, receipted.mode⟩
  carries := receipted.parameters
  plain plain := by rw [speech, plain, Option.map_none]
  dressed p dressed := by
    refine ⟨_, by rw [speech, dressed, Option.map_some], ?_, ?_, ?_⟩
    · rw [Attributes.entries_withVolume_withId]
      rfl
    · exact Attributes.volume?_withVolume_withId ..
    · exact Attributes.get?_withVolume_withId ..

end Delivery

/-! ## Speech among calls -/

/-- The utterance of a call. -/
def Call.speech? : Call → Option Speech
  | .speak speech => some speech
  | _ => none

/-- The utterance of a block: none when it was refused. -/
def Block.speech? : Block → Option Speech
  | .dialled _ _ accepted =>
    accepted.map fun (text, mode, attributes) => ⟨text, mode, some attributes⟩
  | .flushed text => some ⟨text, .flush, none⟩

theorem Recording.spoken_eq (r : Recording) : r.spoken = r.calls.filterMap Call.speech? := rfl

theorem Block.filterMap_calls (block : Block) :
    block.calls.filterMap Call.speech? = block.speech?.toList := by
  cases block with
  | dialled rate pitch accepted => cases accepted <;> rfl
  | flushed text => rfl

/-- Utterances are recorded within blocks only. -/
theorem Entry.filterMap_recorded (entry : Entry ω) :
    entry.recorded.filterMap Call.speech? = (entry.block?.bind Block.speech?).toList := by
  unfold recorded
  split
  · next begins goesOn =>
    rw [block?_of_not_submission (by rw [begins]; rfl)]
    rfl
  · next place status returns ends =>
    rw [block?_of_not_submission (by rw [returns]; rfl)]
    rfl
  · next closes =>
    rw [block?_of_not_submission (by rw [closes]; rfl)]
    split <;> rfl
  · cases entry.block? with
    | none => rfl
    | some block => simp [Block.filterMap_calls]

namespace Entry

variable {entry : Entry ω} {submission : Submission}

/-- A submission that is refused is not spoken. -/
theorem speech_of_refused {e : QueueError} (refused : entry.answer = some (.submitted (.error e))) :
    entry.block?.bind Block.speech? = none := by
  have notAccepted : entry.isAccepted = false := by rw [isAccepted, refused]; rfl
  unfold block?
  split
  · cases entry.move <;> simp [notAccepted, dialled, Block.speech?]
  · rfl

/-- One that is accepted is spoken as its receipt says. -/
theorem speech_of_accepted {receipt : Receipt} (submits : entry.move.submission? = some submission)
    (accepted : entry.answer = some (.submitted (.ok receipt)))
    (ready : entry.found.phase = .ready) (receipted : receipt =
      ⟨submission.id, submission.mode, if submission.carries then some entry.leaves else none⟩) :
    entry.block?.bind Block.speech? = some (Delivery.speech ⟨submission, receipt⟩) := by
  have isAccepted : entry.isAccepted = true := by rw [isAccepted, accepted]; rfl
  subst receipted
  rw [block?, if_pos ready]
  cases move : entry.move with
  | submitUser | submit | submitSystem =>
    rw [move] at submits
    cases submits
    simp [isAccepted, dialled, Block.speech?, Delivery.speech]
  | beginInit | answer | finishInit | setListener | shutDown | work =>
    rw [move] at submits
    cases submits

end Entry

/-! ## Steps -/

section Steps

variable {σ : Type} {engine : Engine σ} {work : ω → σ → σ × List Record} {s : Shared σ}
  {turn : Turn σ}

/-- The receipt of an accepted submission: the parameters are those that the controller goes on
with. -/
theorem Shared.step?_accepted {move : Move ω} {submission : Submission} {receipt : Receipt}
    (possible : s.step? engine work move = some turn)
    (submits : move.submission? = some submission)
    (accepted : turn.answer = some (.submitted (.ok receipt))) :
    s.desk.controller.phase = .ready ∧ receipt = ⟨submission.id, submission.mode,
      if submission.carries then
        some (Entry.leaves ⟨s.desk.controller, move, turn.answer, turn.effects⟩)
      else none⟩ := by
  cases move with
  | submitUser id text mode =>
    cases submits
    cases possible
    obtain ⟨ready, rfl⟩ := Desk.submitUser_receipt engine s.desk
      (Answer.submitted.inj (Option.some.inj accepted))
    exact ⟨ready, by simp [Entry.leaves, Entry.heard?, ready, Move.userText?, resolvedFrom]⟩
  | submit id text source =>
    cases submits
    cases possible
    have result := Answer.submitted.inj (Option.some.inj accepted)
    cases source with
    | user =>
      obtain ⟨ready, rfl⟩ := Desk.submitUser_receipt engine s.desk result
      exact ⟨ready, by simp [Entry.leaves, Entry.heard?, ready, Move.userText?, resolvedFrom]⟩
    | system =>
      obtain ⟨ready, rfl⟩ := Desk.submit_system_receipt engine s.desk result
      exact ⟨ready, by simp [Entry.leaves, Entry.heard?, ready, Move.userText?, resolvedFrom]⟩
  | submitSystem id text =>
    cases submits
    cases possible
    obtain ⟨ready, rfl⟩ := Desk.submitSystem_receipt engine s.desk
      (Answer.submitted.inj (Option.some.inj accepted))
    exact ⟨ready, rfl⟩
  | beginInit | answer | finishInit | setListener | shutDown | work => cases submits

/-- Every submission is answered at once. -/
theorem Shared.step?_submitted {move : Move ω} {submission : Submission}
    (possible : s.step? engine work move = some turn)
    (submits : move.submission? = some submission) :
    ∃ result, turn.answer = some (.submitted result) := by
  cases move with
  | submitUser | submit | submitSystem =>
    cases possible
    exact ⟨_, rfl⟩
  | beginInit | answer | finishInit | setListener | shutDown | work => cases submits

/-- A move hands over the utterance of the submission that it accepts, and no other one. -/
theorem Shared.step?_speech {move : Move ω} (possible : s.step? engine work move = some turn) :
    let entry : Entry ω := ⟨s.desk.controller, move, turn.answer, turn.effects⟩
    entry.block?.bind Block.speech? = entry.delivery?.map Delivery.speech ∧
      ∀ d, entry.delivery? = some d → d.IsReceipted := by
  intro entry
  cases submits : move.submission? with
  | none =>
    have silent : entry.delivery? = none := by simp [entry, Entry.delivery?, submits]
    have noBlock : entry.block? = none := by
      apply Entry.block?_of_not_submission
      cases move <;> cases submits <;> rfl
    simp [silent, noBlock]
  | some submission =>
    obtain ⟨result, answer⟩ := Shared.step?_submitted possible submits
    -- A refused user's utterance still sets rate and pitch, so its block is there without speech.
    cases result with
    | error e =>
      have silent : entry.delivery? = none := by simp [entry, Entry.delivery?, submits, answer]
      have refused : entry.block?.bind Block.speech? = none := Entry.speech_of_refused answer
      simp [silent, refused]
    | ok receipt =>
      obtain ⟨ready, receipted⟩ := Shared.step?_accepted possible submits answer
      have delivered : entry.delivery? = some ⟨submission, receipt⟩ := by
        simp [entry, Entry.delivery?, submits, answer]
      rw [delivered]
      refine ⟨Entry.speech_of_accepted submits answer ready receipted, ?_⟩
      rintro d ⟨⟩
      subst receipted
      exact ⟨rfl, rfl, by cases submission.carries <;> rfl⟩

end Steps

/-! ## Runs -/

variable {work : Empty → Recording → Recording × List Record} {setup : Controller.Setup}
  {config : Recording.Setup} {s t : Shared Recording} {turn : Turn Recording}
  {history : List (Entry Empty)}

/-- What a move adds to the list of what was spoken. -/
theorem Shared.step?_spoken {move : Move Empty}
    (possible : s.step? Recording.engine work move = some turn) :
    turn.after.desk.engine.spoken = s.desk.engine.spoken ++
      (Entry.delivery? ⟨s.desk.controller, move, turn.answer, turn.effects⟩).toList.map
        Delivery.speech := by
  rw [Recording.spoken_eq, Shared.step?_calls possible, List.filterMap_append,
    Entry.filterMap_recorded, (Shared.step?_speech possible).1, Recording.spoken_eq]
  cases Entry.delivery? _ <;> rfl

theorem deliveries_snoc (history : List (Entry ω)) (entry : Entry ω) :
    deliveries (history ++ [entry]) = deliveries history ++ entry.delivery?.toList :=
  filterMap_snoc ..

theorem Run.spoken_eq (run : Run Recording.engine work (.new setup (.new config)) s history) :
    s.desk.engine.spoken = (deliveries history).map Delivery.speech := by
  induction run with
  | nil => rfl
  | snoc run possible ih =>
    rw [Shared.step?_spoken possible, ih, deliveries_snoc, List.map_append]

/-- Receipts are those of their submissions, whatever the engine is. -/
theorem Run.isReceipted {σ : Type} {engine : Engine σ} {work : ω → σ → σ × List Record}
    {start s : Shared σ} {history : List (Entry ω)} (run : Run engine work start s history) :
    ∀ d ∈ deliveries history, d.IsReceipted := by
  induction run with
  | nil => exact fun d inside => absurd inside List.not_mem_nil
  | snoc run possible ih =>
    intro d inside
    rw [deliveries_snoc] at inside
    rcases List.mem_append.mp inside with earlier | now
    · exact ih d earlier
    · exact (Shared.step?_speech possible).2 d (Option.mem_toList.mp now)

/-- The receipts of submitters and what the engine has spoken. -/
structure SpeaksAccepted (work : Empty → Recording → Recording × List Record)
    (setup : Controller.Setup) (config : Recording.Setup) (s : Shared Recording)
    (history : List (Entry Empty)) : Prop where
  /-- Everything that was accepted was spoken once, as accepted and in order, and nothing else was. -/
  spoken : List.Forall₂ Delivery.IsSpokenAs (deliveries history) s.desk.engine.spoken
  /-- What fails leaves no trace. -/
  failed : ∀ earlier entry later e, history = earlier ++ entry :: later →
    entry.answer = some (.submitted (.error e)) →
    ∃ before after, Run Recording.engine work (.new setup (.new config)) before earlier ∧
      Run Recording.engine work (.new setup (.new config)) after (earlier ++ [entry]) ∧
      after.desk.engine.spoken = before.desk.engine.spoken

/-- Whatever tasks do, what is accepted is spoken, and nothing else. -/
theorem speaks_accepted (run : Run Recording.engine work (.new setup (.new config)) s history) :
    SpeaksAccepted work setup config s history where
  spoken := by
    rw [run.spoken_eq, List.forall₂_map_right_iff, List.forall₂_same]
    intro d inside
    exact (run.isReceipted d inside).isSpokenAs
  failed earlier entry later e split refused := by
    obtain ⟨before, turn, reached, possible, same⟩ := run.entry split
    have next := reached.snoc possible
    rw [← same] at next
    refine ⟨before, turn.after, reached, next, ?_⟩
    have silent : entry.delivery? = none := by simp [Entry.delivery?, refused]
    rw [next.spoken_eq, reached.spoken_eq, deliveries_snoc, silent, Option.toList_none,
      List.append_nil]

/-- Two utterances are spoken, and one that comes after the shutdown is not. -/
theorem speaks_accepted_until_shutDown :
    ∃ s history, Run Recording.engine (fun (label : Empty) => label.elim)
        (.new .default (.new .default)) s history ∧
      (deliveries history).length = 2 ∧ s.desk.engine.spoken.length = 2 ∧
      SpeaksAccepted (fun label => label.elim) .default .default s history := by
  let start : Shared Recording := .new .default (.new .default)
  have begun : Run Recording.engine (fun (label : Empty) => label.elim) start _ _ :=
    .snoc .nil (show start.step? _ _ .beginInit = some _ from rfl)
  have ready := begun.snoc (show Shared.step? _ _ _ (.finishInit 0) = some _ from rfl)
  have first := ready.snoc
    (show Shared.step? _ _ _ (.submitUser (.supply 0) "slowly" .add) = some _ from rfl)
  have second := first.snoc
    (show Shared.step? _ _ _ (.submitSystem (.supply 1) "halt") = some _ from rfl)
  have closed := second.snoc (show Shared.step? _ _ _ .shutDown = some _ from rfl)
  have late := closed.snoc
    (show Shared.step? _ _ _ (.submit (.supply 2) "loud" .user) = some _ from rfl)
  exact ⟨_, _, late, rfl, rfl, speaks_accepted late⟩

end SpeechQueue
