import SpeechQueue.Engine.Recording
import SpeechQueue.Proofs.ParameterHistory
import SpeechQueue.Proofs.StartOnce

/-! # What a recording engine is handed

An engine that records has no work of its own, so its list of calls grows by nothing but what the
moves of tasks hand to it. Main statement: `Shared.step?_calls`, what a move adds to the list is read
off its entry in the history. -/

namespace SpeechQueue

variable {ω : Type}

/-! ## The calls of a move -/

/-- The calls by which one utterance is submitted. -/
inductive Block where
  /-- Rate and pitch are set, and the utterance follows with its attributes unless it is refused. -/
  | dialled (rate pitch : Single) (accepted : Option (String × Mode × Attributes))
  /-- An utterance of the program cuts off all others. -/
  | flushed (text : String)

namespace Block

/-- The calls of a block, in order. -/
def calls : Block → List Call
  | .dialled rate pitch accepted =>
    .setRate rate :: .setPitch pitch ::
      (accepted.map fun (text, mode, attributes) => Call.speak ⟨text, mode, some attributes⟩).toList
  | .flushed text => [.speak ⟨text, .flush, none⟩]

/-- The rate and the pitch that a block sets. -/
def dial? : Block → Option (Single × Single)
  | .dialled rate pitch _ => some (rate, pitch)
  | .flushed _ => none

end Block

namespace Entry

/-- The parameters that the controller goes on with after a move. -/
def leaves (entry : Entry ω) : Parameters :=
  resolvedFrom entry.found.parameters entry.heard?.toList

/-- An utterance was submitted and accepted. -/
def isAccepted (entry : Entry ω) : Bool :=
  match entry.answer with
  | some (.submitted result) => result.isOk
  | _ => false

/-- The block of an utterance that carries the parameters of the controller. -/
def dialled (entry : Entry ω) (id : UtteranceId) (text : String) (mode : Mode) : Block :=
  .dialled entry.leaves.rate entry.leaves.pitch
    (if entry.isAccepted then
      some (text, mode, (Attributes.empty.withVolume entry.leaves.volume).withId id)
    else none)

/-- The block that a submission hands to the engine: none when the controller was not ready, or when
the program's utterance was refused. -/
def block? (entry : Entry ω) : Option Block :=
  if entry.found.phase = .ready then
    match entry.move with
    | .submitUser id text mode => some (entry.dialled id text mode)
    | .submit id text _ => some (entry.dialled id text .add)
    | .submitSystem _ text => if entry.isAccepted then some (.flushed text) else none
    | _ => none
  else none

/-- What an engine that records has recorded of a move. -/
def recorded (entry : Entry ω) : List Call :=
  match entry.move, entry.answer with
  | .beginInit, none => [.start]
  | .finishInit _, some (.started (.ok _)) => [.setLanguage entry.found.setup.locale]
  | .shutDown, _ => if entry.found.phase = .closed then [] else [.shutDown]
  | _, _ => entry.block?.toList.flatMap Block.calls

/-- A move that submits nothing hands no block over. -/
theorem block?_of_not_submission {entry : Entry ω} (other : entry.move.isSubmission = false) :
    entry.block? = none := by
  unfold block?
  split
  · cases move : entry.move <;> simp_all [Move.isSubmission]
  · rfl

end Entry

/-! ## Steps -/

namespace Desk

variable (d : Desk Recording) (id : UtteranceId) (text : String) (mode : Mode)

theorem speakWithParameters_calls :
    (d.speakWithParameters Recording.engine id text mode).desk.engine.calls = d.engine.calls ++
      (Block.dialled d.controller.parameters.rate d.controller.parameters.pitch
        (if (d.speakWithParameters Recording.engine id text mode).result.isOk then
          some (text, mode,
            (Attributes.empty.withVolume d.controller.parameters.volume).withId id)
        else none)).calls := by
  -- Rate and pitch are recorded first, whatever the engine then says to the utterance.
  by_cases down : d.engine.isShutDown = true
  · simp [speakWithParameters, Recording.engine, Recording.speak, Recording.record, down,
      Block.calls, Except.isOk, Except.toBool]
  by_cases rejects : d.engine.setup.rejects = true
  · simp [speakWithParameters, Recording.engine, Recording.speak, Recording.record, down, rejects,
      Block.calls, Except.isOk, Except.toBool]
  · simp [speakWithParameters, Recording.engine, Recording.speak, Recording.record, down, rejects,
      Block.calls, Except.isOk, Except.toBool]

/-- The language is chosen when a start that has succeeded ends in time. -/
theorem finishInit_calls (result : Except EngineError Unit) :
    (d.finishInit Recording.engine result).desk.engine.calls = d.engine.calls ++
      match (d.finishInit Recording.engine result).result with
      | .ok _ => [.setLanguage d.controller.setup.locale]
      | .error _ => [] := by
  by_cases closed : d.controller.phase = .closed
  · simp [finishInit, closed]
  · cases result <;> simp [finishInit, closed, Recording.engine, Recording.record]

theorem shutDown_calls :
    (d.shutDown Recording.engine).desk.engine.calls = d.engine.calls ++
      if d.controller.phase = .closed then [] else [.shutDown] := by
  unfold shutDown
  split <;> simp [Recording.engine, Recording.record]

end Desk

/-- A wish to start is handed on when it is the first one, and then its call goes on. -/
theorem Shared.turnOfBegun_calls (s : Shared Recording) :
    let turn := s.turnOfBegun (s.desk.beginInit Recording.engine)
    turn.after.desk.engine.calls = s.desk.engine.calls ++
      match turn.answer with
      | none => [.start]
      | some _ => [] := by
  simp only [turnOfBegun, Desk.beginInit]
  cases s.desk.controller.phase with
  | initializing | ready | closed => simp
  | uninitialized =>
    cases s.desk.controller.attempted with
    | true => simp
    | false =>
      by_cases atOnce : s.desk.engine.setup.initDelay = .zero <;>
        simp [Recording.engine, Recording.record, atOnce]

variable {work : Empty → Recording → Recording × List Record} {s : Shared Recording}
  {turn : Turn Recording}

namespace Shared

/-- A user's text that finds the controller ready is handed over with the parameters that it leads
to. -/
theorem submitUser_calls (s : Shared Recording) (id : UtteranceId) (text : String) (mode : Mode)
    (effects : List Effect) :
    (s.desk.submitUser Recording.engine id text mode).desk.engine.calls =
      s.desk.engine.calls ++ Entry.recorded ⟨s.desk.controller,
        (.submitUser id text mode : Move Empty),
        some (.submitted (s.desk.submitUser Recording.engine id text mode).result), effects⟩ := by
  cases phase : s.desk.controller.phase with
  | uninitialized | initializing | closed =>
    simp [Desk.submitUser, phase, Desk.refusal?, Desk.fail, Entry.recorded, Entry.block?]
  | ready =>
    simp only [Desk.submitUser, phase, Desk.refusal?, Desk.speakWithParameters_calls]
    simp [Entry.recorded, Entry.block?, phase, Entry.dialled, Entry.leaves, Entry.heard?,
      Move.userText?, resolvedFrom, Entry.isAccepted, resolveParameters]

/-- A text of either source is handed over with the parameters that the controller goes on with. -/
theorem submit_calls (s : Shared Recording) (id : UtteranceId) (text : String) (source : Source)
    (effects : List Effect) :
    (s.desk.submit Recording.engine id text source).desk.engine.calls =
      s.desk.engine.calls ++ Entry.recorded ⟨s.desk.controller,
        (.submit id text source : Move Empty),
        some (.submitted (s.desk.submit Recording.engine id text source).result), effects⟩ := by
  cases source with
  | user => exact s.submitUser_calls id text .add effects
  | system =>
    cases phase : s.desk.controller.phase with
    | uninitialized | initializing | closed =>
      simp [Desk.submit, phase, Desk.refusal?, Desk.fail, Entry.recorded, Entry.block?]
    | ready =>
      simp only [Desk.submit, phase, Desk.refusal?, Desk.speakWithParameters_calls]
      simp [Entry.recorded, Entry.block?, phase, Entry.dialled, Entry.leaves, Entry.heard?,
        Move.userText?, resolvedFrom, Entry.isAccepted]

/-- An utterance of the program is recorded when it is accepted, and else leaves no trace. -/
theorem submitSystem_calls (s : Shared Recording) (id : UtteranceId) (text : String)
    (effects : List Effect) :
    (s.desk.submitSystem Recording.engine id text).desk.engine.calls =
      s.desk.engine.calls ++ Entry.recorded ⟨s.desk.controller,
        (.submitSystem id text : Move Empty),
        some (.submitted (s.desk.submitSystem Recording.engine id text).result), effects⟩ := by
  cases phase : s.desk.controller.phase with
  | uninitialized | initializing | closed =>
    simp [Desk.submitSystem, phase, Desk.refusal?, Desk.fail, Entry.recorded, Entry.block?]
  | ready =>
    by_cases down : s.desk.engine.isShutDown = true
    · simp [Desk.submitSystem, phase, Desk.refusal?, Recording.engine, Recording.speak, down,
        Entry.recorded, Entry.block?, Entry.isAccepted, Except.isOk, Except.toBool]
    by_cases rejects : s.desk.engine.setup.rejects = true
    · simp [Desk.submitSystem, phase, Desk.refusal?, Recording.engine, Recording.speak, down,
        rejects, Entry.recorded, Entry.block?, Entry.isAccepted, Except.isOk, Except.toBool]
    · simp [Desk.submitSystem, phase, Desk.refusal?, Recording.engine, Recording.speak, down,
        rejects, Recording.record, Entry.recorded, Entry.block?, Entry.isAccepted, Except.isOk,
        Except.toBool, Block.calls]

/-- A move adds to the list of calls what its entry of the history tells. -/
theorem step?_calls {move : Move Empty} (possible : s.step? Recording.engine work move = some turn) :
    turn.after.desk.engine.calls = s.desk.engine.calls ++
      Entry.recorded ⟨s.desk.controller, move, turn.answer, turn.effects⟩ := by
  cases move with
  | beginInit =>
    cases possible
    rw [s.turnOfBegun_calls]
    cases (s.turnOfBegun (s.desk.beginInit Recording.engine)).answer <;>
      simp [Entry.recorded, Entry.block?]
  | answer place =>
    simp only [step?] at possible
    split at possible
    · cases possible
      simp [Entry.recorded, Entry.block?, Recording.engine]
    · cases possible
  | finishInit place =>
    simp only [step?] at possible
    split at possible
    · cases possible
      dsimp only
      rw [Desk.finishInit_calls]
      split <;> simp_all [Entry.recorded, Entry.block?]
    · cases possible
  | submitUser id text mode =>
    cases possible
    exact s.submitUser_calls id text mode _
  | submitSystem id text =>
    cases possible
    exact s.submitSystem_calls id text _
  | submit id text source =>
    cases possible
    exact s.submit_calls id text source _
  | setListener listener =>
    cases possible
    simp [Desk.setListener, Entry.recorded, Entry.block?]
  | shutDown =>
    cases possible
    exact Desk.shutDown_calls s.desk
  | work label => exact label.elim

end Shared

end SpeechQueue
