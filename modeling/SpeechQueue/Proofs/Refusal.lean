import SpeechQueue.Proofs.Conservation
import SpeechQueue.Proofs.Playthrough

/-! # What a refused utterance changes

An utterance that is refused leaves the engine as it is, with one exception: a flush that finds the
channel full has raised the generation by then. `refused_iff` says when this can be noticed, namely
exactly when some player still had something that was not cancelled before. -/

namespace SpeechQueue

open Playback

namespace Player

theorem Spent.not_hasCurrent {generation now : Nat} {p : Player} (spent : p.Spent generation) :
    ¬ p.HasCurrent generation now := by
  rintro (⟨item, waits, current⟩ | ⟨item, ends, speaking, -, seen⟩)
  · exact Nat.ne_of_lt (spent.waiting item waits) current
  · rcases spent.behind with silent | behind
    · rw [silent] at speaking
      cases speaking
    · exact Nat.ne_of_lt behind seen

end Player

namespace Console

variable {c : Console} {notes : List Note} {now : Nat} {setup : Setup}

/-- The engine after a flush that is refused by a full channel. -/
def raised (c : Console) : Console := { c with generation := c.generation + 1 }

/-- A refused utterance leaves all as it is, unless it is a flush and the engine is running. -/
theorem speak_refused {speech : Speech} {e : EngineError} (refused : (c.speak speech).1 = .error e) :
    (c.speak speech).2.1 =
      if speech.mode = .flush ∧ c.installed.isSome then c.raised else c := by
  cases running : c.installed with
  | none => simp [speak_unavailable speech running]
  | some player =>
    rcases Nat.lt_or_ge player.waiting.length c.capacity with room | full
    · rw [speak_accepted speech running room] at refused
      cases refused
    · rw [speak_full speech running full]
      cases speech.mode <;> rfl

theorem Run.spent_raised (run : Run (.new setup) c notes) :
    ∀ p ∈ c.raised.players, p.Spent c.raised.generation :=
  fun p member => (run.dated p member).spent

theorem started_notMem_lastEvents (item : Item) (now : Nat) (c : Console) :
    .started item ∉ c.lastEvents now := by
  have before : .started item ∉ c.detached.flatMap (·.lastEvents now false) := by
    simp [Player.started_notMem_lastEvents]
  have latest : .started item ∉ c.installed.toList.flatMap (·.lastEvents now true) := by
    simp [Player.started_notMem_lastEvents]
  unfold lastEvents
  dsimp only
  split <;> simp only [List.mem_append, before, latest, or_self, not_false_eq_true]

/-- An utterance that is in the channel of a player would have been started. -/
theorem Run.playthrough_raised_of_waiting (run : Run (.new setup) c notes) {p : Player}
    {attached : Bool} (seat : c.Seats p attached) {item : Item} (waits : item ∈ p.waiting)
    (current : item.generation = c.generation) :
    ∃ time, now ≤ time ∧ c.raised.playthrough [time] ≠ c.playthrough [time] := by
  -- By then, what the player speaks is over.
  let time := max now ((p.speaking.map (·.2)).getD now)
  have past : ∀ item ends, p.speaking = some (item, ends) → ends ≤ time := by
    intro item ends speaking
    simp only [time, speaking, Option.map_some, Option.getD_some]
    exact Nat.le_max_right ..
  refine ⟨time, Nat.le_max_left .., fun same => ?_⟩
  obtain ⟨other, starts⟩ : ∃ other,
      .started other ∈ (p.settle c.setup.wordsPerMinute c.generation time attached).2 :=
    Player.settle_starts ⟨item, waits, Nat.le_of_eq current.symm⟩ past
  have started : .started other ∈ (c.play time).2 := mem_play.mpr ⟨p, attached, seat, starts⟩
  have happens : (time, Event.started other) ∈ c.playthrough [time] := by
    simp [playthrough, started]
  rw [← same, playthrough_done fun p member => (run.spent_raised p member).done time] at happens
  simp [started_notMem_lastEvents] at happens

/-- An utterance that a player speaks would have been completed. -/
theorem Run.playthrough_raised_of_speaking (run : Run (.new setup) c notes) {p : Player}
    {attached : Bool} (seat : c.Seats p attached) {item : Item} {ends : Nat}
    (speaking : p.speaking = some (item, ends)) (lasting : now < ends)
    (seen : p.seen = c.generation) :
    c.raised.playthrough [now, ends] ≠ c.playthrough [now, ends] := by
  intro same
  have goesOn : p.wake.1.stage ≠ .stopped := by
    have held : p.held ≠ [] := by simp [Player.held, Player.spoken?, speaking]
    have going : p.stage ≠ .stopped := fun stopped =>
      held (run.manned.idle p (mem_players.mpr ⟨attached, seat⟩) stopped)
    unfold Player.wake
    split
    · simp
    · exact going
  have settled : p.settle c.setup.wordsPerMinute c.generation now attached = p.wake :=
    Player.settle_lasting speaking lasting seen
  have still : (c.play now).1.Seats p.wake.1 attached := by
    rw [← settled]
    exact seat.play (by rwa [settled])
  have completed : .completed item ∈ ((c.play now).1.play ends).2 := by
    refine mem_play.mpr ⟨_, attached, still, ?_⟩
    exact Player.settle_completes (p.wake_speaking.trans speaking) (Nat.le_refl ends)
  have happens : (ends, Event.completed item) ∈ c.playthrough [now, ends] := by
    simp [playthrough, completed]
  rw [← same, playthrough_done fun p member => (run.spent_raised p member).done now] at happens
  obtain ⟨event, -, wrong⟩ := List.mem_map.mp happens
  exact Nat.ne_of_lt lasting (Prod.mk.inj wrong).1

/-- A player with something current makes a difference. -/
theorem Run.playthrough_raised_ne (run : Run (.new setup) c notes) {p : Player}
    (member : p ∈ c.players) (current : p.HasCurrent c.generation now) :
    ∃ times, (∀ time ∈ times, now ≤ time) ∧ c.raised.playthrough times ≠ c.playthrough times := by
  obtain ⟨attached, seat⟩ := mem_players.mp member
  rcases current with ⟨item, waits, tag⟩ | ⟨item, ends, speaking, lasting, seen⟩
  · obtain ⟨time, order, differs⟩ := run.playthrough_raised_of_waiting seat waits tag
    exact ⟨[time], by simpa using order, differs⟩
  · refine ⟨[now, ends], ?_, run.playthrough_raised_of_speaking seat speaking lasting seen⟩
    simpa using Nat.le_of_lt lasting

/-- Without any of these, raising the generation makes none. -/
theorem Run.playthrough_raised_eq (run : Run (.new setup) c notes)
    (nothing : ∀ p ∈ c.players, ¬ p.HasCurrent c.generation now) {times : List Nat}
    (order : ∀ time ∈ times, now ≤ time) : c.raised.playthrough times = c.playthrough times := by
  cases times with
  | nil => rfl
  | cons time times =>
    have later : now ≤ time := order time List.mem_cons_self
    have done : ∀ p ∈ c.players, p.Done c.generation time := fun p member =>
      (run.tagged p member).done (nothing p member) later (.inl rfl)
    have raisedDone : ∀ p ∈ c.raised.players, p.Done c.raised.generation time := fun p member =>
      (run.tagged p member).done (nothing p member) later (.inr rfl)
    rw [playthrough_done done, playthrough_done raisedDone]
    rfl

/-- An utterance that is refused leaves playback from then on as it is, unless it is a flush of a
running engine and some player has something that was not cancelled before. -/
theorem refused_iff (run : Run (.new setup) c notes) {speech : Speech} {e : EngineError}
    (refused : (c.speak speech).1 = .error e) (now : Nat) :
    (c.speak speech).2.1 =
      (if speech.mode = .flush ∧ c.installed.isSome then c.raised else c) ∧
    ((∀ times, (∀ time ∈ times, now ≤ time) →
        (c.speak speech).2.1.playthrough times = c.playthrough times) ↔
      ¬ (speech.mode = .flush ∧ c.installed.isSome ∧
        ∃ p ∈ c.players, p.HasCurrent c.generation now)) := by
  refine ⟨speak_refused refused, ?_⟩
  rw [speak_refused refused]
  by_cases flushed : speech.mode = .flush ∧ c.installed.isSome
  · rw [if_pos flushed]
    constructor
    · rintro same ⟨-, -, p, member, current⟩
      obtain ⟨times, order, differs⟩ := run.playthrough_raised_ne member current
      exact differs (same times order)
    · intro nothing times order
      refine run.playthrough_raised_eq (fun p member current => nothing ?_) order
      exact ⟨flushed.1, flushed.2, p, member, current⟩
  · rw [if_neg flushed]
    exact iff_of_true (fun _ _ => rfl) fun both => flushed ⟨both.1, both.2.1⟩

theorem speak_of_full (speech : Speech)
    (full : c.installed.any (c.capacity ≤ ·.waiting.length) = true) :
    (c.speak speech).1 = .error (.rejected "playback queue full") := by
  cases running : c.installed with
  | none => simp [running] at full
  | some player =>
    rw [speak_full speech running (by simpa [running] using full)]

/-- A second flush that is refused before the player has run changes nothing more. -/
theorem refused_again_unnoticed :
    ∃ (c : Console) (notes : List Note), Run (.new ⟨180, ["en-US"], .zero, 1⟩) c notes ∧
      (c.speak ⟨"urgent", .flush, none⟩).1 = .error (.rejected "playback queue full") ∧
      ∀ times, (c.speak ⟨"urgent", .flush, none⟩).2.1.playthrough times = c.playthrough times := by
  have started : Run (.new ⟨180, ["en-US"], .zero, 1⟩) _ _ := Run.nil.snoc (.finishStart rfl)
  have spoken := (started.snoc (.speak _ ⟨"one two three", .add, none⟩)).play 0
  have busy := spoken.snoc (.speak _ ⟨"four", .add, none⟩)
  generalize reached : (speak ⟨"four", .add, none⟩ _).2.1 = c at busy
  have full : c.installed.any (c.capacity ≤ ·.waiting.length) = true ∧
      c.raised.installed.any (c.raised.capacity ≤ ·.waiting.length) = true := by
    subst reached
    decide +kernel
  have running : c.installed.isSome := by
    cases installed : c.installed with
    | none => simp [installed] at full
    | some p => rfl
  have run := busy.snoc (.speak c ⟨"urgent", .flush, none⟩)
  rw [speak_refused (speak_of_full _ full.1), if_pos ⟨rfl, running⟩] at run
  refine ⟨c.raised, _, run, speak_of_full _ full.2, fun times => ?_⟩
  refine (refused_iff run (speak_of_full _ full.2) 0).2.mpr ?_ times fun _ _ => Nat.zero_le _
  rintro ⟨-, -, p, member, current⟩
  exact (busy.spent_raised p member).not_hasCurrent current

/-- With room for one, a flush that is refused takes away both the utterance being spoken and the one
that waits. -/
theorem refused_flush_interrupts :
    ∃ (c : Console) (notes : List Note), Run (.new ⟨180, ["en-US"], .zero, 1⟩) c notes ∧
      (c.speak ⟨"urgent", .flush, none⟩).1 = .error (.rejected "playback queue full") ∧
      ((c.playthrough [0, 2000000000, 3000000000]).filter (·.2.isCompletion)).map (·.1) =
        [2000000000, 3000000000] ∧
      (((c.speak ⟨"urgent", .flush, none⟩).2.1.playthrough [0, 2000000000, 3000000000]).filter
        (·.2.isCompletion)).map (·.1) = [] := by
  have started : Run (.new ⟨180, ["en-US"], .zero, 1⟩) _ _ := Run.nil.snoc (.finishStart rfl)
  have spoken := (started.snoc (.speak _ ⟨"one two three four five six", .add, none⟩)).play 0
  have run := spoken.snoc (.speak _ ⟨"seven eight nine", .add, none⟩)
  refine ⟨_, _, run, speak_of_full _ ?_, ?_, ?_⟩
  · decide +kernel
  · decide +kernel
  · decide +kernel

end Console

end SpeechQueue
