import SpeechQueue.Proofs.ConsoleRuns
import SpeechQueue.Proofs.DeskSteps

/-! # When a flush gets through

A flush cancels all that waits, but what it cancels keeps its room in the channel until the player
takes it out. A flush that finds room is kept: its utterance is the next to be started. One that
finds none is refused, although it has cancelled everything else. `flush_kept_iff` says that room in
the channel is all that decides, in every state that a run reaches. -/

namespace SpeechQueue

open Playback

namespace Console

/-- The utterance whose start is noted. -/
def Note.started? : Note → Option Item
  | .happened (.started item) => some item
  | _ => none

/-- The first utterance that is started. -/
def firstStarted (notes : List Note) : Option Item := notes.findSome? Note.started?

theorem firstStarted_append (first second : List Note) :
    firstStarted (first ++ second) = (firstStarted first).or (firstStarted second) :=
  List.findSome?_append

/-- Nothing is cancelled and no other player is installed. -/
def Undisturbed (notes : List Note) : Prop := .renewed ∉ notes ∧ .installed ∉ notes

theorem Undisturbed.of_append {first second : List Note} (undisturbed : Undisturbed (first ++ second)) :
    Undisturbed first ∧ Undisturbed second := by
  simp only [Undisturbed, List.mem_append, not_or] at undisturbed ⊢
  exact ⟨⟨undisturbed.1.1, undisturbed.2.1⟩, ⟨undisturbed.1.2, undisturbed.2.2⟩⟩

/-- The installed player has an utterance before it that it will not pass over, and only cancelled
ones before that. What it speaks, if anything, is cancelled too, and it has yet to notice. -/
structure NextUp (generation : Nat) (item : Item) (p : Player) : Prop where
  channel : ∃ stale later, p.waiting = stale ++ item :: later ∧
    ∀ other ∈ stale, other.generation < generation
  interrupted : p.speaking = none ∨ p.seen < generation

/-- An utterance is next with the installed player, and the other players have nothing to start. -/
structure Awaits (item : Item) (c : Console) : Prop where
  nextUp : ∃ player, c.installed = some player ∧ NextUp c.generation item player
  current : item.generation = c.generation
  others : ∀ p ∈ c.detached, ∀ other ∈ p.waiting, other.generation < c.generation

variable {c d : Console} {item : Item} {notes more : List Note}

/-- A step of the player starts the utterance that is next, or starts none and leaves it next. -/
theorem NextUp.step {wordsPerMinute generation now : Nat} {p q : Player} {event : Event}
    (nextUp : NextUp generation item p) (current : item.generation = generation)
    (step : Player.Step wordsPerMinute generation now true p event q) :
    event = .started item ∨ (Note.happened event).started? = none ∧ NextUp generation item q := by
  obtain ⟨⟨stale, later, channel, passed⟩, interrupted⟩ := nextUp
  cases step with
  | wake => exact .inr ⟨rfl, ⟨stale, later, channel, passed⟩, interrupted⟩
  | complete => exact .inr ⟨rfl, ⟨stale, later, channel, passed⟩, .inl rfl⟩
  | interrupt => exact .inr ⟨rfl, ⟨stale, later, channel, passed⟩, .inl rfl⟩
  | retire detached => cases detached
  | @receive first rest _ silent front =>
    rw [front] at channel
    cases stale with
    | nil =>
      obtain ⟨rfl, -⟩ := List.cons.inj channel
      refine .inl ?_
      simp [Player.receive, current]
    | cons other stale =>
      obtain ⟨rfl, rfl⟩ := List.cons.inj channel
      have skipped : first.generation < generation := passed first List.mem_cons_self
      refine .inr ?_
      simp only [Player.receive, skipped, if_true]
      exact ⟨rfl, ⟨stale, later, rfl, fun other member => passed other (.tail _ member)⟩, .inl silent⟩

/-- A player whose channel holds only cancelled utterances starts none. -/
theorem started?_of_stale {wordsPerMinute generation now : Nat} {attached : Bool} {p q : Player}
    {event : Event} (stale : ∀ other ∈ p.waiting, other.generation < generation)
    (step : Player.Step wordsPerMinute generation now attached p event q) :
    (Note.happened event).started? = none ∧ ∀ other ∈ q.waiting, other.generation < generation := by
  cases step with
  | wake | complete | interrupt | retire => exact ⟨rfl, stale⟩
  | @receive first rest _ _ front =>
    rw [front] at stale
    have skipped : first.generation < generation := stale first List.mem_cons_self
    simp only [Player.receive, skipped, if_true]
    exact ⟨rfl, fun other member => stale other (.tail _ member)⟩

/-- A further utterance that is accepted goes behind the one that is next. -/
theorem Awaits.speak (awaits : Awaits item c) (speech : Speech)
    (undisturbed : Undisturbed (c.notesOfSpeak speech)) :
    firstStarted (c.notesOfSpeak speech) = none ∧ Awaits item (c.speak speech).2.1 := by
  obtain ⟨⟨player, running, ⟨stale, later, channel, passed⟩, interrupted⟩, current, others⟩ := awaits
  cases mode : speech.mode with
  | flush => simp [notesOfSpeak, running, mode, Undisturbed] at undisturbed
  | add =>
    by_cases room : player.waiting.length < c.capacity
    · rw [speak_accepted speech running room, mode]
      refine ⟨by simp [notesOfSpeak, running, mode, room, firstStarted, Note.started?], ?_⟩
      refine ⟨⟨_, rfl, ⟨stale, later ++ [c.item speech], ?_, passed⟩, interrupted⟩,
        current, others⟩
      simp [channel, renewedFor]
    · rw [speak_full speech running (Nat.le_of_not_lt room), mode]
      refine ⟨by simp [notesOfSpeak, running, mode, room, firstStarted], ?_⟩
      exact ⟨⟨player, running, ⟨stale, later, channel, passed⟩, interrupted⟩, current, others⟩

/-- A step starts the utterance that is next, or starts none and leaves it next. -/
theorem Awaits.step (awaits : Awaits item c) (step : Step c more d) (undisturbed : Undisturbed more) :
    firstStarted more = some item ∨ firstStarted more = none ∧ Awaits item d := by
  cases step with
  | finishStart | shutDown => simp [Undisturbed] at undisturbed
  | setRate | setPitch => exact .inr ⟨rfl, awaits.nextUp, awaits.current, awaits.others⟩
  | speak speech => exact .inr (awaits.speak speech undisturbed)
  | installed place step =>
    obtain ⟨player, running, nextUp⟩ := awaits.nextUp
    obtain rfl := Option.some.inj (place.symm.trans running)
    rcases nextUp.step awaits.current step with rfl | ⟨none, nextUp⟩
    · exact .inl rfl
    · refine .inr ⟨by simp [firstStarted, none], ⟨_, rfl, nextUp⟩, awaits.current, awaits.others⟩
  | @detached front back p q event now place step =>
    have stale := awaits.others p (by simp [place])
    obtain ⟨none, still⟩ := started?_of_stale stale step
    refine .inr ⟨by simp [firstStarted, none], awaits.nextUp, awaits.current, ?_⟩
    intro other member
    by_cases same : other = q
    · exact same ▸ still
    · exact awaits.others other (place ▸ mem_of_ne member same)
  | sweep =>
    refine .inr ⟨rfl, awaits.nextUp, awaits.current, fun p member => ?_⟩
    exact awaits.others p (List.mem_filter.mp member).1

/-- The utterance that is next is the first that a run starts, if the run starts any. -/
theorem Awaits.run (awaits : Awaits item c) (run : Run c d notes) (undisturbed : Undisturbed notes) :
    firstStarted notes = some item ∨ firstStarted notes = none ∧ Awaits item d := by
  induction run with
  | nil => exact .inr ⟨rfl, awaits⟩
  | @snoc c' d' earlier more run step ih =>
    have parts := undisturbed.of_append
    rw [firstStarted_append]
    rcases ih parts.1 with started | ⟨none, still⟩
    · rw [started, Option.some_or]
      exact .inl rfl
    · rw [none, Option.none_or]
      exact still.step step parts.2

/-- Once the engine has done what it can, the utterance that was next has been started. -/
theorem Awaits.play (awaits : Awaits item c) (now : Nat) :
    firstStarted ((c.play now).2.map .happened) = some item := by
  have run : Run c (c.play now).1 ([] ++ (c.play now).2.map .happened) := Run.nil.play now
  rw [List.nil_append] at run
  rcases awaits.run run (by simp [Undisturbed]) with started | ⟨-, still⟩
  · exact started
  · obtain ⟨player, running, ⟨stale, later, channel, -⟩, interrupted⟩ := still.nextUp
    have caughtUp := play_caughtUp running
    have busy : player.speaking ≠ none := fun silent => by simp [caughtUp.silent silent] at channel
    have behind : player.seen < c.generation := interrupted.resolve_left busy
    exact absurd (caughtUp.current busy) (Nat.ne_of_lt behind)

/-- What a flush promises: it is accepted, and its utterance is the first to be started from then
on, at the latest when the engine does what it can. -/
structure FlushKept (text : String) (attributes : Option Attributes) (c : Console) : Prop where
  accepted : (c.speak ⟨text, .flush, attributes⟩).1 = .ok ()
  next : ∀ (d : Console) (notes : List Note),
    Run (c.speak ⟨text, .flush, attributes⟩).2.1 d notes → Undisturbed notes →
    firstStarted notes = some ((c.renewedFor .flush).item ⟨text, .flush, attributes⟩) ∨
    firstStarted notes = none ∧ ∀ now, firstStarted ((d.play now).2.map .happened) =
      some ((c.renewedFor .flush).item ⟨text, .flush, attributes⟩)

/-- A flush that is accepted makes its utterance the next one. -/
theorem awaits_of_flush {player : Player} (text : String) (attributes : Option Attributes)
    (dated : ∀ p ∈ c.players, p.Dated c.generation) (running : c.installed = some player)
    (room : player.waiting.length < c.capacity) :
    Awaits ((c.renewedFor .flush).item ⟨text, .flush, attributes⟩)
      (c.speak ⟨text, .flush, attributes⟩).2.1 := by
  have earlier : ∀ p ∈ c.players, ∀ other ∈ p.waiting, other.generation < c.generation + 1 :=
    fun p member other waits => Nat.lt_succ_of_le ((dated p member).waiting other waits)
  have member : player ∈ c.players := by simp [players, running]
  rw [speak_accepted _ running room]
  refine ⟨⟨_, rfl, ⟨player.waiting, [], rfl, earlier player member⟩, .inr ?_⟩, rfl, ?_⟩
  · exact Nat.lt_succ_of_le (dated player member).seen
  · exact fun p detached => earlier p (List.mem_append_left _ detached)

/-- In every state of a running engine, a flush is kept exactly if there is room in the channel for
one more utterance. With no room it is refused, though the generation goes up; and a controller
that is ready passes either answer on. -/
theorem flush_kept_iff {setup : Setup} {player : Player} (run : Run (.new setup) c notes)
    (running : c.installed = some player) (text : String) (attributes : Option Attributes) :
    (FlushKept text attributes c ↔ player.waiting.length < c.capacity) ∧
    (c.capacity ≤ player.waiting.length → c.speak ⟨text, .flush, attributes⟩ =
      (.error (.rejected "playback queue full"), { c with generation := c.generation + 1 }, [])) ∧
    ∀ (desk : Desk Console) (id : UtteranceId), desk.engine = c → desk.controller.phase = .ready →
      (desk.submitSystem engine id text).result =
        if player.waiting.length < c.capacity then .ok ⟨id, .flush, none⟩
        else .error (.speakFailed "Speak rejected: playback queue full") := by
  refine ⟨⟨fun kept => ?_, fun room => ⟨?_, fun d later continued undisturbed => ?_⟩⟩,
    fun full => speak_full _ running full, fun desk id same ready => ?_⟩
  · refine Nat.lt_of_not_le fun full => ?_
    have accepted := kept.accepted
    rw [speak_full _ running full] at accepted
    cases accepted
  · rw [speak_accepted _ running room]
  · rcases (awaits_of_flush text attributes run.dated running room).run continued undisturbed with
      started | ⟨none, still⟩
    · exact .inl started
    · exact .inr ⟨none, still.play⟩
  · subst same
    by_cases room : player.waiting.length < desk.engine.capacity
    · rw [if_pos room, desk.submitSystem_result engine ready, engine_speak,
        speak_accepted _ running room]
    · rw [if_neg room, desk.submitSystem_result engine ready, engine_speak,
        speak_full _ running (Nat.le_of_not_lt room)]
      rfl

/-- A flush that finds room is kept, though the player still speaks and has yet to pass over what an
earlier flush cancelled. -/
theorem flush_kept_of_cancelled :
    ∃ (c : Console) (notes : List Note) (player : Player),
      Run (.new ⟨180, ["en-US"], .zero, 3⟩) c notes ∧
      c.installed = some player ∧ player.speaking.isSome ∧
      (player.waiting.map fun item => (item.text, decide (item.generation < c.generation))) =
        [("four", true), ("five", false)] ∧
      FlushKept "urgent" none c := by
  have started : Run (.new ⟨180, ["en-US"], .zero, 3⟩) _ _ := Run.nil.snoc (.finishStart rfl)
  have spoken := (started.snoc (.speak _ ⟨"one two three", .add, none⟩)).play 0
  have run := (spoken.snoc (.speak _ ⟨"four", .add, none⟩)).snoc (.speak _ ⟨"five", .flush, none⟩)
  generalize reached : (speak ⟨"five", .flush, none⟩ _).2.1 = c at run
  have busy : c.capacity = 3 ∧ c.installed.any fun p => p.speaking.isSome ∧
      (p.waiting.map fun item => (item.text, decide (item.generation < c.generation))) =
        [("four", true), ("five", false)] := by
    subst reached
    decide +kernel
  obtain ⟨player, running, speaking, waiting⟩ : ∃ player, c.installed = some player ∧
      player.speaking.isSome ∧
      (player.waiting.map fun item => (item.text, decide (item.generation < c.generation))) =
        [("four", true), ("five", false)] := by
    simpa [Option.any_eq_true] using busy.2
  have two : player.waiting.length = 2 := by simpa using congrArg List.length waiting
  have room : player.waiting.length < c.capacity := by
    rw [two, busy.1]
    decide
  exact ⟨c, _, player, run, running, speaking, waiting,
    (flush_kept_iff run running "urgent" none).1.mpr room⟩

/-- With room for one, a flush is refused while one utterance is spoken and another one waits. -/
theorem flush_refused_when_full :
    ∃ (c : Console) (notes : List Note) (player : Player),
      Run (.new ⟨180, ["en-US"], .zero, 1⟩) c notes ∧
      c.installed = some player ∧ player.speaking.isSome ∧ player.waiting.length = 1 ∧
      (c.speak ⟨"urgent", .flush, none⟩).1 = .error (.rejected "playback queue full") ∧
      (Desk.submitSystem engine (.supply 0) "urgent"
        ⟨{ Controller.new .default with phase := .ready }, c⟩).result =
          .error (.speakFailed "Speak rejected: playback queue full") := by
  have started : Run (.new ⟨180, ["en-US"], .zero, 1⟩) _ _ := Run.nil.snoc (.finishStart rfl)
  have spoken := (started.snoc (.speak _ ⟨"one two three", .add, none⟩)).play 0
  have run := spoken.snoc (.speak _ ⟨"four", .add, none⟩)
  generalize reached : (speak ⟨"four", .add, none⟩ _).2.1 = c at run
  have busy : c.capacity = 1 ∧
      c.installed.any fun p => p.speaking.isSome ∧ p.waiting.length = 1 := by
    subst reached
    decide +kernel
  obtain ⟨player, running, speaking, waiting⟩ :
      ∃ player, c.installed = some player ∧ player.speaking.isSome ∧ player.waiting.length = 1 := by
    simpa [Option.any_eq_true] using busy.2
  have full : c.capacity ≤ player.waiting.length := Nat.le_of_eq (busy.1.trans waiting.symm)
  refine ⟨c, _, player, run, running, speaking, waiting, ?_, ?_⟩
  · rw [speak_full _ running full]
  · rw [Desk.submitSystem_result engine _ rfl, engine_speak, speak_full _ running full]
    rfl

end Console

end SpeechQueue
