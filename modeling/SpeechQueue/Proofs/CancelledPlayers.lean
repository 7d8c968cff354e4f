import SpeechQueue.Proofs.Generations
import SpeechQueue.Proofs.PlayerService

/-! # Players with nothing to start

All that waits with such a player was cancelled, and what it speaks, if anything, is over or was
cancelled too, though the player may have yet to notice. Whenever it can do anything it lets go of
all this and starts nothing: `Done.settle` says what happens, whatever the generation is. After a
call that raises the generation every player is one of these. -/

namespace SpeechQueue

open Playback

namespace Player

/-- All in the channel is cancelled, and so is what is spoken, if anything. -/
structure Spent (generation : Nat) (p : Player) : Prop where
  waiting : ∀ item ∈ p.waiting, item.generation < generation
  behind : p.speaking = none ∨ p.seen < generation

/-- All in the channel is cancelled, and what is spoken, if anything, does not go on. -/
structure Done (generation now : Nat) (p : Player) : Prop where
  waiting : ∀ item ∈ p.waiting, item.generation < generation
  ending : ∀ item ends, p.speaking = some (item, ends) → ends ≤ now ∨ p.seen ≠ generation

variable {wordsPerMinute generation now : Nat} {attached : Bool} {p q : Player} {event : Event}

/-- Raising the generation cancels all. -/
theorem Dated.spent (dated : p.Dated generation) : p.Spent (generation + 1) where
  waiting item waits := Nat.lt_succ_of_le (dated.waiting item waits)
  behind := .inr (Nat.lt_succ_of_le dated.seen)

theorem Step.spent (step : Step wordsPerMinute generation now attached p event q)
    (spent : p.Spent generation) : q.Spent generation := by
  cases step with
  | wake | retire => exact ⟨spent.waiting, spent.behind⟩
  | complete | interrupt => exact ⟨spent.waiting, .inl rfl⟩
  | @receive item rest woken silent channel =>
    have stale : item.generation < generation := spent.waiting item (by simp [channel])
    rw [receive_stale rest p stale]
    refine ⟨fun other waits => spent.waiting other ?_, .inl silent⟩
    rw [channel]
    exact List.mem_cons_of_mem _ waits

theorem Spent.done (spent : p.Spent generation) (now : Nat) : p.Done generation now where
  waiting := spent.waiting
  ending item ends speaking := by
    rcases spent.behind with silent | behind
    · rw [silent] at speaking
      cases speaking
    · exact .inr (Nat.ne_of_lt behind)

/-- How what is spoken ends, if it does not go on. -/
def lastEnding (now : Nat) (p : Player) : List Event :=
  match p.speaking with
  | none => []
  | some (item, ends) => if ends ≤ now then [.completed item] else [.interrupted item]

/-- All that happens with a player that has nothing to start. -/
def lastEvents (now : Nat) (attached : Bool) (p : Player) : List Event :=
  (if p.stage = .fresh then [.opened] else []) ++ p.lastEnding now ++ p.waiting.map .skipped ++
    if attached = false ∧ p.stage ≠ .stopped then [.closed] else []

/-- Where a player comes to that has nothing to start. -/
def lastStage (attached : Bool) (p : Player) : Stage :=
  if attached = false ∨ p.stage = .stopped then .stopped else .running

theorem Done.release (done : p.Done generation now) : ∃ seen,
    p.release generation now = ({ p with speaking := none, seen := seen }, p.lastEnding now) := by
  unfold Player.release lastEnding
  cases speaking : p.speaking with
  | none =>
    have same : p = { p with speaking := none } := by rw [← speaking]
    exact ⟨p.seen, congrArg (·, []) same⟩
  | some spoken =>
    obtain ⟨item, ends⟩ := spoken
    by_cases past : ends ≤ now
    · exact ⟨p.seen, by simp [past]⟩
    · have behind := (done.ending item ends speaking).resolve_left past
      exact ⟨generation, by simp [past, behind]⟩

/-- What a player does that has nothing to start depends neither on the generation nor on what the
player saw of it. -/
theorem Done.settle (done : p.Done generation now) :
    ∃ seen, p.settle wordsPerMinute generation now attached =
      (⟨p.lastStage attached, [], none, seen⟩, p.lastEvents now attached) := by
  have woken : p.wake.1.Done generation now := by
    unfold Player.wake
    split <;> exact ⟨done.waiting, done.ending⟩
  obtain ⟨seen, released⟩ := woken.release
  obtain ⟨last, drained⟩ := drain_cancelled wordsPerMinute now
    (p := { p.wake.1 with speaking := none, seen := seen }) rfl rfl woken.waiting
  refine ⟨last, ?_⟩
  simp only [Player.settle, released, Option.isNone_none, if_true, drained]
  cases stage : p.stage <;> cases attached <;>
    simp [retire, wake, lastStage, lastEvents, lastEnding, stage]

/-- Nothing is started by a player that has nothing to start. -/
theorem started_notMem_lastEvents (item : Item) (now : Nat) (attached : Bool) (p : Player) :
    .started item ∉ p.lastEvents now attached := by
  have ending : .started item ∉ p.lastEnding now := by
    unfold lastEnding
    split
    · simp
    · split <;> simp
  simp only [lastEvents, List.mem_append, not_or]
  refine ⟨⟨⟨?_, ending⟩, by simp⟩, ?_⟩
  · split <;> simp
  · split <;> simp

end Player

namespace Console

variable {c : Console}

/-- When all players are let go of and have nothing left, they stop as soon as they can. -/
theorem play_spent (now : Nat) (stopped : c.installed = none)
    (spent : ∀ p ∈ c.players, p.Spent c.generation) : (c.play now).1.players = [] := by
  have gone : ∀ p ∈ c.detached,
      (p.settle c.setup.wordsPerMinute c.generation now false).1.stage = .stopped := by
    intro p member
    obtain ⟨seen, settled⟩ := ((spent p (List.mem_append_left _ member)).done now).settle
    rw [settled]
    rfl
  simpa [play, players, stopped, List.filter_eq_nil_iff] using gone

end Console

end SpeechQueue
