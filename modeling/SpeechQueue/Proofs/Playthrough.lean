import SpeechQueue.Proofs.CancelledPlayers

/-! # Playing on without further calls

Left alone, an engine goes on by itself at whatever times its players run. A player with something
current starts or completes it, given the time; if no player has anything current, all of them end
with the next chance, in a way that does not depend on the generation. -/

namespace SpeechQueue

open Playback

namespace Player

/-- The player has something that was not cancelled: an utterance in its channel, or one it speaks
that is not over yet. -/
def HasCurrent (generation now : Nat) (p : Player) : Prop :=
  (∃ item ∈ p.waiting, item.generation = generation) ∨
    ∃ item ends, p.speaking = some (item, ends) ∧ now < ends ∧ p.seen = generation

variable {wordsPerMinute generation now ends : Nat} {attached : Bool} {p : Player} {item : Item}

/-- A player that has nothing current is done, now and later, in its generation and in the next. -/
theorem Tagged.done (tagged : p.Tagged generation) (nothing : ¬ p.HasCurrent generation now)
    {later next : Nat} (order : now ≤ later) (after : next = generation ∨ next = generation + 1) :
    p.Done next later := by
  have stale : ∀ item ∈ p.waiting, item.generation < generation := by
    intro item waits
    refine Nat.lt_of_le_of_ne (tagged.waiting item waits) fun current => nothing ?_
    exact .inl ⟨item, waits, current⟩
  refine ⟨fun item waits => ?_, fun item ends speaking => ?_⟩
  · have behind := stale item waits
    omega
  · have seen := tagged.seen
    by_cases past : ends ≤ now
    · exact .inl (Nat.le_trans past order)
    · have unseen : p.seen ≠ generation := fun same =>
        nothing (.inr ⟨item, ends, speaking, Nat.lt_of_not_le past, same⟩)
      right
      omega

theorem release_silent (silent : p.speaking = none) : p.release generation now = (p, []) := by
  simp [release, silent]

theorem release_over (speaking : p.speaking = some (item, ends)) (past : ends ≤ now) :
    p.release generation now = ({ p with speaking := none }, [.completed item]) := by
  simp [release, speaking, past]

theorem release_lasting (speaking : p.speaking = some (item, ends)) (lasting : now < ends)
    (seen : p.seen = generation) : p.release generation now = (p, []) := by
  simp [release, speaking, Nat.not_le_of_lt lasting, seen]

@[simp] theorem wake_speaking (p : Player) : p.wake.1.speaking = p.speaking := by
  unfold wake
  split <;> rfl

@[simp] theorem wake_waiting (p : Player) : p.wake.1.waiting = p.waiting := by
  unfold wake
  split <;> rfl

@[simp] theorem wake_seen (p : Player) : p.wake.1.seen = p.seen := by
  unfold wake
  split <;> rfl

/-- Draining a channel with a current utterance in it starts one. -/
theorem drain_starts {waiting : List Item} (silent : p.speaking = none)
    (current : ∃ item ∈ waiting, generation ≤ item.generation) :
    ∃ item, .started item ∈ (drain wordsPerMinute generation now waiting p).2 := by
  induction waiting generalizing p with
  | nil => simp at current
  | cons item rest ih =>
    rcases Nat.lt_or_ge item.generation generation with stale | fresh
    · have remaining : ∃ item ∈ rest, generation ≤ item.generation := by
        obtain ⟨other, member, tag⟩ := current
        rcases List.mem_cons.mp member with rfl | later
        · exact absurd tag (Nat.not_le_of_lt stale)
        · exact ⟨other, later, tag⟩
      have passed : Player.speaking { p with waiting := rest, seen := generation } = none := silent
      obtain ⟨other, started⟩ := ih passed remaining
      refine ⟨other, ?_⟩
      simp only [drain, receive_stale rest p stale, release_silent passed, passed,
        Option.isNone_none, if_true]
      exact List.mem_cons_of_mem _ started
    · refine ⟨item, ?_⟩
      simp only [drain, receive_current rest p fresh]
      split <;> exact List.mem_cons_self

/-- Once what it speaks is over, a player with a current utterance in its channel starts one. -/
theorem settle_starts (current : ∃ item ∈ p.waiting, generation ≤ item.generation)
    (past : ∀ item ends, p.speaking = some (item, ends) → ends ≤ now) :
    ∃ item, .started item ∈ (p.settle wordsPerMinute generation now attached).2 := by
  have silent : (p.wake.1.release generation now).1.speaking = none := by
    cases speaking : p.wake.1.speaking with
    | none => rw [release_silent speaking, speaking]
    | some spoken =>
      obtain ⟨item, ends⟩ := spoken
      rw [release_over speaking (past item ends (p.wake_speaking ▸ speaking))]
  have remaining : ∃ item ∈ (p.wake.1.release generation now).1.waiting,
      generation ≤ item.generation := by
    rwa [release_waiting, wake_waiting]
  obtain ⟨item, started⟩ := drain_starts silent remaining
  refine ⟨item, ?_⟩
  simp only [settle, silent, Option.isNone_none, if_true]
  exact List.mem_append_left _ (List.mem_append_right _ started)

/-- A player goes on speaking what is neither over nor cancelled. -/
theorem settle_lasting (speaking : p.speaking = some (item, ends)) (lasting : now < ends)
    (seen : p.seen = generation) :
    p.settle wordsPerMinute generation now attached = p.wake := by
  have goesOn := (p.wake_speaking).trans speaking
  simp [settle, release_lasting goesOn lasting (p.wake_seen.trans seen), speaking, retire]

/-- When its time is over, what a player speaks is completed. -/
theorem settle_completes (speaking : p.speaking = some (item, ends)) (past : ends ≤ now) :
    .completed item ∈ (p.settle wordsPerMinute generation now attached).2 := by
  have spoken := (p.wake_speaking).trans speaking
  simp [settle, release_over spoken past]

end Player

namespace Console

variable {c : Console} {now : Nat} {event : Event}

/-- All that happens when the engine does what it can at some times, each of them in turn. -/
def playthrough : List Nat → Console → List (Nat × Event)
  | [], _ => []
  | now :: times, c => (c.play now).2.map (now, ·) ++ playthrough times (c.play now).1

/-- A player and whether utterances can be put into its channel. -/
def Seats (c : Console) (p : Player) (attached : Bool) : Prop :=
  p ∈ c.detached ∧ attached = false ∨ c.installed = some p ∧ attached = true

theorem mem_players {p : Player} : p ∈ c.players ↔ ∃ attached, c.Seats p attached := by
  simp [players, Seats, or_comm]

theorem play_events (c : Console) (now : Nat) : (c.play now).2 =
    let settle := Player.settle c.setup.wordsPerMinute c.generation now
    let before := c.detached.flatMap fun p => (settle false p).2
    let latest := c.installed.toList.flatMap fun p => (settle true p).2
    if c.installed.any (·.stage = .fresh) then latest ++ before else before ++ latest := by
  simp only [play, List.flatMap_map]
  cases c.installed <;> rfl

/-- What happens when the engine does what it can happens with its players. -/
theorem mem_play : event ∈ (c.play now).2 ↔ ∃ p attached, c.Seats p attached ∧
    event ∈ (p.settle c.setup.wordsPerMinute c.generation now attached).2 := by
  have seated : event ∈ (c.play now).2 ↔
      (∃ p ∈ c.detached, event ∈ (p.settle c.setup.wordsPerMinute c.generation now false).2) ∨
      ∃ p, c.installed = some p ∧
        event ∈ (p.settle c.setup.wordsPerMinute c.generation now true).2 := by
    rw [play_events]
    dsimp only
    split <;> simp only [List.mem_append, List.mem_flatMap, Option.mem_toList, or_comm]
  rw [seated]
  constructor
  · rintro (⟨p, member, happens⟩ | ⟨p, installed, happens⟩)
    · exact ⟨p, false, .inl ⟨member, rfl⟩, happens⟩
    · exact ⟨p, true, .inr ⟨installed, rfl⟩, happens⟩
  · rintro ⟨p, attached, ⟨member, rfl⟩ | ⟨installed, rfl⟩, happens⟩
    · exact .inl ⟨p, member, happens⟩
    · exact .inr ⟨p, installed, happens⟩

/-- A player that has not stopped keeps its seat. -/
theorem Seats.play {p : Player} {attached : Bool} (seat : c.Seats p attached)
    (goesOn : (p.settle c.setup.wordsPerMinute c.generation now attached).1.stage ≠ .stopped) :
    (c.play now).1.Seats (p.settle c.setup.wordsPerMinute c.generation now attached).1 attached := by
  rcases seat with ⟨member, rfl⟩ | ⟨installed, rfl⟩
  · refine .inl ⟨List.mem_filter.mpr ⟨?_, by simpa using goesOn⟩, rfl⟩
    rw [List.map_map]
    exact List.mem_map.mpr ⟨p, member, rfl⟩
  · refine .inr ⟨?_, rfl⟩
    rw [play_installed, installed]
    rfl

/-- The players that are left have nothing to do. -/
structure Quiet (c : Console) : Prop where
  gone : c.detached = []
  idle : ∀ p, c.installed = some p → p.stage ≠ .fresh ∧ p.waiting = [] ∧ p.speaking = none

/-- All that happens with players that have nothing to start. -/
def lastEvents (now : Nat) (c : Console) : List Event :=
  let before := c.detached.flatMap (·.lastEvents now false)
  let latest := c.installed.toList.flatMap (·.lastEvents now true)
  if c.installed.any (·.stage = .fresh) then latest ++ before else before ++ latest

/-- When no player has anything to start, what happens depends on nothing else, and nothing is left
after it. -/
theorem play_done (done : ∀ p ∈ c.players, p.Done c.generation now) :
    (c.play now).2 = c.lastEvents now ∧ (c.play now).1.Quiet := by
  have settled : ∀ p attached, c.Seats p attached → ∃ seen,
      p.settle c.setup.wordsPerMinute c.generation now attached =
        (⟨p.lastStage attached, [], none, seen⟩, p.lastEvents now attached) :=
    fun p attached seat => (done p (mem_players.mpr ⟨attached, seat⟩)).settle
  have events : ∀ p attached, c.Seats p attached →
      (p.settle c.setup.wordsPerMinute c.generation now attached).2 = p.lastEvents now attached := by
    intro p attached seat
    obtain ⟨seen, settled⟩ := settled p attached seat
    rw [settled]
  refine ⟨?_, ?_, ?_⟩
  · have before : (c.detached.flatMap fun p =>
        (p.settle c.setup.wordsPerMinute c.generation now false).2) =
          c.detached.flatMap (·.lastEvents now false) :=
      congrArg List.flatten (List.map_congr_left fun p member =>
        events p false (.inl ⟨member, rfl⟩))
    have latest : (c.installed.toList.flatMap fun p =>
        (p.settle c.setup.wordsPerMinute c.generation now true).2) =
          c.installed.toList.flatMap (·.lastEvents now true) :=
      congrArg List.flatten (List.map_congr_left fun p member =>
        events p true (.inr ⟨Option.mem_toList.mp member, rfl⟩))
    rw [play_events]
    simp only [before, latest]
    rfl
  · refine List.filter_eq_nil_iff.mpr fun q left => ?_
    rw [List.map_map] at left
    obtain ⟨p, member, rfl⟩ := List.mem_map.mp left
    obtain ⟨seen, settled⟩ := settled p false (.inl ⟨member, rfl⟩)
    simp [settled, Player.lastStage]
  · intro q left
    rw [play_installed] at left
    obtain ⟨p, installed, rfl⟩ := Option.map_eq_some_iff.mp left
    obtain ⟨seen, settled⟩ := settled p true (.inr ⟨installed, rfl⟩)
    rw [settled]
    refine ⟨?_, rfl, rfl⟩
    unfold Player.lastStage
    split <;> simp

theorem Quiet.play (quiet : c.Quiet) (now : Nat) : (c.play now).2 = [] ∧ (c.play now).1.Quiet := by
  have done : ∀ p ∈ c.players, p.Done c.generation now := by
    intro p member
    have installed : c.installed = some p := by simpa [players, quiet.gone] using member
    obtain ⟨-, empty, silent⟩ := quiet.idle p installed
    exact ⟨by simp [empty], by simp [silent]⟩
  obtain ⟨events, still⟩ := play_done done
  refine ⟨events.trans ?_, still⟩
  cases installed : c.installed with
  | none => simp [lastEvents, quiet.gone, installed]
  | some p =>
    obtain ⟨woken, empty, silent⟩ := quiet.idle p installed
    simp [lastEvents, quiet.gone, installed, Player.lastEvents, Player.lastEnding, woken, empty,
      silent]

theorem Quiet.playthrough (quiet : c.Quiet) (times : List Nat) : c.playthrough times = [] := by
  induction times generalizing c with
  | nil => rfl
  | cons now times ih =>
    obtain ⟨nothing, still⟩ := quiet.play now
    rw [Console.playthrough, nothing, ih still]
    rfl

/-- When no player has anything to start, all ends with the first chance. -/
theorem playthrough_done (done : ∀ p ∈ c.players, p.Done c.generation now) (times : List Nat) :
    c.playthrough (now :: times) = (c.lastEvents now).map (now, ·) := by
  obtain ⟨events, quiet⟩ := play_done done
  rw [playthrough, events, quiet.playthrough, List.append_nil]

end Console

end SpeechQueue
