import SpeechQueue.Playback.Player

/-! # The steps of a player

A player wakes, takes an utterance out of its channel, speaks it to its end or is interrupted, and
stops once its channel is closed and empty. When an utterance is over just as the generation changes,
either end of it is a step. `Player.settle_path` says that settling is a sequence of these steps, so
that what every step keeps is kept by settling. -/

namespace SpeechQueue

open Playback

namespace Player

/-- What a player can do at a time, and what happens with it. -/
inductive Step (wordsPerMinute generation now : Nat) (attached : Bool) :
    Player → Event → Player → Prop
  | wake {p : Player} : p.stage = .fresh →
      Step wordsPerMinute generation now attached p .opened { p with stage := .running }
  | receive {p : Player} {item : Item} {rest : List Item} : p.stage ≠ .fresh →
      p.speaking = none → p.waiting = item :: rest →
      Step wordsPerMinute generation now attached p
        (p.receive wordsPerMinute generation now item rest).2
        (p.receive wordsPerMinute generation now item rest).1
  | complete {p : Player} {item : Item} {ends : Nat} : p.speaking = some (item, ends) →
      ends ≤ now →
      Step wordsPerMinute generation now attached p (.completed item) { p with speaking := none }
  | interrupt {p : Player} {item : Item} {ends : Nat} : p.speaking = some (item, ends) →
      p.seen ≠ generation →
      Step wordsPerMinute generation now attached p (.interrupted item)
        { p with speaking := none, seen := generation }
  | retire {p : Player} : attached = false → p.stage = .running → p.waiting = [] →
      p.speaking = none →
      Step wordsPerMinute generation now attached p .closed { p with stage := .stopped }

/-- Any number of steps at one time, with what happens in turn. -/
inductive Path (wordsPerMinute generation now : Nat) (attached : Bool) :
    Player → List Event → Player → Prop
  | nil (p : Player) : Path wordsPerMinute generation now attached p [] p
  | cons {p q r : Player} {event : Event} {events : List Event} :
      Step wordsPerMinute generation now attached p event q →
      Path wordsPerMinute generation now attached q events r →
      Path wordsPerMinute generation now attached p (event :: events) r

variable {wordsPerMinute generation now : Nat} {attached : Bool}

theorem Path.append {p q r : Player} {first second : List Event} :
    Path wordsPerMinute generation now attached p first q →
    Path wordsPerMinute generation now attached q second r →
    Path wordsPerMinute generation now attached p (first ++ second) r
  | .nil _, right => right
  | .cons step rest, right => .cons step (rest.append right)

theorem Path.single {p q : Player} {event : Event}
    (step : Step wordsPerMinute generation now attached p event q) :
    Path wordsPerMinute generation now attached p [event] q :=
  .cons step (.nil q)

theorem receive_waiting (item : Item) (rest : List Item) (p : Player) :
    (p.receive wordsPerMinute generation now item rest).1.waiting = rest := by
  unfold receive
  split <;> rfl

theorem receive_seen (item : Item) (rest : List Item) (p : Player) :
    (p.receive wordsPerMinute generation now item rest).1.seen = generation := by
  unfold receive
  split <;> rfl

theorem receive_stage (item : Item) (rest : List Item) (p : Player) :
    (p.receive wordsPerMinute generation now item rest).1.stage = p.stage := by
  unfold receive
  split <;> rfl

theorem receive_stale {item : Item} (rest : List Item) (p : Player)
    (stale : item.generation < generation) :
    p.receive wordsPerMinute generation now item rest =
      ({ p with waiting := rest, seen := generation }, .skipped item) := by
  simp [receive, stale]

theorem receive_current {item : Item} (rest : List Item) (p : Player)
    (current : generation ≤ item.generation) :
    p.receive wordsPerMinute generation now item rest =
      ({ p with
          waiting := rest
          seen := generation
          speaking := some (item, Timer.milliseconds.after now (item.duration wordsPerMinute)) },
        .started item) := by
  simp [receive, Nat.not_lt_of_le current]

theorem release_waiting (p : Player) : (p.release generation now).1.waiting = p.waiting := by
  unfold release
  split
  · rfl
  · split
    · rfl
    · split <;> rfl

theorem release_stage (p : Player) : (p.release generation now).1.stage = p.stage := by
  unfold release
  split
  · rfl
  · split
    · rfl
    · split <;> rfl

theorem wake_stage (p : Player) : p.wake.1.stage ≠ .fresh := by
  unfold wake
  split
  · simp
  · assumption

theorem wake_path (p : Player) :
    Path wordsPerMinute generation now attached p p.wake.2 p.wake.1 := by
  unfold wake
  split
  · next fresh => exact .single (.wake fresh)
  · exact .nil p

theorem release_path (p : Player) :
    Path wordsPerMinute generation now attached p (p.release generation now).2
      (p.release generation now).1 := by
  unfold release
  split
  · exact .nil p
  · next item ends speaking =>
    split
    · next past => exact .single (.complete speaking past)
    · split
      · next changed => exact .single (.interrupt speaking changed)
      · exact .nil p

theorem retire_path (p : Player) :
    Path wordsPerMinute generation now attached p (p.retire attached).2 (p.retire attached).1 := by
  unfold retire
  split
  · next idle => exact .single (.retire idle.1 idle.2.1 idle.2.2.1 idle.2.2.2)
  · exact .nil p

theorem drain_path {waiting : List Item} {p : Player} (woken : p.stage ≠ .fresh)
    (silent : p.speaking = none) (channel : p.waiting = waiting) :
    Path wordsPerMinute generation now attached p
      (drain wordsPerMinute generation now waiting p).2
      (drain wordsPerMinute generation now waiting p).1 := by
  induction waiting generalizing p with
  | nil => exact .nil p
  | cons item rest ih =>
    have received : Path wordsPerMinute generation now attached p _ _ :=
      .single (.receive woken silent channel)
    have released := received.append
      (release_path (p.receive wordsPerMinute generation now item rest).1)
    simp only [drain]
    split
    · next free =>
      refine released.append (ih ?_ (Option.isNone_iff_eq_none.mp free) ?_)
      · rw [release_stage, receive_stage]
        exact woken
      · rw [release_waiting, receive_waiting]
    · exact released

/-- Settling takes only steps, at the one time. -/
theorem settle_path (p : Player) :
    Path wordsPerMinute generation now attached p
      (p.settle wordsPerMinute generation now attached).2
      (p.settle wordsPerMinute generation now attached).1 := by
  have released : Path wordsPerMinute generation now attached p _ _ :=
    (wake_path p).append (release_path p.wake.1)
  simp only [settle]
  refine Path.append ?_ (retire_path _)
  split
  · next free =>
    refine released.append (drain_path ?_ (Option.isNone_iff_eq_none.mp free) rfl)
    rw [release_stage]
    exact wake_stage p
  · simpa using released

/-- A player has done what it can at a time: it is silent only if nothing waits, and what it speaks
is neither over nor interrupted. -/
structure CaughtUp (generation now : Nat) (p : Player) : Prop where
  silent : p.speaking = none → p.waiting = []
  lasting : ∀ item ends, p.speaking = some (item, ends) → now < ends
  current : p.speaking ≠ none → p.seen = generation

theorem release_speaking {item : Item} {ends : Nat} {p : Player}
    (remains : (p.release generation now).1.speaking = some (item, ends)) :
    now < ends ∧ (p.release generation now).1.seen = generation := by
  unfold release at remains ⊢
  split at remains
  · next silent => simp [silent] at remains
  · next spoken past speaking =>
    split at remains
    · simp at remains
    · next later =>
      split at remains
      · simp at remains
      · next unchanged =>
        obtain ⟨-, rfl⟩ := Prod.mk.inj (Option.some.inj (speaking.symm.trans remains))
        simp only [later, unchanged, if_false]
        exact ⟨Nat.lt_of_not_le later, Decidable.not_not.mp unchanged⟩

/-- A player that still speaks after its release has caught up. -/
theorem release_caughtUp {p : Player} (remains : (p.release generation now).1.speaking ≠ none) :
    (p.release generation now).1.CaughtUp generation now where
  silent silent := absurd silent remains
  lasting _ _ speaking := (release_speaking speaking).1
  current _ := by
    obtain ⟨⟨item, ends⟩, speaking⟩ := Option.ne_none_iff_exists'.mp remains
    exact (release_speaking speaking).2

theorem drain_caughtUp {waiting : List Item} {p : Player} (silent : p.speaking = none)
    (channel : p.waiting = waiting) :
    (drain wordsPerMinute generation now waiting p).1.CaughtUp generation now := by
  induction waiting generalizing p with
  | nil => exact ⟨fun _ => channel, by simp [drain, silent], by simp [drain, silent]⟩
  | cons item rest ih =>
    simp only [drain]
    split
    · next free =>
      refine ih (Option.isNone_iff_eq_none.mp free) ?_
      rw [release_waiting, receive_waiting]
    · next busy =>
      exact release_caughtUp fun silent => busy (Option.isNone_iff_eq_none.mpr silent)

theorem retire_caughtUp {p : Player} (caughtUp : p.CaughtUp generation now) :
    (p.retire attached).1.CaughtUp generation now := by
  unfold retire
  split
  · exact ⟨caughtUp.silent, caughtUp.lasting, caughtUp.current⟩
  · exact caughtUp

/-- Settling lets a player catch up. -/
theorem settle_caughtUp (p : Player) :
    (p.settle wordsPerMinute generation now attached).1.CaughtUp generation now := by
  simp only [settle]
  refine retire_caughtUp ?_
  split
  · next free => exact drain_caughtUp (Option.isNone_iff_eq_none.mp free) rfl
  · next busy =>
    exact release_caughtUp fun silent => busy (Option.isNone_iff_eq_none.mpr silent)

/-- Nothing of the player is from a generation to come. -/
structure Dated (generation : Nat) (p : Player) : Prop where
  waiting : ∀ item ∈ p.waiting, item.generation ≤ generation
  seen : p.seen ≤ generation

theorem Step.dated {p q : Player} {event : Event}
    (step : Step wordsPerMinute generation now attached p event q) (dated : p.Dated generation) :
    q.Dated generation := by
  cases step with
  | wake | complete | retire => exact ⟨dated.waiting, dated.seen⟩
  | interrupt => exact ⟨dated.waiting, Nat.le_refl _⟩
  | receive _ _ channel =>
    refine ⟨fun item member => dated.waiting item ?_, ?_⟩
    · rw [receive_waiting] at member
      rw [channel]
      exact List.mem_cons_of_mem _ member
    · exact Nat.le_of_eq (receive_seen _ _ p)

end Player

end SpeechQueue
