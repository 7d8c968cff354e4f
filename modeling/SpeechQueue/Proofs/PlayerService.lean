import SpeechQueue.Proofs.PlayerSteps
import SpeechQueue.Proofs.Traced

/-! # A settling player serves its channel

What a player does when it settles is what a plain server does at once: `settle_serves` for a player
that is up to date, and `settle_cancelled` for one that has yet to notice that all before it was
cancelled, be it by a flush or by a shutdown. -/

namespace SpeechQueue

open Playback

namespace Player

/-- The jobs in the channel. -/
def jobs (p : Player) : List Job := p.waiting.map Item.job

/-- The job that is spoken, and when it ends. -/
def current (p : Player) : Option (Job × Nat) :=
  p.speaking.map fun (item, ends) => (item.job, ends)

/-- A running player that is up to date, with no cancelled utterance in its channel. -/
structure Serving (generation : Nat) (p : Player) : Prop where
  running : p.stage = .running
  seen : p.seen = generation
  tags : ∀ item ∈ p.waiting, item.generation = generation

/-- When the generation goes up, such a player is behind. -/
theorem Serving.behind {generation : Nat} {p : Player} (serving : p.Serving generation) :
    p.seen ≠ generation + 1 := by
  have seen := serving.seen
  omega

/-- When the generation goes up, all that is in the channel is cancelled. -/
theorem Serving.cancelled {generation : Nat} {p : Player} (serving : p.Serving generation) :
    ∀ item ∈ p.waiting, item.generation < generation + 1 := by
  intro item member
  have tag := serving.tags item member
  omega

/-- A player is where a service is, and what has happened is what the service says. -/
structure Follows (generation now : Nat) (result : Player × List Event)
    (service : Server.Service) : Prop where
  serving : result.1.Serving generation
  speaking : result.1.current = service.speaking
  waiting : result.1.jobs = service.waiting
  log : milestones now result.2 = service.log

variable (wordsPerMinute now : Nat) {generation : Nat} {p : Player}

theorem milestones_append (now : Nat) (first second : List Event) :
    milestones now (first ++ second) = milestones now first ++ milestones now second := by
  simp [milestones]

/-- Draining a channel of current utterances serves them at once. -/
theorem drain_follows {waiting : List Item} (running : p.stage = .running)
    (silent : p.speaking = none) (channel : p.waiting = waiting)
    (tags : ∀ item ∈ waiting, item.generation = generation)
    (seen : waiting = [] → p.seen = generation) :
    Follows generation now (drain wordsPerMinute generation now waiting p)
      (Server.serve .milliseconds wordsPerMinute now now (waiting.map Item.job)) := by
  induction waiting generalizing p with
  | nil =>
    refine ⟨⟨running, seen rfl, ?_⟩, ?_, ?_, rfl⟩
    · simp [drain, channel]
    · simp [drain, current, silent, Server.serve]
    · simp [drain, jobs, channel, Server.serve]
  | cons item rest ih =>
    have tag : ¬ item.generation < generation := by
      rw [tags item List.mem_cons_self]
      exact Nat.lt_irrefl _
    have later : ∀ other ∈ rest, other.generation = generation :=
      fun other member => tags other (.tail _ member)
    have duration : item.job.duration wordsPerMinute = item.duration wordsPerMinute := rfl
    simp only [drain, receive, tag, if_false, release, List.map_cons, Server.serve, duration]
    by_cases past : Timer.milliseconds.after now (item.duration wordsPerMinute) ≤ now
    · have instant : Timer.milliseconds.after now (item.duration wordsPerMinute) = now :=
        Nat.le_antisymm past (Timer.le_after _ _ _)
      have follows := ih (p := { p with waiting := rest, seen := generation, speaking := none })
        running rfl rfl later fun _ => rfl
      simp only [if_true, instant, Nat.le_refl, Option.isNone_none]
      refine ⟨follows.serving, follows.speaking, follows.waiting, ?_⟩
      rw [List.cons_append, ← follows.log]
      rfl
    · simp only [past, if_false, ne_eq, not_true_eq_false, Option.isNone_some, Bool.false_eq_true]
      exact ⟨⟨running, rfl, later⟩, rfl, rfl, rfl⟩

/-- Draining passes over what was cancelled. -/
theorem drain_stale {stale : List Item} (fresh : List Item) (silent : p.speaking = none)
    (passed : ∀ item ∈ stale, item.generation < generation) (cancelled : stale ≠ []) :
    drain wordsPerMinute generation now (stale ++ fresh) p =
      let drained := drain wordsPerMinute generation now fresh
        { p with waiting := fresh, seen := generation }
      (drained.1, stale.map .skipped ++ drained.2) := by
  induction stale generalizing p with
  | nil => exact absurd rfl cancelled
  | cons item stale ih =>
    have skipped : item.generation < generation := passed item List.mem_cons_self
    simp only [List.cons_append, drain, receive, skipped, if_true, release, silent,
      Option.isNone_none]
    cases stale with
    | nil => rfl
    | cons next stale =>
      rw [ih rfl (fun other member => passed other (.tail _ member)) (List.cons_ne_nil _ _)]
      rfl

/-- A channel of cancelled utterances is emptied. -/
theorem drain_cancelled {waiting : List Item} (silent : p.speaking = none)
    (channel : p.waiting = waiting) (passed : ∀ item ∈ waiting, item.generation < generation) :
    ∃ seen, drain wordsPerMinute generation now waiting p =
      ({ p with waiting := [], seen := seen }, waiting.map .skipped) := by
  cases waiting with
  | nil =>
    have same : p = { p with waiting := [] } := by rw [← channel]
    exact ⟨p.seen, congrArg (fun q => (q, ([] : List Event))) same⟩
  | cons item stale =>
    have emptied := drain_stale wordsPerMinute now [] silent passed (List.cons_ne_nil _ _)
    rw [List.append_nil] at emptied
    exact ⟨generation, by rw [emptied]; simp [drain]⟩

theorem milestones_skipped (now : Nat) (items : List Item) :
    milestones now (items.map .skipped) = [] := by
  simp [milestones, List.filterMap_map, Function.comp_def, Event.milestone?]

/-- What a running player does when it settles, but for stopping. -/
def work (wordsPerMinute generation now : Nat) (p : Player) : Player × List Event :=
  let (p, released) := p.release generation now
  let (p, drained) :=
    if p.speaking.isNone then drain wordsPerMinute generation now p.waiting p else (p, [])
  (p, released ++ drained)

theorem settle_running (attached : Bool) (running : p.stage = .running) :
    p.settle wordsPerMinute generation now attached =
      let worked := p.work wordsPerMinute generation now
      let retired := worked.1.retire attached
      (retired.1, worked.2 ++ retired.2) := by
  have woken : p.wake = (p, []) := by simp [wake, running]
  simp only [settle, woken, work, List.nil_append]

theorem settle_attached (running : p.stage = .running) :
    p.settle wordsPerMinute generation now true = p.work wordsPerMinute generation now := by
  simp [settle_running wordsPerMinute now true running, retire]

/-- A player that is up to date does what a server does at once. -/
theorem settle_follows (serving : p.Serving generation)
    (due : ∀ item ends, p.speaking = some (item, ends) → now ≤ ends) :
    Follows generation now (p.settle wordsPerMinute generation now true)
      (Server.resume .milliseconds wordsPerMinute now now p.jobs p.current) := by
  rw [settle_attached wordsPerMinute now serving.running]
  cases speaking : p.speaking with
  | none =>
    have drained := drain_follows wordsPerMinute now serving.running speaking rfl serving.tags
      fun _ => serving.seen
    simpa [work, release, speaking, current, Server.resume, jobs] using drained
  | some spoken =>
    obtain ⟨item, ends⟩ := spoken
    by_cases past : ends ≤ now
    · obtain rfl : ends = now := Nat.le_antisymm past (due item ends speaking)
      have drained := drain_follows wordsPerMinute ends (p := { p with speaking := none })
        serving.running rfl rfl serving.tags fun _ => serving.seen
      simp only [work, release, speaking, current, Option.map_some, Server.resume, Nat.le_refl,
        if_true, Option.isNone_none, jobs]
      refine ⟨drained.serving, drained.speaking, drained.waiting, ?_⟩
      rw [milestones_append, drained.log]
      rfl
    · simp only [work, release, speaking, past, serving.seen, current, Server.resume, if_false,
        ne_eq, not_true_eq_false, Option.map_some, Option.isNone_some, Bool.false_eq_true]
      exact ⟨serving, by simp [current, speaking], rfl, rfl⟩

/-- The milestone of a job that is aborted. -/
def aborted (now : Nat) (current : Option (Job × Nat)) : List (Nat × Server.Milestone) :=
  (current.map fun (job, _) => (now, .interrupted job)).toList

/-- A player whose utterance is cancelled lets go of it. -/
theorem release_cancelled {now : Nat} (behind : p.seen ≠ generation)
    (lasting : ∀ item ends, p.speaking = some (item, ends) → now < ends) :
    ∃ seen, (p.release generation now).1 = { p with speaking := none, seen := seen } ∧
      milestones now (p.release generation now).2 = aborted now p.current := by
  cases speaking : p.speaking with
  | none =>
    have same : p = { p with speaking := none } := by rw [← speaking]
    refine ⟨p.seen, ?_, ?_⟩
    · simp only [release, speaking]
      exact same
    · simp [release, speaking, milestones, aborted, current]
  | some spoken =>
    obtain ⟨item, ends⟩ := spoken
    have later : ¬ ends ≤ now := Nat.not_le_of_lt (lasting item ends speaking)
    refine ⟨generation, ?_, ?_⟩
    · simp [release, speaking, later, behind]
    · simp [release, speaking, later, behind, milestones, aborted, current, Event.milestone?]

/-- After a flush, a player starts what was put into its channel with it. -/
theorem settle_cancelled {stale fresh : List Item} (running : p.stage = .running)
    (behind : p.seen ≠ generation)
    (lasting : ∀ item ends, p.speaking = some (item, ends) → now < ends)
    (channel : p.waiting = stale ++ fresh) (passed : ∀ item ∈ stale, item.generation < generation)
    (tags : ∀ item ∈ fresh, item.generation = generation) (nonempty : fresh ≠ []) :
    let service := Server.serve .milliseconds wordsPerMinute now now (fresh.map Item.job)
    Follows generation now (p.settle wordsPerMinute generation now true)
      { service with log := aborted now p.current ++ service.log } := by
  obtain ⟨seen, released, interrupted⟩ := release_cancelled behind lasting
  have follows : Follows generation now
      (drain wordsPerMinute generation now (stale ++ fresh) { p with speaking := none, seen := seen })
      (Server.serve .milliseconds wordsPerMinute now now (fresh.map Item.job)) := by
    cases stale with
    | nil =>
      exact drain_follows wordsPerMinute now running rfl channel tags
        fun empty => absurd empty nonempty
    | cons item stale =>
      have drained := drain_follows wordsPerMinute now
        (p := { p with waiting := fresh, speaking := none, seen := generation })
        running rfl rfl tags fun _ => rfl
      rw [drain_stale wordsPerMinute now fresh rfl passed (List.cons_ne_nil _ _)]
      refine ⟨drained.serving, drained.speaking, drained.waiting, ?_⟩
      rw [milestones_append, milestones_skipped, List.nil_append]
      exact drained.log
  rw [← channel] at follows
  rw [settle_attached wordsPerMinute now running]
  simp only [work, released, Option.isNone_none, if_true]
  refine ⟨follows.serving, follows.speaking, follows.waiting, ?_⟩
  rw [milestones_append, interrupted, follows.log]

/-- After a shutdown, a player lets go of all that it had and stops. -/
theorem settle_shutDown (running : p.stage = .running) (behind : p.seen ≠ generation)
    (lasting : ∀ item ends, p.speaking = some (item, ends) → now < ends)
    (passed : ∀ item ∈ p.waiting, item.generation < generation) :
    (p.settle wordsPerMinute generation now false).1.stage = .stopped ∧
      milestones now (p.settle wordsPerMinute generation now false).2 = aborted now p.current := by
  obtain ⟨seen, released, interrupted⟩ := release_cancelled behind lasting
  obtain ⟨last, drained⟩ := drain_cancelled wordsPerMinute now
    (p := { p with speaking := none, seen := seen }) rfl rfl passed
  rw [settle_running wordsPerMinute now false running]
  simp only [work, released, Option.isNone_none, if_true, drained]
  simp only [retire, running, and_self, if_true]
  refine ⟨trivial, ?_⟩
  rw [milestones_append, milestones_append, interrupted, milestones_skipped, List.append_nil]
  exact List.append_nil _

/-- A player that was just installed wakes and has nothing to do. -/
theorem settle_new (generation : Nat) :
    (new generation).settle wordsPerMinute generation now true =
      (⟨.running, [], none, generation⟩, [.opened]) := by
  simp [settle, new, wake, release, drain, retire]

end Player

end SpeechQueue
