import SpeechQueue.Proofs.AwaitedStarts
import SpeechQueue.Proofs.DeskNotes

/-! # One player after another

Starts may be repeated and may overlap, and each that ends puts a fresh player in place of the one
that is there. As long as this finds a player with nothing left, utterances are spoken one at a time
and in the order of their acceptance: `Relay.account` is the account of all that becomes of them. -/

namespace SpeechQueue

open Playback

/-! ## Players without anything left -/

namespace Player

variable {wordsPerMinute generation now : Nat} {attached : Bool} {p q : Player} {event : Event}

theorem held_eq_nil_iff : p.held = [] ↔ p.speaking = none ∧ p.waiting = [] := by
  rw [held, List.append_eq_nil_iff]
  refine and_congr_left fun _ => ?_
  cases speaking : p.speaking <;> simp [spoken?, speaking]

/-- A player with nothing left only opens or closes. -/
theorem Step.of_spent (step : Step wordsPerMinute generation now attached p event q)
    (spent : p.held = []) : q.held = [] ∧ (event = .opened ∨ event = .closed) := by
  obtain ⟨silent, empty⟩ := held_eq_nil_iff.mp spent
  cases step with
  | wake => exact ⟨spent, .inl rfl⟩
  | retire => exact ⟨spent, .inr rfl⟩
  | complete speaking | interrupt speaking =>
    rw [silent] at speaking
    cases speaking
  | receive _ _ channel =>
    rw [empty] at channel
    cases channel

end Player

namespace Console

variable {start c d : Console} {notes more : List Note} {p q : Player} {event : Event}
  {a : Account} {accepted : List Item}

/-- Calls of the engine and steps of its players in which no player is let go of but for a fresh one,
and only when it has nothing left. -/
inductive Relay (start : Console) : Console → List Note → Prop
  | nil : Relay start start []
  | snoc {c d : Console} {notes more : List Note} : Relay start c notes → Step c more d →
      (.installed ∈ more → ∀ p ∈ c.installed, p.held = []) →
      (d.installed = none → c.installed = none) → Relay start d (notes ++ more)

theorem Relay.run (relay : Relay start c notes) : Run start c notes := by
  induction relay with
  | nil => exact .nil
  | snoc _ step _ _ ih => exact ih.snoc step

/-- A call that notes nothing and keeps the player goes on with the relay. -/
theorem Relay.silent (relay : Relay start c notes) (step : Step c [] d)
    (kept : d.installed = none → c.installed = none) : Relay start d notes := by
  have next := relay.snoc step (by simp) kept
  rwa [List.append_nil] at next

theorem noStart_notesOfSpeak (speech : Speech) (c : Console) : .installed ∉ c.notesOfSpeak speech :=
  List.count_eq_zero.mp (count_installed_notesOfSpeak speech c)

theorem Relay.speak (relay : Relay start c notes) (speech : Speech) :
    Relay start (c.speak speech).2.1 (notes ++ c.notesOfSpeak speech) := by
  refine relay.snoc (.speak c speech) ?_ ?_
  · intro noted
    exact absurd noted (noStart_notesOfSpeak speech c)
  · intro stopped
    rcases speak_cases speech c with ⟨-, generation, same⟩ | ⟨p, item, generation, -, -, same⟩
    · rw [same] at stopped
      exact stopped
    · rw [same] at stopped
      cases stopped

/-- The players that get no more utterances have nothing left. -/
theorem Step.spent (step : Step c more d)
    (replaced : .installed ∈ more → ∀ p ∈ c.installed, p.held = [])
    (kept : d.installed = none → c.installed = none) (spent : ∀ p ∈ c.detached, p.held = []) :
    ∀ p ∈ d.detached, p.held = [] := by
  cases step with
  | finishStart done =>
    rw [finishStart_installed done]
    intro p member
    rcases List.mem_append.mp member with earlier | last
    · exact spent p earlier
    · exact replaced List.mem_cons_self p (Option.mem_toList.mp last)
  | setRate | setPitch | installed => exact spent
  | speak speech =>
    rcases speak_cases speech c with ⟨-, _, same⟩ | ⟨_, _, _, -, -, same⟩ <;> rw [same] <;> exact spent
  | shutDown =>
    have none_installed : c.installed = none := kept rfl
    simpa [Console.shutDown, none_installed] using spent
  | @detached front back p q event now place step =>
    intro r member
    rcases Classical.em (r = q) with rfl | other
    · exact (step.of_spent (spent p (by simp [place]))).1
    · exact spent r (place ▸ mem_of_ne member other)
  | sweep =>
    intro p member
    exact spent p (List.mem_of_mem_filter member)

theorem Relay.spent {setup : Setup} (relay : Relay (.new setup) c notes) :
    ∀ p ∈ c.detached, p.held = [] := by
  induction relay with
  | nil => simp [new]
  | snoc _ step replaced kept ih => exact step.spent replaced kept ih

/-! ## The account of a relay -/

/-- Beside players with nothing left, the installed player is all that there is. -/
theorem accounted_beside (spent : ∀ r ∈ c.detached, r.held = []) (installed : c.installed = some p) :
    c.Accounted a accepted ↔ p.Accounted a accepted ∧ c.played = a.completions := by
  have silent : c.detached.flatMap (·.spoken?.toList) = [] := by
    refine List.flatMap_eq_nil_iff.mpr fun r member => ?_
    exact (List.append_eq_nil_iff.mp (spent r member)).1
  have empty : c.detached.flatMap (·.waiting) = [] := by
    refine List.flatMap_eq_nil_iff.mpr fun r member => ?_
    exact (List.append_eq_nil_iff.mp (spent r member)).2
  constructor
  · rintro ⟨current, inserted, played⟩
    refine ⟨⟨?_, ?_⟩, played⟩
    · have first := congrArg List.head? current
      simpa [spoken, players, silent, installed] using first
    · simpa [channel, players, empty, installed] using inserted
  · rintro ⟨⟨current, inserted⟩, played⟩
    refine ⟨?_, ?_, played⟩
    · simp [spoken, players, silent, installed, current]
    · simp [channel, players, empty, installed, inserted]

/-- What is accepted in a step and what happens in it can be added to the account, as long as only the
installed player has something. -/
theorem Step.account_beside {events : List Event} (step : Step c more d)
    (spent : ∀ r ∈ c.detached, r.held = []) (idle : ∀ r ∈ c.players, r.StoppedIdle)
    (known : Account.ofEvents events = some a) (accounted : c.Accounted a accepted) :
    ∃ b, Account.ofEvents (events ++ eventsIn more) = some b ∧
      d.Accounted b (accepted ++ acceptedIn more) := by
  by_cases unplayed : eventsIn more = []
  · exact step.account_unplayed idle unplayed known accounted
  · cases step with
    | finishStart | setRate | setPitch | shutDown | sweep => exact absurd rfl unplayed
    | speak speech => exact absurd (eventsIn_notesOfSpeak speech c) unplayed
    | @installed p q event now place step =>
      obtain ⟨player, counted⟩ := (accounted_beside spent place).mp accounted
      obtain ⟨b, entered, still, completions⟩ := step.enter player
      have beside : (counting event { c with installed := some q }).Accounted b accepted ↔
          q.Accounted b accepted ∧ _ = b.completions := accounted_beside spent rfl
      refine ⟨b, Account.ofEvents_snoc known entered, ?_⟩
      rw [acceptedIn_happened, List.append_nil]
      refine beside.mpr ⟨still, ?_⟩
      rw [completions, ← counted]
      rfl
    | @detached front back p q event now place step =>
      have empty : p.held = [] := spent p (by simp [place])
      obtain ⟨still, leaves⟩ := step.of_spent empty
      obtain ⟨silent, nothing⟩ := Player.held_eq_nil_iff.mp empty
      obtain ⟨silent', nothing'⟩ := Player.held_eq_nil_iff.mp still
      have entered : a.enter event = some a := by rcases leaves with rfl | rfl <;> rfl
      refine ⟨a, Account.ofEvents_snoc known entered, ?_⟩
      rw [acceptedIn_happened, List.append_nil]
      refine ⟨?_, ?_, ?_⟩
      · simpa [spoken, Console.players, counting, place, Player.spoken?, silent, silent']
          using accounted.current
      · simpa [channel, Console.players, counting, place, nothing, nothing']
          using accounted.accepted
      · have played := accounted.played
        rcases leaves with rfl | rfl <;> exact played

/-- Every relay has its account. -/
theorem Relay.account {setup : Setup} (relay : Relay (.new setup) c notes) :
    ∃ a, Account.ofEvents (eventsIn notes) = some a ∧ c.Accounted a (acceptedIn notes) := by
  induction relay with
  | nil => exact ⟨.empty, rfl, ⟨rfl, rfl, rfl⟩⟩
  | snoc relay step _ _ ih =>
    obtain ⟨a, known, accounted⟩ := ih
    rw [eventsIn_append, acceptedIn_append]
    exact step.account_beside relay.spent relay.run.manned.idle known accounted

end Console

end SpeechQueue
