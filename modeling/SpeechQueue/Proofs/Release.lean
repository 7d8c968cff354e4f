import SpeechQueue.Proofs.CancelledPlayers
import SpeechQueue.Proofs.ConsoleDesk

/-! # When a shutdown releases the engine

A shutdown of the controller shuts the engine down, once. A start that is answered only after that
installs a player all the same, and nothing takes it away any more: the controller discards the
result, but not what the engine has done. `released_iff` says that this is the only way in which the
engine is not released, and that it is decided as soon as no start is between its two steps. -/

namespace SpeechQueue

open Playback

namespace Console

variable {c d : Console} {notes more : List Note}

/-- The engine is not running: it has no player to give utterances to, so that it refuses every
utterance, and the players that it had are gone as soon as they can do anything. -/
structure Released (c : Console) : Prop where
  stopped : c.installed = none
  unavailable : ∀ speech, c.speak speech = (.error (.unavailable "engine not running"), c, [])
  gone : ∀ now, (c.play now).1.players = []

/-- No player is installed, and those that were have nothing left. -/
structure Vacant (c : Console) : Prop where
  stopped : c.installed = none
  spent : ∀ p ∈ c.players, p.Spent c.generation

/-- The engine has a player that has been given nothing. -/
def Idling (c : Console) : Prop := ∃ p, c.installed = some p ∧ p.waiting = []

theorem Vacant.released (vacant : c.Vacant) : c.Released where
  stopped := vacant.stopped
  unavailable speech := speak_unavailable speech vacant.stopped
  gone now := play_spent now vacant.stopped vacant.spent

/-- Even the smallest channel has room for one utterance. -/
theorem room_of_empty {p : Player} (empty : p.waiting = []) : p.waiting.length < c.capacity := by
  rw [empty, capacity]
  exact Nat.lt_of_lt_of_le Nat.zero_lt_one (Nat.le_max_left ..)

/-- An engine with an idle player takes whatever it is given. -/
theorem Idling.speak (idling : c.Idling) (speech : Speech) : (c.speak speech).1 = .ok () := by
  obtain ⟨p, running, empty⟩ := idling
  rw [speak_accepted speech running (room_of_empty empty)]

theorem Idling.not_released (idling : c.Idling) : ¬ c.Released := by
  rintro ⟨stopped, -, -⟩
  obtain ⟨p, running, -⟩ := idling
  rw [stopped] at running
  cases running

/-- A shutdown leaves no player with anything to speak. -/
theorem vacant_shutDown (dated : ∀ p ∈ c.players, p.Dated c.generation) : c.shutDown.1.Vacant where
  stopped := rfl
  spent := by
    rw [shutDown_players]
    exact fun p member => (dated p member).spent

theorem vacant_new (setup : Setup) : (new setup).Vacant where
  stopped := rfl
  spent := by simp [new, players]

/-- Nothing is noted but what happens in playback. -/
def OnlyPlayed (notes : List Note) : Prop := ∀ note ∈ notes, ∃ event, note = .happened event

theorem OnlyPlayed.of_append {first second : List Note} (played : OnlyPlayed (first ++ second)) :
    OnlyPlayed first ∧ OnlyPlayed second :=
  ⟨fun note noted => played note (List.mem_append_left _ noted),
    fun note noted => played note (List.mem_append_right _ noted)⟩

theorem onlyPlayed_map (events : List Event) : OnlyPlayed (events.map .happened) := by
  intro note noted
  obtain ⟨event, -, rfl⟩ := List.mem_map.mp noted
  exact ⟨event, rfl⟩

theorem Step.vacant (step : Step c more d) (played : OnlyPlayed more) (vacant : c.Vacant) :
    d.Vacant := by
  cases step with
  | finishStart | shutDown =>
    obtain ⟨event, same⟩ := played _ List.mem_cons_self
    cases same
  | setRate | setPitch => exact ⟨vacant.stopped, vacant.spent⟩
  | speak speech =>
    rw [speak_unavailable speech vacant.stopped]
    exact vacant
  | installed place =>
    rw [vacant.stopped] at place
    cases place
  | @detached front back p q event now place step =>
    refine ⟨vacant.stopped, fun r member => ?_⟩
    rcases eq_or_mem_players place member with rfl | earlier
    · exact step.spent (vacant.spent p (mem_players_of_detached place))
    · exact vacant.spent r earlier
  | sweep =>
    refine ⟨vacant.stopped, fun r member => vacant.spent r (List.mem_append.mpr ?_)⟩
    exact (List.mem_append.mp member).imp_left fun kept => (List.mem_filter.mp kept).1

/-- What the players do leaves them with nothing to speak. -/
theorem Run.vacant (run : Run c d notes) (played : OnlyPlayed notes) (vacant : c.Vacant) :
    d.Vacant := by
  induction run with
  | nil => exact vacant
  | snoc _ step ih => exact step.vacant played.of_append.2 (ih played.of_append.1)

theorem Step.idling (step : Step c more d) (played : OnlyPlayed more) (idling : c.Idling) :
    d.Idling := by
  obtain ⟨p, running, empty⟩ := idling
  cases step with
  | finishStart | shutDown =>
    obtain ⟨event, same⟩ := played _ List.mem_cons_self
    cases same
  | setRate | setPitch | detached | sweep => exact ⟨p, running, empty⟩
  | speak speech =>
    rw [notesOfSpeak_room speech running (room_of_empty empty)] at played
    obtain ⟨event, same⟩ := played.of_append.2 _ List.mem_cons_self
    cases same
  | @installed r q event now place step =>
    obtain rfl := Option.some.inj (running.symm.trans place)
    have shorter := step.length_waiting
    rw [empty] at shorter
    exact ⟨q, rfl, List.length_eq_zero_iff.mp (Nat.le_zero.mp shorter)⟩

/-- What the players do leaves an idle player idle. -/
theorem Run.idling (run : Run c d notes) (played : OnlyPlayed notes) (idling : c.Idling) :
    d.Idling := by
  induction run with
  | nil => exact idling
  | snoc _ step ih => exact step.idling played.of_append.2 (ih played.of_append.1)

end Console

variable {ω : Type} {work : ω → Console → Console × List Record} {controller : Controller.Setup}
  {setup : Console.Setup} {s t : Shared Console} {turn : Turn Console}
  {history later : List (Entry ω)}

/-- The engine could start, and answered a start when the controller was closed already. -/
def StartedLate (setup : Console.Setup) (history : List (Entry ω)) : Prop :=
  max 1 setup.queueCapacity ≤ Console.maxCapacity ∧
    ∃ entry ∈ history, entry.move.isAnswer = true ∧ entry.found.phase = .closed

theorem startedLate_snoc (setup : Console.Setup) (history : List (Entry ω)) (entry : Entry ω) :
    StartedLate setup (history ++ [entry]) ↔ StartedLate setup history ∨
      max 1 setup.queueCapacity ≤ Console.maxCapacity ∧ entry.move.isAnswer = true ∧
        entry.found.phase = .closed := by
  simp [StartedLate, or_and_right, exists_or, and_or_left]

theorem startedLate_snoc_of_not_answer {entry : Entry ω} (other : entry.move.isAnswer = false) :
    StartedLate setup (history ++ [entry]) ↔ StartedLate setup history := by
  simp [startedLate_snoc, other]

/-- A move closes the controller only if it is a shutdown, and no move opens it again. -/
theorem Shared.step?_closed {σ : Type} {engine : Engine σ} {work : ω → σ → σ × List Record}
    {s : Shared σ} {turn : Turn σ} {move : Move ω} (possible : s.step? engine work move = some turn) :
    turn.after.desk.controller.phase = .closed ↔
      s.desk.controller.phase = .closed ∨ move = .shutDown := by
  cases Shared.step?_change possible with
  | begun progress first _ controller => simp [controller, first]
  | discarded _ closed controller => simp [controller, closed]
  | failed _ stillOpen controller => simp [controller, stillOpen]
  | succeeded _ stillOpen _ controller => simp [controller, stillOpen]
  | closed controller => simp [controller]
  | kept noShutDown _ _ same => simp [same.phase, noShutDown]

/-- What a closed controller has left of the engine: an idle player if a start was late, and nothing
to speak otherwise. -/
structure Vacated (setup : Console.Setup) (s : Shared Console) (history : List (Entry ω)) : Prop where
  closed : StartedLate setup history → s.desk.controller.phase = .closed
  idling : StartedLate setup history → s.desk.engine.Idling
  vacant : s.desk.controller.phase = .closed → ¬ StartedLate setup history → s.desk.engine.Vacant

/-- A late start is as good as the engine has it, whatever the move was, unless it was an answer. -/
theorem Vacated.of_not_answer {entry : Entry ω} (other : entry.move.isAnswer = false)
    (closed : StartedLate setup history → t.desk.controller.phase = .closed)
    (idling : StartedLate setup history → t.desk.engine.Idling)
    (vacant : t.desk.controller.phase = .closed → ¬ StartedLate setup history →
      t.desk.engine.Vacant) : Vacated setup t (history ++ [entry]) := by
  rw [← startedLate_snoc_of_not_answer other] at closed idling vacant
  exact ⟨closed, idling, vacant⟩

theorem Vacated.step (vacated : Vacated setup s history) {move : Move ω}
    (plays : Plays work) (reached : ∃ notes, Console.Run (.new setup) s.desk.engine notes)
    (possible : s.step? Console.engine work move = some turn) :
    Vacated setup turn.after
      (history ++ [⟨s.desk.controller, move, turn.answer, turn.effects⟩]) := by
  have closes := Shared.step?_closed possible
  cases Shared.step?_engineUse plays possible with
  | untouched noAnswer wasClosed same =>
    refine .of_not_answer noAnswer (fun late => closes.mpr (.inl (vacated.closed late))) ?_ ?_
    · rw [same]
      exact vacated.idling
    · rw [same]
      exact fun closed => vacated.vacant ((closes.mp closed).elim id wasClosed)
  | spoke noAnswer noShutDown ready reaches =>
    have stillOpen : s.desk.controller.phase ≠ .closed := by simp [ready]
    have onTime : ¬ StartedLate setup history := fun late => stillOpen (vacated.closed late)
    refine .of_not_answer noAnswer (fun late => absurd late onTime)
      (fun late => absurd late onTime) fun closed => ?_
    exact absurd (closes.mp closed) (by simp [stillOpen, noShutDown])
  | played events run =>
    have played := Console.onlyPlayed_map events
    refine .of_not_answer rfl (fun late => closes.mpr (.inl (vacated.closed late))) ?_ ?_
    · exact fun late => run.idling played (vacated.idling late)
    · intro closed onTime
      exact run.vacant played (vacated.vacant ((closes.mp closed).resolve_right nofun) onTime)
  | shut stillOpen same =>
    obtain ⟨notes, run⟩ := reached
    have onTime : ¬ StartedLate setup history := fun late => stillOpen (vacated.closed late)
    refine .of_not_answer rfl (fun late => absurd late onTime)
      (fun late => absurd late onTime) fun _ _ => ?_
    rw [same]
    exact Console.vacant_shutDown run.dated
  | @answered place turn awaited same controller starting =>
    obtain ⟨notes, run⟩ := reached
    have capacity : s.desk.engine.capacity = max 1 setup.queueCapacity := by
      rw [Console.capacity, run.setup_eq]
      rfl
    rcases s.desk.engine.finishStart_cases with ⟨large, broken⟩ | ⟨fits, done⟩
    · rw [capacity] at large
      have sameHistory : StartedLate setup (history ++
          [⟨s.desk.controller, .answer place, turn.answer, turn.effects⟩]) ↔
            StartedLate setup history := by
        simp [startedLate_snoc, Nat.not_le_of_lt large]
      rw [broken] at same
      refine ⟨?_, ?_, ?_⟩
      · rw [sameHistory, controller]
        exact vacated.closed
      · rw [sameHistory, same]
        exact vacated.idling
      · rw [sameHistory, controller, same]
        exact vacated.vacant
    · rw [capacity] at fits
      rw [Console.finishStart_installed done] at same
      refine ⟨?_, ?_, ?_⟩
      · rw [startedLate_snoc, controller]
        rintro (late | ⟨-, -, closed⟩)
        · exact vacated.closed late
        · exact closed
      · rw [same]
        exact fun _ => ⟨_, rfl, rfl⟩
      · rw [controller]
        intro closed onTime
        refine absurd ?_ onTime
        rw [startedLate_snoc]
        exact .inr ⟨fits, rfl, closed⟩

/-- Every run leaves this of the engine. -/
theorem Vacated.of_run (plays : Plays work)
    (run : Run Console.engine work (.new controller (.new setup)) s history) :
    Vacated setup s history := by
  induction run with
  | nil => exact ⟨by simp [StartedLate], by simp [StartedLate], fun _ _ => Console.vacant_new setup⟩
  | snoc run possible ih => exact ih.step plays (run.console plays) possible

/-- Once the controller is closed and no start is between its two steps, this stays so, and the engine
answers none any more. -/
theorem Run.after_close {σ : Type} {engine : Engine σ} {work : ω → σ → σ × List Record}
    {s t : Shared σ} (run : Run engine work s t later) (closed : s.desk.controller.phase = .closed)
    (none_starting : s.starting = []) :
    t.desk.controller.phase = .closed ∧ t.starting = [] ∧
      ∀ entry ∈ later, entry.move.isAnswer = false := by
  induction run with
  | nil => exact ⟨closed, none_starting, by simp⟩
  | @snoc before later move turn run possible ih =>
    obtain ⟨closed, none_starting, noAnswer⟩ := ih
    have stays := (Shared.step?_closed possible).mpr (.inl closed)
    have absent {place : Nat} {progress : Progress} :
        before.starting[place]? ≠ some progress := by
      simp [none_starting]
    refine ⟨stays, ?_, ?_⟩
    · cases Shared.step?_change possible with
      | begun progress first => exact absurd (first.symm.trans closed) Phase.noConfusion
      | discarded present | failed present | succeeded present => exact absurd present absent
      | closed _ starting => rw [starting, none_starting]
      | kept _ _ _ _ fewer =>
        rw [none_starting] at fewer
        exact List.length_eq_zero_iff.mp (Nat.le_zero.mp fewer)
    · intro entry member
      rcases List.mem_append.mp member with earlier | last
      · exact noAnswer entry earlier
      · rw [List.mem_singleton.mp last]
        cases move with
        | answer place => simp [Shared.step?, none_starting] at possible
        | _ => rfl

theorem startedLate_append (noAnswer : ∀ entry ∈ later, entry.move.isAnswer = false) :
    StartedLate setup (history ++ later) ↔ StartedLate setup history := by
  refine and_congr_right fun _ => ⟨?_, ?_⟩
  · rintro ⟨entry, member, answers, closed⟩
    rcases List.mem_append.mp member with earlier | last
    · exact ⟨entry, earlier, answers, closed⟩
    · simp [noAnswer entry last] at answers
  · rintro ⟨entry, member, both⟩
    exact ⟨entry, List.mem_append_left _ member, both⟩

/-- After a shutdown, the engine is released exactly if no start was late. After a late one it takes
what it is given; and once no start is between its two steps, nothing changes this. -/
theorem released_iff (plays : Plays work)
    (run : Run Console.engine work (.new controller (.new setup)) s history)
    (shut : WasShutDown history) :
    (s.desk.engine.Released ↔ ¬ StartedLate setup history) ∧
    (StartedLate setup history → ∀ speech, (s.desk.engine.speak speech).1 = .ok ()) ∧
    (s.starting = [] → ∀ t later, Run Console.engine work s t later →
      (t.desk.engine.Released ↔ s.desk.engine.Released)) := by
  have closed := (Course.of_run run).closed_iff.mpr shut
  have released {t : Shared Console} {history : List (Entry ω)} (vacated : Vacated setup t history)
      (closed : t.desk.controller.phase = .closed) :
      t.desk.engine.Released ↔ ¬ StartedLate setup history :=
    ⟨fun released late => (vacated.idling late).not_released released,
      fun onTime => (vacated.vacant closed onTime).released⟩
  refine ⟨released (.of_run plays run) closed, ?_, ?_⟩
  · exact fun late => ((Vacated.of_run plays run).idling late).speak
  · intro none_starting t later continued
    obtain ⟨still, -, noAnswer⟩ := continued.after_close closed none_starting
    rw [released (.of_run plays (run.append continued)) still, startedLate_append noAnswer]
    exact (released (.of_run plays run) closed).symm

/-- A shutdown in the middle of an utterance releases the engine. -/
theorem released_while_speaking :
    ∃ s history, Run Console.engine Console.engine.settle (.new .default (.new .default)) s history ∧
      WasShutDown history ∧ s.desk.engine.players ≠ [] ∧ s.desk.engine.Released := by
  have begun : Run Console.engine Console.engine.settle (.new .default (.new .default)) _ _ :=
    .snoc .nil (show Shared.step? _ _ _ .beginInit = some _ from rfl)
  have answered := begun.snoc (show Shared.step? _ _ _ (.answer 0) = some _ from rfl)
  have ready := answered.snoc (show Shared.step? _ _ _ (.finishInit 0) = some _ from rfl)
  have asked := ready.snoc
    (show Shared.step? _ _ _ (.submitSystem (.supply 0) "hello") = some _ from rfl)
  have spoken := asked.snoc (show Shared.step? _ _ _ (.work 0) = some _ from rfl)
  have run := spoken.snoc (show Shared.step? _ _ _ .shutDown = some _ from rfl)
  refine ⟨_, _, run, by simp [WasShutDown], ?_, ?_⟩
  · decide +kernel
  · refine (released_iff plays_settle run (by simp [WasShutDown])).1.mpr ?_
    unfold StartedLate
    decide +kernel

/-- A start that is answered after the shutdown leaves the engine running, with nobody left to shut
it down. -/
theorem not_released_after_late_start :
    ∃ s history, Run Console.engine Console.engine.settle (.new .default (.new .default)) s history ∧
      WasShutDown history ∧ s.starting = [] ∧ s.desk.controller.phase = .closed ∧
      s.desk.engine.players = [.new 1] ∧ ¬ s.desk.engine.Released ∧
      (s.desk.engine.speak ⟨"hello", .add, none⟩).1 = .ok () := by
  have begun : Run Console.engine Console.engine.settle (.new .default (.new .default)) _ _ :=
    .snoc .nil (show Shared.step? _ _ _ .beginInit = some _ from rfl)
  have shut := begun.snoc (show Shared.step? _ _ _ .shutDown = some _ from rfl)
  have answered := shut.snoc (show Shared.step? _ _ _ (.answer 0) = some _ from rfl)
  have run := answered.snoc (show Shared.step? _ _ _ (.finishInit 0) = some _ from rfl)
  refine ⟨_, _, run, by simp [WasShutDown], rfl, rfl, rfl, ?_, ?_⟩
  · rintro ⟨stopped, -, -⟩
    cases stopped
  · exact Console.Idling.speak ⟨_, rfl, rfl⟩ _

end SpeechQueue
