import SpeechQueue.Engine.Console
import SpeechQueue.Proofs.PlayerSteps

/-! # Runs of the console engine

The calls of the engine and the steps of its players come in any order, a player not necessarily
having caught up when the next call comes. A run keeps a record of what was accepted, of every call
that cancels, and of what happens in playback. `Run.play` says that letting all players do what
they can is part of a run, and `Step.players` reduces what holds of all players to their own
steps. -/

namespace SpeechQueue

open Playback

namespace Console

/-- What a run keeps a record of. -/
inductive Note where
  /-- A start has ended and has installed a player. -/
  | installed
  | accepted (item : Item)
  /-- A flush or a shutdown has raised the generation. -/
  | renewed
  | happened (event : Event)
deriving DecidableEq

/-- The engine at the time an utterance of a mode is put into the channel. -/
def renewedFor (c : Console) : Mode → Console
  | .flush => { c with generation := c.generation + 1 }
  | .add => c

@[simp] theorem renewedFor_detached (c : Console) (mode : Mode) :
    (c.renewedFor mode).detached = c.detached := by
  cases mode <;> rfl

@[simp] theorem renewedFor_players (c : Console) (mode : Mode) :
    (c.renewedFor mode).players = c.players := by
  cases mode <;> rfl

/-- What a call of speaking leaves in the record. -/
def notesOfSpeak (speech : Speech) (c : Console) : List Note :=
  match c.installed with
  | none => []
  | some player =>
    (match speech.mode with
      | .flush => [.renewed]
      | .add => []) ++
    if player.waiting.length < c.capacity then
      [.accepted ((c.renewedFor speech.mode).item speech)]
    else []

/-- The engine after something has happened in playback. -/
def counting (event : Event) (c : Console) : Console :=
  { c with played := c.played + if event.isCompletion then 1 else 0 }

/-- A call of the engine, a step of one of its players, or the loss of players that have stopped. -/
inductive Step : Console → List Note → Console → Prop
  | finishStart {c : Console} : c.finishStart.1 = some (.ok ()) →
      Step c [.installed] c.finishStart.2.1
  | setRate (c : Console) (rate : Single) : Step c [] { c with rate := rate }
  | setPitch (c : Console) (pitch : Single) : Step c [] { c with pitch := pitch }
  | speak (c : Console) (speech : Speech) : Step c (c.notesOfSpeak speech) (c.speak speech).2.1
  | shutDown (c : Console) : Step c [.renewed] c.shutDown.1
  | installed {c : Console} {p q : Player} {event : Event} {now : Nat} : c.installed = some p →
      Player.Step c.setup.wordsPerMinute c.generation now true p event q →
      Step c [.happened event] (counting event { c with installed := some q })
  | detached {c : Console} {front back : List Player} {p q : Player} {event : Event} {now : Nat} :
      c.detached = front ++ p :: back →
      Player.Step c.setup.wordsPerMinute c.generation now false p event q →
      Step c [.happened event] (counting event { c with detached := front ++ q :: back })
  | sweep (c : Console) :
      Step c [] { c with detached := c.detached.filter (·.stage ≠ .stopped) }

/-- The runs from an engine, with the state that each reaches and its record. -/
inductive Run (start : Console) : Console → List Note → Prop
  | nil : Run start start []
  | snoc {c d : Console} {notes more : List Note} :
      Run start c notes → Step c more d → Run start d (notes ++ more)

variable {start c d : Console} {notes more : List Note}

/-- What every step keeps holds after every run. -/
theorem Run.preserves (run : Run start c notes) (invariant : Console → Prop)
    (initially : invariant start)
    (kept : ∀ (before after : Console) (more : List Note), invariant before →
      Step before more after → invariant after) : invariant c := by
  induction run with
  | nil => exact initially
  | snoc _ step ih => exact kept _ _ _ ih step

/-- A run that goes on where another one has ended is one run with it. -/
theorem Run.append (first : Run start c notes) (second : Run c d more) :
    Run start d (notes ++ more) := by
  induction second with
  | nil => rwa [List.append_nil]
  | snoc _ step ih =>
    rw [← List.append_assoc]
    exact ih.snoc step

/-! ## Speaking -/

theorem engine_speak (speech : Speech) (c : Console) : engine.speak speech c = c.speak speech := rfl

theorem speak_unavailable (speech : Speech) (stopped : c.installed = none) :
    c.speak speech = (.error (.unavailable "engine not running"), c, []) := by
  rw [speak, stopped]

theorem speak_full {player : Player} (speech : Speech) (running : c.installed = some player)
    (full : c.capacity ≤ player.waiting.length) :
    c.speak speech =
      (.error (.rejected "playback queue full"), c.renewedFor speech.mode, []) := by
  cases mode : speech.mode <;> simp [speak, running, mode, renewedFor, capacity] <;>
    simpa [capacity] using full

theorem speak_accepted {player : Player} (speech : Speech) (running : c.installed = some player)
    (room : player.waiting.length < c.capacity) :
    c.speak speech =
      (.ok (),
        { c.renewedFor speech.mode with
          installed := some { player with
            waiting := player.waiting ++ [(c.renewedFor speech.mode).item speech] } }, []) := by
  have room : ¬ c.capacity ≤ player.waiting.length := Nat.not_le_of_lt room
  cases mode : speech.mode <;> simp [speak, running, mode, renewedFor, capacity] <;>
    simpa [capacity] using room

/-! ## The players -/

/-- The end of a start puts the installed player behind the detached ones, and a fresh one in its
place. -/
theorem finishStart_installed (done : c.finishStart.1 = some (.ok ())) :
    c.finishStart.2.1 = { c with
      detached := c.players
      installed := some (.new c.generation) } := by
  unfold finishStart at done ⊢
  split at done
  · simp at done
  · next small => simp [small, players]

theorem shutDown_players (c : Console) : c.shutDown.1.players = c.players := by
  simp [shutDown, players]

private theorem speak_players {holds : Nat → Player → Prop} (speech : Speech)
    (all : ∀ p ∈ c.players, holds c.generation p)
    (renewed : ∀ p, holds c.generation p → holds (c.generation + 1) p)
    (accepted : ∀ (generation : Nat) (p : Player) (item : Item), item.generation = generation →
      p.waiting.length < c.capacity → holds generation p →
      holds generation { p with waiting := p.waiting ++ [item] }) :
    ∀ p ∈ (c.speak speech).2.1.players, holds (c.speak speech).2.1.generation p := by
  have still : ∀ p ∈ c.players, holds (c.renewedFor speech.mode).generation p := by
    intro p member
    cases speech.mode with
    | flush => exact renewed p (all p member)
    | add => exact all p member
  cases running : c.installed with
  | none =>
    rw [speak_unavailable speech running]
    exact all
  | some player =>
    by_cases room : player.waiting.length < c.capacity
    · rw [speak_accepted speech running room]
      intro p member
      simp only [players, renewedFor_detached, Option.toList_some, List.mem_append,
        List.mem_singleton] at member
      rcases member with earlier | rfl
      · exact still p (List.mem_append_left _ earlier)
      · exact accepted _ player _ rfl room (still player (by simp [players, running]))
    · rw [speak_full speech running (Nat.le_of_not_lt room)]
      rw [renewedFor_players]
      exact still

/-- Of the players after a step of one of them, all but that one were there before. -/
theorem mem_of_ne {front back : List Player} {p q r : Player} (member : r ∈ front ++ q :: back)
    (other : r ≠ q) : r ∈ front ++ p :: back := by
  simp only [List.mem_append, List.mem_cons] at member ⊢
  exact member.imp_right fun last => .inr (last.resolve_left other)

theorem mem_players_of_detached {front back : List Player} {p : Player}
    (place : c.detached = front ++ p :: back) : p ∈ c.players := by
  simp [players, place]

/-- After a step of a detached player, every other player was there before. -/
theorem eq_or_mem_players {front back : List Player} {p q r : Player}
    (place : c.detached = front ++ p :: back)
    (member : r ∈ front ++ q :: back ++ c.installed.toList) : r = q ∨ r ∈ c.players := by
  by_cases same : r = q
  · exact .inl same
  · refine .inr (List.mem_append.mpr ?_)
    rw [place]
    exact (List.mem_append.mp member).imp_left fun seated => mem_of_ne seated same

/-- What holds of every player is kept if each step of a player keeps it, a fresh player has it, and
neither a raised generation nor an accepted utterance ends it. -/
theorem Step.players {holds : Nat → Player → Prop} (step : Step c more d)
    (all : ∀ p ∈ c.players, holds c.generation p)
    (fresh : holds c.generation (.new c.generation))
    (renewed : ∀ p, holds c.generation p → holds (c.generation + 1) p)
    (accepted : ∀ (generation : Nat) (p : Player) (item : Item), item.generation = generation →
      p.waiting.length < c.capacity → holds generation p →
      holds generation { p with waiting := p.waiting ++ [item] })
    (stepped : ∀ (now : Nat) (attached : Bool) (p q : Player) (event : Event),
      Player.Step c.setup.wordsPerMinute c.generation now attached p event q →
      holds c.generation p → holds c.generation q) :
    ∀ p ∈ d.players, holds d.generation p := by
  cases step with
  | finishStart done =>
    have installed := finishStart_installed done
    intro p member
    simp only [players, installed, Option.toList_some, List.mem_append, List.mem_singleton] at member
    rcases member with earlier | rfl
    · exact installed ▸ all p (List.mem_append.mpr earlier)
    · exact installed ▸ fresh
  | setRate | setPitch => exact all
  | speak speech => exact speak_players speech all renewed accepted
  | shutDown =>
    intro p member
    exact renewed p (all p (shutDown_players c ▸ member))
  | @installed p q event now place step =>
    intro r member
    simp only [counting, players, Option.toList_some, List.mem_append, List.mem_singleton] at member
    rcases member with earlier | rfl
    · exact all r (List.mem_append_left _ earlier)
    · exact stepped now true p r event step (all p (by simp [players, place]))
  | @detached front back p q event now place step =>
    intro r member
    rcases eq_or_mem_players place member with rfl | earlier
    · exact stepped now false p r event step (all p (mem_players_of_detached place))
    · exact all r earlier
  | sweep =>
    intro p member
    simp only [players, List.mem_append, List.mem_filter] at member
    exact all p (List.mem_append.mpr (member.imp And.left id))

/-- Throughout a run, the tags of the players are those of the generations so far. -/
theorem Run.dated {setup : Setup} (run : Run (.new setup) c notes) :
    ∀ p ∈ c.players, p.Dated c.generation := by
  refine run.preserves (fun c => ∀ p ∈ c.players, p.Dated c.generation) (by simp [new, players])
    fun before after more all step => step.players all ⟨by simp [Player.new], Nat.le_refl _⟩
      (fun p dated => ?_) (fun generation p item tag _ dated => ?_)
      fun now attached p q event step dated => step.dated dated
  · exact ⟨fun item member => Nat.le_succ_of_le (dated.waiting item member),
      Nat.le_succ_of_le dated.seen⟩
  · refine ⟨fun other member => ?_, dated.seen⟩
    rcases List.mem_append.mp member with earlier | last
    · exact dated.waiting other earlier
    · obtain rfl := List.mem_singleton.mp last
      exact Nat.le_of_eq tag

/-- When every step of the player in a seat is a step of the engine, so are all steps of a path. What
is played to its end is counted as it happens. -/
private theorem Run.path (seat : Player → Nat → Console) {wordsPerMinute generation now : Nat}
    {attached : Bool} {p q : Player} {events : List Event} {played : Nat}
    (steps : ∀ (p q : Player) (event : Event) (played : Nat),
      Player.Step wordsPerMinute generation now attached p event q →
      Step (seat p played) [.happened event] (counting event (seat q played)))
    (counts : ∀ (p : Player) (event : Event) (played : Nat),
      counting event (seat p played) = seat p (played + if event.isCompletion then 1 else 0))
    (run : Run start (seat p played) notes)
    (path : Player.Path wordsPerMinute generation now attached p events q) :
    Run start (seat q (played + events.countP Event.isCompletion))
      (notes ++ events.map .happened) := by
  induction path generalizing notes played with
  | nil p => simpa using run
  | @cons p middle q event events step path ih =>
    have stepped := run.snoc (steps p middle event played step)
    rw [counts] at stepped
    simpa [List.countP_cons, Nat.add_comm, Nat.add_left_comm] using ih stepped

/-- Every step of a detached player is part of a run. -/
theorem Run.detached_path {front back : List Player} {p q : Player} {events : List Event}
    {now : Nat} (run : Run start c notes) (place : c.detached = front ++ p :: back)
    (path : Player.Path c.setup.wordsPerMinute c.generation now false p events q) :
    Run start { c with
        detached := front ++ q :: back
        played := c.played + events.countP Event.isCompletion }
      (notes ++ events.map .happened) := by
  have seated : c = { c with detached := front ++ p :: back } := by rw [← place]
  rw [seated] at run
  exact Run.path (fun p played => { c with detached := front ++ p :: back, played := played })
    (fun p q event played step => .detached rfl step) (fun p event played => rfl) run path

/-- Every step of the installed player is part of a run. -/
theorem Run.installed_path {p q : Player} {events : List Event} {now : Nat}
    (run : Run start c notes) (place : c.installed = some p)
    (path : Player.Path c.setup.wordsPerMinute c.generation now true p events q) :
    Run start { c with
        installed := some q
        played := c.played + events.countP Event.isCompletion }
      (notes ++ events.map .happened) := by
  have seated : c = { c with installed := some p } := by rw [← place]
  rw [seated] at run
  exact Run.path (fun p played => { c with installed := some p, played := played })
    (fun p q event played step => .installed rfl step) (fun p event played => rfl) run path

/-- The detached players settle one after the other. -/
private theorem Run.settle_detached {front back : List Player} (run : Run start c notes)
    (place : c.detached = front ++ back) (now : Nat) :
    let settled := back.map (Player.settle c.setup.wordsPerMinute c.generation now false)
    Run start { c with
        detached := front ++ settled.map (·.1)
        played := c.played + (settled.flatMap (·.2)).countP Event.isCompletion }
      (notes ++ (settled.flatMap (·.2)).map .happened) := by
  induction back generalizing c notes front with
  | nil => simpa [← place] using run
  | cons p back ih =>
    have path : Player.Path c.setup.wordsPerMinute c.generation now false p _ _ :=
      Player.settle_path p
    have first := run.detached_path place path
    have rest := ih first (by rw [List.append_cons])
    simpa [Nat.add_assoc] using rest

/-- The installed player settles, if there is one. -/
private theorem Run.settle_installed (run : Run start c notes) (now : Nat) :
    let settled := c.installed.map (Player.settle c.setup.wordsPerMinute c.generation now true)
    Run start { c with
        installed := settled.map (·.1)
        played := c.played + (settled.toList.flatMap (·.2)).countP Event.isCompletion }
      (notes ++ (settled.toList.flatMap (·.2)).map .happened) := by
  obtain ⟨setup, rate, pitch, generation, _ | p, detached, played⟩ := c
  · simpa using run
  · have path : Player.Path setup.wordsPerMinute generation now true p _ _ := Player.settle_path p
    simpa using run.installed_path rfl path

theorem play_installed (c : Console) (now : Nat) :
    (c.play now).1.installed =
      c.installed.map fun p => (p.settle c.setup.wordsPerMinute c.generation now true).1 := by
  simp [Console.play, Function.comp_def]

/-- The installed player catches up whenever the engine does what it can. -/
theorem play_caughtUp {p : Player} {now : Nat} (installed : (c.play now).1.installed = some p) :
    p.CaughtUp c.generation now := by
  rw [play_installed] at installed
  obtain ⟨before, -, rfl⟩ := Option.map_eq_some_iff.mp installed
  exact Player.settle_caughtUp before

/-- Whatever the engine does by itself is part of a run. -/
theorem Run.play (run : Run start c notes) (now : Nat) :
    Run start (c.play now).1 (notes ++ (c.play now).2.map .happened) := by
  unfold Console.play
  by_cases isFresh : c.installed.any (·.stage = .fresh)
  · have settled := (run.settle_installed now).settle_detached (List.nil_append _).symm now
    simpa [isFresh, Nat.add_assoc] using settled.snoc (.sweep _)
  · have settled := (run.settle_detached (List.nil_append _).symm now).settle_installed now
    simpa [isFresh, Nat.add_assoc] using settled.snoc (.sweep _)

end Console

end SpeechQueue
