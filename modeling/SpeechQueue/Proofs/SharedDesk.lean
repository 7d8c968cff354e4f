import SpeechQueue.Proofs.DeskSteps

/-! # A desk shared by tasks

Any number of tasks call the operations of one controller. What an operation does under the lock is
one move, and starting takes two of them. Between two moves of a start the engine answers it, and at
any time the engine may go on with work of its own. A run is any sequence of such moves, with a
history of what each of them found and gave. -/

namespace SpeechQueue

/-- How far a start is between its two steps. -/
inductive Progress where
  /-- The engine takes its time. -/
  | awaited
  /-- The engine has answered, and the task has yet to take the lock again. -/
  | answered (result : Except EngineError Unit)

/-- A desk while nobody holds the lock. -/
structure Shared (σ : Type) where
  desk : Desk σ
  /-- The starts that are between their two steps. -/
  starting : List Progress

/-- What can happen next. The engine's own work is told apart by `ω`. -/
inductive Move (ω : Type) where
  | beginInit
  /-- The engine answers the start at a place. -/
  | answer (place : Nat)
  /-- The start at a place hears of the engine's answer. -/
  | finishInit (place : Nat)
  | submitUser (id : UtteranceId) (text : String) (mode : Mode)
  | submitSystem (id : UtteranceId) (text : String)
  | submit (id : UtteranceId) (text : String) (source : Source)
  | setListener (listener : ListenerId)
  | shutDown
  | work (label : ω)

/-- What a call returns to its task. -/
inductive Answer where
  | started (result : Except QueueError LanguageStatus)
  | submitted (result : Except QueueError Receipt)
  | done

/-- What a move gives. There is no answer while the call goes on. -/
structure Turn (σ : Type) where
  after : Shared σ
  answer : Option Answer
  effects : List Effect

namespace Shared

variable {σ ω : Type}

/-- A new controller and its engine, before any call. -/
def new (setup : Controller.Setup) (engine : σ) : Shared σ := ⟨⟨.new setup, engine⟩, []⟩

/-- The turn of a call that is over after one step. -/
def turn {α : Type} (s : Shared σ) (answer : α → Answer) (o : Outcome σ α) : Turn σ :=
  ⟨{ s with desk := o.desk }, some (answer o.result), o.effects⟩

/-- The turn of a first step of starting. -/
def turnOfBegun (s : Shared σ) (o : Outcome σ Desk.Begun) : Turn σ :=
  match o.result with
  | .answered result => ⟨{ s with desk := o.desk }, some (.started result), o.effects⟩
  | .started result => ⟨⟨o.desk, s.starting ++ [.answered result]⟩, none, o.effects⟩
  | .awaited _ => ⟨⟨o.desk, s.starting ++ [.awaited]⟩, none, o.effects⟩

/-- The first wish to start begins a start. -/
theorem turnOfBegun_fresh (engine : Engine σ) (s : Shared σ)
    (fresh : s.desk.controller.phase = .uninitialized ∧ s.desk.controller.attempted = false) :
    ∃ progress, (s.turnOfBegun (s.desk.beginInit engine)).after =
      ⟨(s.desk.beginInit engine).desk, s.starting ++ [progress]⟩ := by
  have begun := s.desk.beginInit_begun engine fresh
  unfold turnOfBegun
  split
  · next result answered => exact absurd answered (begun result)
  · exact ⟨_, rfl⟩
  · exact ⟨_, rfl⟩

/-- Any other one begins none. -/
theorem turnOfBegun_stale (engine : Engine σ) (s : Shared σ)
    (stale : ¬ (s.desk.controller.phase = .uninitialized ∧ s.desk.controller.attempted = false)) :
    (s.turnOfBegun (s.desk.beginInit engine)).after =
      { s with desk := (s.desk.beginInit engine).desk } := by
  obtain ⟨result, answered⟩ := s.desk.beginInit_answered engine stale
  rw [turnOfBegun, answered]

/-- The starts after the engine's answer to the one at a place. An engine that breaks down leaves
its task without an answer. -/
def answeredAt (place : Nat) (result : Option (Except EngineError Unit)) (starting : List Progress) :
    List Progress :=
  match result with
  | some result => starting.set place (.answered result)
  | none => starting.eraseIdx place

/-- The turn of a move, if it is possible. -/
def step? (engine : Engine σ) (work : ω → σ → σ × List Record) (s : Shared σ) :
    Move ω → Option (Turn σ)
  | .beginInit => some (s.turnOfBegun (s.desk.beginInit engine))
  | .answer place =>
    match s.starting[place]? with
    | some .awaited =>
      let (result, state, records) := engine.finishStart s.desk.engine
      some ⟨⟨{ s.desk with engine := state }, answeredAt place result s.starting⟩, none,
        records.map .record⟩
    | _ => none
  | .finishInit place =>
    match s.starting[place]? with
    | some (.answered result) =>
      let o := s.desk.finishInit engine result
      some ⟨⟨o.desk, s.starting.eraseIdx place⟩, some (.started o.result), o.effects⟩
    | _ => none
  | .submitUser id text mode => some (s.turn .submitted (s.desk.submitUser engine id text mode))
  | .submitSystem id text => some (s.turn .submitted (s.desk.submitSystem engine id text))
  | .submit id text source => some (s.turn .submitted (s.desk.submit engine id text source))
  | .setListener listener => some ⟨{ s with desk := s.desk.setListener listener }, some .done, []⟩
  | .shutDown => some (s.turn (fun _ => .done) (s.desk.shutDown engine))
  | .work label =>
    let (state, records) := work label s.desk.engine
    some ⟨{ s with desk := { s.desk with engine := state } }, none, records.map .background⟩

end Shared

/-- A move with the controller that it found and what it gave. -/
structure Entry (ω : Type) where
  found : Controller
  move : Move ω
  answer : Option Answer
  effects : List Effect

/-- The runs from a shared desk, with the state that each reaches and its history. -/
inductive Run {σ ω : Type} (engine : Engine σ) (work : ω → σ → σ × List Record) (start : Shared σ) :
    Shared σ → List (Entry ω) → Prop
  | nil : Run engine work start start []
  | snoc {s : Shared σ} {history : List (Entry ω)} {move : Move ω} {turn : Turn σ} :
      Run engine work start s history → s.step? engine work move = some turn →
      Run engine work start turn.after
        (history ++ [⟨s.desk.controller, move, turn.answer, turn.effects⟩])

/-- What every move keeps holds after every run. -/
theorem Run.preserves {σ ω : Type} {engine : Engine σ} {work : ω → σ → σ × List Record}
    {start s : Shared σ} {history : List (Entry ω)} (run : Run engine work start s history)
    (invariant : Shared σ → Prop) (initially : invariant start)
    (kept : ∀ (before : Shared σ) (move : Move ω) (turn : Turn σ), invariant before →
      before.step? engine work move = some turn → invariant turn.after) : invariant s := by
  induction run with
  | nil => exact initially
  | snoc _ step ih => exact kept _ _ _ ih step

/-- A run that goes on where another one has ended is one run with it. -/
theorem Run.append {σ ω : Type} {engine : Engine σ} {work : ω → σ → σ × List Record}
    {start s t : Shared σ} {history later : List (Entry ω)} (first : Run engine work start s history)
    (second : Run engine work s t later) : Run engine work start t (history ++ later) := by
  induction second with
  | nil => rwa [List.append_nil]
  | snoc _ possible ih =>
    rw [← List.append_assoc]
    exact ih.snoc possible

/-- Where a history with one more entry is split, the new entry is the one that is picked out, or it
comes later. -/
theorem snoc_eq_append_cons {α : Type} {history earlier later : List α} {entry found : α}
    (split : history ++ [entry] = earlier ++ found :: later) :
    (history = earlier ∧ entry = found ∧ later = []) ∨
      ∃ shorter, history = earlier ++ found :: shorter := by
  rcases List.eq_nil_or_concat later with rfl | ⟨shorter, last, rfl⟩
  · obtain ⟨same, picked⟩ := List.append_inj' split rfl
    exact .inl ⟨same, List.singleton_inj.mp picked, rfl⟩
  · rw [List.concat_eq_append, ← List.cons_append, ← List.append_assoc] at split
    exact .inr ⟨shorter, (List.append_inj' split rfl).1⟩

/-- What is picked out of a history with one more entry: the new one may add to it. -/
theorem filterMap_snoc {α β : Type} (pick : α → Option β) (history : List α) (entry : α) :
    (history ++ [entry]).filterMap pick = history.filterMap pick ++ (pick entry).toList := by
  rw [List.filterMap_append]
  cases picked : pick entry <;> simp [picked]

/-- Every entry of a history was a move from a state that the run had reached by then. -/
theorem Run.entry {σ ω : Type} {engine : Engine σ} {work : ω → σ → σ × List Record}
    {start s : Shared σ} {history earlier later : List (Entry ω)} {entry : Entry ω}
    (run : Run engine work start s history) (split : history = earlier ++ entry :: later) :
    ∃ before turn, Run engine work start before earlier ∧
      before.step? engine work entry.move = some turn ∧
      entry = ⟨before.desk.controller, entry.move, turn.answer, turn.effects⟩ := by
  induction run generalizing later with
  | nil => simp at split
  | @snoc before history move turn run step ih =>
    rcases snoc_eq_append_cons split with ⟨rfl, rfl, -⟩ | ⟨shorter, split⟩
    · exact ⟨before, turn, run, step, rfl⟩
    · exact ih split

/-- A run goes through a state wherever its history is cut. -/
theorem Run.cut {σ ω : Type} {engine : Engine σ} {work : ω → σ → σ × List Record} {s t : Shared σ}
    {history earlier later : List (Entry ω)} (run : Run engine work s t history)
    (split : history = earlier ++ later) :
    ∃ middle, Run engine work s middle earlier ∧ Run engine work middle t later := by
  induction run generalizing later with
  | nil =>
    obtain ⟨rfl, rfl⟩ := List.append_eq_nil_iff.mp split.symm
    exact ⟨s, .nil, .nil⟩
  | @snoc before noted move turn run possible ih =>
    rcases List.eq_nil_or_concat later with rfl | ⟨shorter, last, rfl⟩
    · rw [List.append_nil] at split
      exact ⟨turn.after, split ▸ run.snoc possible, .nil⟩
    · rw [List.concat_eq_append, ← List.append_assoc] at split
      obtain ⟨known, picked⟩ := List.append_inj' split rfl
      obtain ⟨middle, first, second⟩ := ih known
      rw [List.concat_eq_append, ← List.singleton_inj.mp picked]
      exact ⟨middle, first, second.snoc possible⟩

theorem Run.eq_of_nil {σ ω : Type} {engine : Engine σ} {work : ω → σ → σ × List Record}
    {s t : Shared σ} {history : List (Entry ω)} (run : Run engine work s t history)
    (empty : history = []) : t = s := by
  cases run with
  | nil => rfl
  | snoc => simp at empty

/-- The first entry of a history is that of a move, and the run goes on from there. -/
theorem Run.uncons {σ ω : Type} {engine : Engine σ} {work : ω → σ → σ × List Record}
    {s t : Shared σ} {history later : List (Entry ω)} {entry : Entry ω}
    (run : Run engine work s t history) (split : history = entry :: later) :
    ∃ turn, s.step? engine work entry.move = some turn ∧
      entry = ⟨s.desk.controller, entry.move, turn.answer, turn.effects⟩ ∧
      Run engine work turn.after t later := by
  induction run generalizing later with
  | nil => cases split
  | @snoc before noted move turn run possible ih =>
    cases noted with
    | nil =>
      obtain ⟨rfl, rfl⟩ := List.cons.inj split
      obtain rfl := run.eq_of_nil rfl
      exact ⟨turn, possible, rfl, .nil⟩
    | cons first noted =>
      obtain ⟨rfl, rfl⟩ := List.cons.inj split
      obtain ⟨turn, started, same, rest⟩ := ih rfl
      exact ⟨turn, started, same, rest.snoc possible⟩

end SpeechQueue
