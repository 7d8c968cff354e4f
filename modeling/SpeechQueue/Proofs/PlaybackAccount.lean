import SpeechQueue.Proofs.PlayerSteps

/-! # An account of what became of utterances

The account is kept from the events alone: an utterance is entered when it is received, and leaves
the front place with the one way in which it ended. Not every list of events has an account, for an
utterance that is received while another one is spoken, or that ends without being spoken, cannot be
entered. `Player.Step.enter` says that the steps of a player always can. -/

namespace SpeechQueue

namespace Playback

/-- How an utterance that was received has ended. -/
inductive Ending where
  | completed
  | interrupted
  | skipped
deriving DecidableEq

/-- What has become of the utterances that were received. -/
structure Account where
  /-- Those that have ended, in the order in which they were received. -/
  ended : List (Item × Ending)
  /-- The one that is spoken now. -/
  current : Option Item
deriving DecidableEq

/-- The utterance that is taken out of the channel. -/
def Event.received? : Event → Option Item
  | .started item | .skipped item => some item
  | _ => none

/-- The utterances that are taken out of the channel, in turn. -/
def received (events : List Event) : List Item := events.filterMap Event.received?

namespace Account

/-- The account of nothing. -/
def empty : Account := ⟨[], none⟩

/-- The utterances that were received, in order. -/
def items (a : Account) : List Item := a.ended.map (·.1) ++ a.current.toList

/-- How many utterances were spoken to their end. -/
def completions (a : Account) : Nat := a.ended.countP (·.2 = .completed)

/-- The utterance being spoken ends. -/
def finish (item : Item) (ending : Ending) (a : Account) : Option Account :=
  if a.current = some item then some ⟨a.ended ++ [(item, ending)], none⟩ else none

/-- Enters what happens. An utterance can be received only while none is spoken. -/
def enter (a : Account) : Event → Option Account
  | .opened | .closed => some a
  | .started item => if a.current = none then some { a with current := some item } else none
  | .skipped item =>
    if a.current = none then some { a with ended := a.ended ++ [(item, .skipped)] } else none
  | .completed item => a.finish item .completed
  | .interrupted item => a.finish item .interrupted

/-- The account of all that happened. -/
def ofEvents (events : List Event) : Option Account := events.foldlM enter empty

theorem ofEvents_append (events : List Event) (event : Event) :
    ofEvents (events ++ [event]) = (ofEvents events).bind (enter · event) := by
  simp [ofEvents, List.foldlM_append]

variable {a b : Account} {item : Item} {event : Event} {events : List Event}

/-- The account goes on with what happens next. -/
theorem ofEvents_snoc (known : ofEvents events = some a) (entered : a.enter event = some b) :
    ofEvents (events ++ [event]) = some b := by
  rw [ofEvents_append, known]
  exact entered

theorem items_of_finish {ending : Ending} (finished : a.finish item ending = some b) :
    b.items = a.items := by
  unfold finish at finished
  split at finished
  · next spoken =>
    obtain rfl := Option.some.inj finished
    simp [items, spoken]
  · cases finished

/-- An entry adds the utterance that is received, if there is one. -/
theorem items_of_enter (entered : a.enter event = some b) :
    b.items = a.items ++ event.received?.toList := by
  cases event with
  | opened | closed =>
    obtain rfl := Option.some.inj entered
    simp [Event.received?]
  | completed | interrupted => simpa [Event.received?] using items_of_finish entered
  | started item | skipped item =>
    simp only [enter] at entered
    split at entered
    · next silent =>
      obtain rfl := Option.some.inj entered
      simp [items, silent, Event.received?]
    · cases entered

private theorem items_of_foldlM (folded : events.foldlM enter a = some b) :
    b.items = a.items ++ received events := by
  induction events generalizing a with
  | nil =>
    obtain rfl := Option.some.inj folded
    simp [received]
  | cons event events ih =>
    obtain ⟨next, entered, folded⟩ := Option.bind_eq_some_iff.mp folded
    rw [ih folded, items_of_enter entered, List.append_assoc]
    cases found : event.received? <;> simp [received, found]

/-- An account has exactly the utterances that were received. -/
theorem items_ofEvents (known : ofEvents events = some a) : a.items = received events := by
  simpa [empty, items] using items_of_foldlM known

end Account

end Playback

open Playback

namespace Player

/-- The utterance being spoken. -/
def spoken? (p : Player) : Option Item := p.speaking.map (·.1)

/-- The utterances that a player still has before it, the one being spoken first. -/
def held (p : Player) : List Item := p.spoken?.toList ++ p.waiting

/-- A player is where its account says, of the utterances that were put into its channel. -/
structure Accounted (a : Account) (inserted : List Item) (p : Player) : Prop where
  current : a.current = p.spoken?
  inserted : inserted = a.items ++ p.waiting

variable {wordsPerMinute generation now : Nat} {attached : Bool} {p q : Player} {event : Event}
  {a : Account} {inserted : List Item}

/-- The end of the utterance being spoken, one way or another, can be entered. -/
theorem Accounted.finish {item : Item} {ends : Nat} (accounted : p.Accounted a inserted)
    (speaking : p.speaking = some (item, ends)) (ending : Ending) (seen : Nat) :
    ∃ b, a.finish item ending = some b ∧
      Player.Accounted b inserted { p with speaking := none, seen := seen } ∧
      b.completions = a.completions + if ending = .completed then 1 else 0 := by
  have spoken : a.current = some item := by simp [accounted.current, spoken?, speaking]
  refine ⟨⟨a.ended ++ [(item, ending)], none⟩, by simp [Account.finish, spoken], ⟨rfl, ?_⟩, ?_⟩
  · simpa [Account.items, spoken] using accounted.inserted
  · simp [Account.completions, List.countP_append, List.countP_singleton]

/-- What is taken out of the channel can be entered: it is passed over, or it is spoken next. -/
theorem Accounted.receive {item : Item} {rest : List Item} (accounted : p.Accounted a inserted)
    (silent : p.speaking = none) (channel : p.waiting = item :: rest) :
    ∃ b, a.enter (p.receive wordsPerMinute generation now item rest).2 = some b ∧
      Player.Accounted b inserted (p.receive wordsPerMinute generation now item rest).1 ∧
      b.completions = a.completions := by
  have free : a.current = none := by simp [accounted.current, spoken?, silent]
  have inserted := accounted.inserted
  rcases Nat.lt_or_ge item.generation generation with stale | current
  · rw [receive_stale rest p stale]
    refine ⟨⟨a.ended ++ [(item, .skipped)], none⟩, by simp [Account.enter, free], ⟨?_, ?_⟩, ?_⟩
    · simp [spoken?, silent]
    · simpa [Account.items, free, channel] using inserted
    · simp [Account.completions]
  · rw [receive_current rest p current]
    refine ⟨⟨a.ended, some item⟩, by simp [Account.enter, free], ⟨rfl, ?_⟩, rfl⟩
    simpa [Account.items, free, channel] using inserted

/-- Every step of a player can be entered in its account. -/
theorem Step.enter (step : Step wordsPerMinute generation now attached p event q)
    (accounted : p.Accounted a inserted) :
    ∃ b, a.enter event = some b ∧ q.Accounted b inserted ∧
      b.completions = a.completions + if event.isCompletion then 1 else 0 := by
  cases step with
  | wake | retire => exact ⟨a, rfl, ⟨accounted.current, accounted.inserted⟩, rfl⟩
  | complete speaking => exact accounted.finish speaking .completed p.seen
  | interrupt speaking => exact accounted.finish speaking .interrupted generation
  | @receive item rest woken silent channel =>
    obtain ⟨b, entered, still, same⟩ := accounted.receive silent channel
    refine ⟨b, entered, still, ?_⟩
    rcases Nat.lt_or_ge item.generation generation with stale | current
    · rw [receive_stale rest p stale]
      exact same
    · rw [receive_current rest p current]
      exact same

end Player

end SpeechQueue
