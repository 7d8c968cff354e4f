import SpeechQueue.Proofs.Generations

/-! # What becomes of accepted utterances

An engine that is started once has one player, and every utterance that it accepts is at each time
either still in the channel or in the account of what was received. `Run.conserves` says this of
every run, however the calls and the steps of the player interleave, together with what the tags
imply: what was accepted before a call that cancels is never started after it, and nothing else is
cut off. -/

namespace SpeechQueue

open Playback

namespace Player

variable {wordsPerMinute generation now : Nat} {attached : Bool} {p q : Player} {event : Event}

/-- A player that has stopped has nothing left. -/
def StoppedIdle (p : Player) : Prop := p.stage = .stopped → p.held = []

theorem Step.stoppedIdle (step : Step wordsPerMinute generation now attached p event q)
    (idle : p.StoppedIdle) : q.StoppedIdle := by
  intro stopped
  cases step with
  | wake => cases stopped
  | complete speaking | interrupt speaking => simpa [held, spoken?, speaking] using idle stopped
  | retire _ _ empty silent => simp [held, spoken?, empty, silent]
  | receive _ _ channel =>
    rw [receive_stage] at stopped
    simpa [held, channel] using idle stopped

/-- A player goes on as long as utterances can be put into its channel. -/
theorem Step.going (step : Step wordsPerMinute generation now true p event q)
    (going : p.stage ≠ .stopped) : q.stage ≠ .stopped := by
  cases step with
  | wake => simp
  | complete | interrupt => exact going
  | retire detached => cases detached
  | receive => rw [receive_stage]; exact going

theorem Step.length_waiting (step : Step wordsPerMinute generation now attached p event q) :
    q.waiting.length ≤ p.waiting.length := by
  cases step with
  | wake | complete | interrupt | retire => exact Nat.le_refl _
  | receive _ _ channel => rw [receive_waiting, channel]; exact Nat.le_succ _

/-- What a player has before it was put into its channel. -/
theorem Accounted.mem_of_held {a : Account} {inserted : List Item} {item : Item}
    (accounted : p.Accounted a inserted) (held : item ∈ p.held) : item ∈ inserted := by
  rw [accounted.inserted, Account.items, accounted.current]
  simp only [Player.held, List.mem_append] at held ⊢
  exact held.imp_left .inr

end Player

namespace Console

variable {start c d : Console} {notes more : List Note} {item : Item}

/-- The utterances in the channels, the next one first. -/
def channel (c : Console) : List Item := c.players.flatMap (·.waiting)

/-- The utterances being spoken. -/
def spoken (c : Console) : List Item := c.players.flatMap (·.spoken?.toList)

/-- The utterance that is accepted. -/
def Note.accepted? : Note → Option Item
  | .accepted item => some item
  | _ => none

/-- What happens in playback. -/
def Note.event? : Note → Option Event
  | .happened event => some event
  | _ => none

/-- The accepted utterances, in the order of acceptance. -/
def acceptedIn (notes : List Note) : List Item := notes.filterMap Note.accepted?

/-- What happened in playback, in turn. -/
def eventsIn (notes : List Note) : List Event := notes.filterMap Note.event?

@[simp] theorem acceptedIn_append (first second : List Note) :
    acceptedIn (first ++ second) = acceptedIn first ++ acceptedIn second :=
  List.filterMap_append

@[simp] theorem eventsIn_append (first second : List Note) :
    eventsIn (first ++ second) = eventsIn first ++ eventsIn second :=
  List.filterMap_append

theorem mem_acceptedIn : item ∈ acceptedIn notes ↔ .accepted item ∈ notes := by
  simp only [acceptedIn, List.mem_filterMap]
  constructor
  · rintro ⟨note, noted, same⟩
    cases note with
    | accepted other =>
      obtain rfl := Option.some.inj same
      exact noted
    | installed | renewed | happened => cases same
  · exact fun noted => ⟨_, noted, rfl⟩

/-- What happens in playback accepts nothing. -/
theorem acceptedIn_happened (event : Event) : acceptedIn [.happened event] = [] := rfl

/-- A call that cancels all that was accepted before it: a flush, however it is answered, or a
shutdown. -/
inductive Cancel (c : Console) : Console → Prop
  | flush (text : String) (attributes : Option Attributes) :
      Cancel c (c.speak ⟨text, .flush, attributes⟩).2.1
  | shutDown : Cancel c c.shutDown.1

/-! ## One player -/

/-- There is a player only if the engine was started, no installed player stops, and one that has
stopped has nothing left. -/
structure Manned (c : Console) (starts : Nat) : Prop where
  players : c.players.length ≤ starts
  going : ∀ p, c.installed = some p → p.stage ≠ .stopped
  idle : ∀ p ∈ c.players, p.StoppedIdle

/-- A call of speaking puts an utterance at the end of the channel, or leaves the players as they
are. -/
theorem speak_cases (speech : Speech) (c : Console) :
    (acceptedIn (c.notesOfSpeak speech) = [] ∧
      ∃ generation, (c.speak speech).2.1 = { c with generation := generation }) ∨
    ∃ p item generation, c.installed = some p ∧ acceptedIn (c.notesOfSpeak speech) = [item] ∧
      (c.speak speech).2.1 = { c with
        generation := generation
        installed := some { p with waiting := p.waiting ++ [item] } } := by
  have renewed : ∃ generation, c.renewedFor speech.mode = { c with generation := generation } := by
    cases speech.mode with
    | flush => exact ⟨c.generation + 1, rfl⟩
    | add => exact ⟨c.generation, rfl⟩
  cases running : c.installed with
  | none =>
    left
    rw [notesOfSpeak_stopped speech running, speak_unavailable speech running]
    exact ⟨rfl, c.generation, by rw [← running]⟩
  | some p =>
    rcases Nat.lt_or_ge p.waiting.length c.capacity with room | full
    · right
      obtain ⟨generation, raised⟩ := renewed
      refine ⟨p, (c.renewedFor speech.mode).item speech, generation, rfl, ?_, ?_⟩
      · rw [notesOfSpeak_room speech running room]
        cases speech.mode <;> rfl
      · rw [speak_accepted speech running room, raised]
    · left
      rw [notesOfSpeak_full speech running full, speak_full speech running full, ← running]
      exact ⟨by cases speech.mode <;> rfl, renewed⟩

theorem mem_notesOfSpeak {note : Note} {speech : Speech} (noted : note ∈ c.notesOfSpeak speech) :
    note = .renewed ∨ ∃ item, note = .accepted item := by
  unfold notesOfSpeak at noted
  split at noted
  · cases noted
  · rcases List.mem_append.mp noted with raised | accepted
    · cases mode : speech.mode <;> simp [mode] at raised
      exact .inl raised
    · split at accepted
      · exact .inr ⟨_, List.mem_singleton.mp accepted⟩
      · cases accepted

theorem eventsIn_notesOfSpeak (speech : Speech) (c : Console) :
    eventsIn (c.notesOfSpeak speech) = [] := by
  refine List.filterMap_eq_nil_iff.mpr fun note noted => ?_
  rcases mem_notesOfSpeak noted with rfl | ⟨item, rfl⟩ <;> rfl

theorem count_installed_notesOfSpeak (speech : Speech) (c : Console) :
    (c.notesOfSpeak speech).count .installed = 0 := by
  refine List.count_eq_zero.mpr fun noted => ?_
  rcases mem_notesOfSpeak noted with same | ⟨item, same⟩ <;> cases same

theorem Manned.speak {starts : Nat} (manned : c.Manned starts) (speech : Speech) :
    (c.speak speech).2.1.Manned starts := by
  rcases speak_cases speech c with ⟨-, _, same⟩ | ⟨p, item, _, running, -, same⟩
  · rw [same]
    exact ⟨manned.players, manned.going, manned.idle⟩
  · have going := manned.going p running
    rw [same]
    refine ⟨?_, ?_, ?_⟩
    · simpa [Console.players, running] using manned.players
    · intro q installed
      obtain rfl := Option.some.inj installed
      exact going
    · intro q member
      rcases List.mem_append.mp member with earlier | last
      · exact manned.idle q (List.mem_append_left _ earlier)
      · obtain rfl := List.mem_singleton.mp last
        exact fun stopped => absurd stopped going

theorem Step.manned {starts : Nat} (step : Step c more d) (manned : c.Manned starts) :
    d.Manned (starts + more.count .installed) := by
  cases step with
  | finishStart done =>
    rw [finishStart_installed done]
    refine ⟨?_, ?_, ?_⟩
    · have players := manned.players
      simp only [Console.players, Option.toList_some, List.length_append, List.length_singleton,
        List.count_singleton_self] at players ⊢
      exact Nat.succ_le_succ players
    · intro p installed stopped
      obtain rfl := Option.some.inj installed
      cases stopped
    · intro p member
      rcases List.mem_append.mp member with earlier | last
      · exact manned.idle p earlier
      · obtain rfl : p = .new c.generation := by simpa using last
        intro stopped
        cases stopped
  | setRate | setPitch => exact ⟨manned.players, manned.going, manned.idle⟩
  | speak speech => rw [count_installed_notesOfSpeak]; exact manned.speak speech
  | shutDown =>
    have same := shutDown_players c
    refine ⟨?_, ?_, ?_⟩
    · rw [same]
      exact manned.players
    · intro p installed
      simp [Console.shutDown] at installed
    · rw [same]
      exact manned.idle
  | @installed p q event now place step =>
    refine ⟨?_, ?_, ?_⟩
    · simpa [counting, Console.players, place] using manned.players
    · intro r installed
      obtain rfl := Option.some.inj installed
      exact step.going (manned.going p place)
    · intro r member
      rcases List.mem_append.mp member with earlier | last
      · exact manned.idle r (List.mem_append_left _ earlier)
      · obtain rfl : r = q := by simpa [counting] using last
        exact step.stoppedIdle (manned.idle p (by simp [Console.players, place]))
  | @detached front back p q event now place step =>
    refine ⟨?_, manned.going, ?_⟩
    · simpa [counting, Console.players, place] using manned.players
    · intro r member
      rcases eq_or_mem_players place member with rfl | earlier
      · exact step.stoppedIdle (manned.idle p (mem_players_of_detached place))
      · exact manned.idle r earlier
  | sweep =>
    refine ⟨?_, manned.going, ?_⟩
    · have fewer := List.length_filter_le (·.stage ≠ .stopped) c.detached
      have players := manned.players
      simp only [Console.players, List.length_append] at players ⊢
      exact Nat.le_trans (Nat.add_le_add_right fewer _) players
    · intro r member
      simp only [Console.players, List.mem_append, List.mem_filter] at member
      exact manned.idle r (List.mem_append.mpr (member.imp And.left id))

theorem Run.manned {setup : Setup} (run : Run (.new setup) c notes) :
    c.Manned (notes.count .installed) := by
  induction run with
  | nil =>
    refine ⟨?_, ?_, ?_⟩
    · simp [new, players]
    · simp [new]
    · simp [new, players]
  | snoc run step ih => rw [List.count_append]; exact step.manned ih

/-! ## The account -/

/-- The engine is where the account says, of the utterances it accepted. -/
structure Accounted (a : Account) (accepted : List Item) (c : Console) : Prop where
  current : a.current.toList = c.spoken
  accepted : accepted = a.items ++ c.channel
  played : c.played = a.completions

theorem Manned.alone {p : Player} (manned : c.Manned 1) (member : p ∈ c.players) :
    c.players = [p] := by
  have few := manned.players
  match players : c.players with
  | [] => simp [players] at member
  | [q] =>
    rw [players] at member
    rw [List.mem_singleton.mp member]
  | q :: r :: rest => simp [players] at few

variable {a : Account} {accepted : List Item} {p q : Player} {event : Event}

theorem accounted_alone (alone : c.players = [p]) :
    c.Accounted a accepted ↔ p.Accounted a accepted ∧ c.played = a.completions := by
  constructor
  · rintro ⟨current, inserted, played⟩
    refine ⟨⟨?_, ?_⟩, played⟩
    · have first := congrArg List.head? current
      simpa [spoken, alone] using first
    · simpa [channel, alone] using inserted
  · rintro ⟨⟨current, inserted⟩, played⟩
    refine ⟨?_, ?_, played⟩
    · simp [spoken, alone, current]
    · simpa [channel, alone] using inserted

/-- A step of the one player can be entered. -/
theorem Accounted.stepped {wordsPerMinute generation now : Nat} {attached : Bool}
    {events : List Event} (accounted : c.Accounted a accepted)
    (known : Account.ofEvents events = some a) (before : c.players = [p]) (after : d.players = [q])
    (played : d.played = c.played + if event.isCompletion then 1 else 0)
    (step : Player.Step wordsPerMinute generation now attached p event q) :
    ∃ b, Account.ofEvents (events ++ eventsIn [.happened event]) = some b ∧
      d.Accounted b (accepted ++ acceptedIn [.happened event]) := by
  obtain ⟨player, counted⟩ := (accounted_alone before).mp accounted
  obtain ⟨b, entered, still, completions⟩ := step.enter player
  refine ⟨b, Account.ofEvents_snoc known entered, ?_⟩
  rw [acceptedIn_happened, List.append_nil]
  refine (accounted_alone after).mpr ⟨still, ?_⟩
  rw [played, counted, completions]

theorem Accounted.speak (accounted : c.Accounted a accepted) (speech : Speech) :
    (c.speak speech).2.1.Accounted a (accepted ++ acceptedIn (c.notesOfSpeak speech)) := by
  rcases speak_cases speech c with ⟨nothing, _, same⟩ | ⟨p, item, _, running, noted, same⟩
  · rw [nothing, same, List.append_nil]
    exact ⟨accounted.current, accounted.accepted, accounted.played⟩
  · rw [noted, same]
    refine ⟨?_, ?_, accounted.played⟩
    · simpa [spoken, players, running, Player.spoken?] using accounted.current
    · simp [accounted.accepted, channel, players, running]

/-- Elements that give nothing can be left out. -/
theorem flatMap_filter_of_nil {α β : Type} {f : α → List β} {keep : α → Bool} {l : List α}
    (nothing : ∀ x ∈ l, keep x = false → f x = []) : (l.filter keep).flatMap f = l.flatMap f := by
  induction l with
  | nil => rfl
  | cons x l ih =>
    have rest := ih fun y member => nothing y (List.mem_cons_of_mem _ member)
    cases kept : keep x with
    | true => simp [kept, rest]
    | false => simp [kept, rest, nothing x List.mem_cons_self kept]

theorem sweep_spoken (idle : ∀ p ∈ c.players, p.StoppedIdle) :
    spoken { c with detached := c.detached.filter (·.stage ≠ .stopped) } = c.spoken := by
  simp only [spoken, players, List.flatMap_append]
  refine congrArg (· ++ _) (flatMap_filter_of_nil fun p member stopped => ?_)
  have held := idle p (List.mem_append_left _ member) (by simpa using stopped)
  exact (List.append_eq_nil_iff.mp held).1

theorem sweep_channel (idle : ∀ p ∈ c.players, p.StoppedIdle) :
    channel { c with detached := c.detached.filter (·.stage ≠ .stopped) } = c.channel := by
  simp only [channel, players, List.flatMap_append]
  refine congrArg (· ++ _) (flatMap_filter_of_nil fun p member stopped => ?_)
  have held := idle p (List.mem_append_left _ member) (by simpa using stopped)
  exact (List.append_eq_nil_iff.mp held).2

/-- A step in which nothing is accepted and nothing happens leaves the account as it is. -/
theorem Accounted.quiet {events : List Event} (accounted : c.Accounted a accepted)
    (known : Account.ofEvents events = some a) (events_nil : eventsIn more = [])
    (accepted_nil : acceptedIn more = []) (same_spoken : d.spoken = c.spoken)
    (same_channel : d.channel = c.channel) (same_played : d.played = c.played) :
    ∃ b, Account.ofEvents (events ++ eventsIn more) = some b ∧
      d.Accounted b (accepted ++ acceptedIn more) := by
  rw [events_nil, accepted_nil, List.append_nil, List.append_nil]
  refine ⟨a, known, ?_, ?_, ?_⟩
  · rw [same_spoken]
    exact accounted.current
  · rw [same_channel]
    exact accounted.accepted
  · rw [same_played]
    exact accounted.played

/-- What is accepted in a step in which nothing happens can be added to the account. -/
theorem Step.account_unplayed {events : List Event} (step : Step c more d)
    (idle : ∀ p ∈ c.players, p.StoppedIdle) (unplayed : eventsIn more = [])
    (known : Account.ofEvents events = some a) (accounted : c.Accounted a accepted) :
    ∃ b, Account.ofEvents (events ++ eventsIn more) = some b ∧
      d.Accounted b (accepted ++ acceptedIn more) := by
  cases step with
  | finishStart done =>
    rw [finishStart_installed done]
    refine accounted.quiet known rfl rfl ?_ ?_ rfl
    · simp [spoken, Console.players, Player.new, Player.spoken?]
    · simp [channel, Console.players, Player.new]
  | setRate | setPitch => exact accounted.quiet known rfl rfl rfl rfl rfl
  | speak speech =>
    rw [unplayed, List.append_nil]
    exact ⟨a, known, accounted.speak speech⟩
  | shutDown =>
    refine accounted.quiet known rfl rfl ?_ ?_ rfl
    · rw [spoken, shutDown_players]
      rfl
    · rw [channel, shutDown_players]
      rfl
  | installed | detached => cases unplayed
  | sweep => exact accounted.quiet known rfl rfl (sweep_spoken idle) (sweep_channel idle) rfl

/-- What is accepted in a step and what happens in it can be added to the account. -/
theorem Step.account {events : List Event} (step : Step c more d) (manned : c.Manned 1)
    (known : Account.ofEvents events = some a) (accounted : c.Accounted a accepted) :
    ∃ b, Account.ofEvents (events ++ eventsIn more) = some b ∧
      d.Accounted b (accepted ++ acceptedIn more) := by
  by_cases unplayed : eventsIn more = []
  · exact step.account_unplayed manned.idle unplayed known accounted
  · cases step with
    | finishStart | setRate | setPitch | shutDown | sweep => exact absurd rfl unplayed
    | speak speech => exact absurd (eventsIn_notesOfSpeak speech c) unplayed
    | @installed p q event now place step =>
      have before : c.players = [p] := manned.alone (by simp [Console.players, place])
      have others : c.detached = [] := by simpa [Console.players, place] using before
      refine accounted.stepped known before ?_ rfl step
      simp [counting, Console.players, others]
    | @detached front back p q event now place step =>
      have before : c.players = [p] := manned.alone (mem_players_of_detached place)
      obtain ⟨rfl, rfl, stopped⟩ : front = [] ∧ back = [] ∧ c.installed = none := by
        simpa [Console.players, place, List.append_eq_singleton_iff] using before
      refine accounted.stepped known before ?_ rfl step
      simp [counting, Console.players, stopped]

theorem Manned.mono {few many : Nat} (manned : c.Manned few) (le : few ≤ many) : c.Manned many :=
  ⟨Nat.le_trans manned.players le, manned.going, manned.idle⟩

/-- Every run of an engine that is started at most once has its account. -/
theorem Run.account {setup : Setup} (run : Run (.new setup) c notes)
    (once : notes.count .installed ≤ 1) :
    ∃ a, Account.ofEvents (eventsIn notes) = some a ∧ c.Accounted a (acceptedIn notes) := by
  induction run with
  | nil => exact ⟨.empty, rfl, ⟨rfl, rfl, rfl⟩⟩
  | @snoc before after notes more run step ih =>
    have earlier : notes.count .installed ≤ 1 := by
      rw [List.count_append] at once
      omega
    obtain ⟨a, known, accounted⟩ := ih earlier
    rw [eventsIn_append, acceptedIn_append]
    exact step.account (run.manned.mono earlier) known accounted

/-! ## What is kept -/

theorem Manned.channel_cases (manned : c.Manned 1) :
    c.channel = [] ∨ ∃ p ∈ c.players, c.channel = p.waiting := by
  match players : c.players with
  | [] => exact .inl (by simp [channel, players])
  | p :: rest =>
    have alone := manned.alone (p := p) (by simp [players])
    exact .inr ⟨p, by simp, by simp [channel, alone]⟩

theorem Run.length_waiting {setup : Setup} (run : Run (.new setup) c notes) :
    ∀ p ∈ c.players, p.waiting.length ≤ max 1 setup.queueCapacity := by
  induction run with
  | nil => simp [new, players]
  | @snoc before after notes more run step ih =>
    have capacity : before.capacity = max 1 setup.queueCapacity := by
      rw [Console.capacity, run.setup_eq]
      rfl
    refine @Step.players before after more (fun _ p => p.waiting.length ≤ max 1 setup.queueCapacity)
      step ih (Nat.zero_le _) (fun _ few => few) (fun _ p item _ room _ => ?_)
      fun _ _ _ _ _ step few => Nat.le_trans step.length_waiting few
    rw [List.length_append, List.length_singleton, ← capacity]
    exact room

/-- After a call that cancels, all that was accepted is of an earlier generation. -/
theorem Run.cancelled {setup : Setup} (run : Run (.new setup) c notes) (cancel : Cancel c d)
    (accepted : .accepted item ∈ notes) : item.generation < d.generation := by
  have dated := run.accepted_le accepted
  cases cancel with
  | shutDown => exact Nat.lt_succ_of_le dated
  | flush text attributes =>
    cases running : c.installed with
    | none =>
      rw [speak_unavailable _ running]
      exact run.accepted_lt running accepted
    | some p =>
      have raised : (c.notesOfSpeak ⟨text, .flush, attributes⟩).count .renewed = 1 := by
        rcases Nat.lt_or_ge p.waiting.length c.capacity with room | full
        · simp [notesOfSpeak_room _ running room]
        · simp [notesOfSpeak_full _ running full]
      rw [speak_generation, raised]
      exact Nat.lt_succ_of_le dated

/-- What is cut off was accepted before, and since then a call has cancelled it. -/
theorem Run.cutOff {setup : Setup} {before after : List Note} (run : Run (.new setup) c notes)
    (once : notes.count .installed ≤ 1) (split : notes = before ++ .happened event :: after)
    (cutsOff : event.CutsOff item) :
    .accepted item ∈ before ∧
      ∀ early mid, before = early ++ .accepted item :: mid → .renewed ∈ mid := by
  obtain ⟨b, earlier, -, p, member, held⟩ := run.cutOff_at split cutsOff
  have once : before.count .installed ≤ 1 := by
    rw [split, List.count_append] at once
    omega
  refine ⟨?_, fun early mid accepted => run.renewed_between split cutsOff accepted⟩
  obtain ⟨a, -, accounted⟩ := earlier.account once
  have alone := (earlier.manned.mono once).alone member
  exact mem_acceptedIn.mp (((accounted_alone alone).mp accounted).1.mem_of_held held)

/-- What an engine and its player keep of the utterances that were accepted. -/
structure Conserves (setup : Setup) (c : Console) (notes : List Note) : Prop where
  /-- The accepted utterances are those that were received and then those in the channel. -/
  accepted : acceptedIn notes = received (eventsIn notes) ++ c.channel
  /-- Each that was received has ended in one way, or is the one spoken now. -/
  account : ∃ a, Account.ofEvents (eventsIn notes) = some a ∧ a.items = received (eventsIn notes) ∧
    a.current.toList = c.spoken ∧ c.played = a.completions
  ordered : c.channel.Pairwise (·.generation ≤ ·.generation)
  dated : ∀ item ∈ c.channel, item.generation ≤ c.generation
  /-- Whatever comes after a call that cancels, nothing accepted before is started. -/
  cancelled : ∀ d, Cancel c d → ∀ e later, Run d e later →
    ∀ item, .accepted item ∈ notes → .happened (.started item) ∉ later
  /-- What was passed over or interrupted had been accepted, and cancelled since. -/
  cutOff : ∀ before event after item, notes = before ++ .happened event :: after →
    event.CutsOff item → .accepted item ∈ before ∧
      ∀ early mid, before = early ++ .accepted item :: mid → .renewed ∈ mid
  room : c.channel.length ≤ max 1 setup.queueCapacity

/-- Every run of an engine that is started at most once keeps this. -/
theorem Run.conserves {setup : Setup} (run : Run (.new setup) c notes)
    (once : notes.count .installed ≤ 1) : Conserves setup c notes := by
  obtain ⟨a, known, accounted⟩ := run.account once
  have items := Account.items_ofEvents known
  have channel := (run.manned.mono once).channel_cases
  refine ⟨?_, ⟨a, known, items, accounted.current, accounted.played⟩, ?_, ?_, ?_, ?_, ?_⟩
  · rw [← items]
    exact accounted.accepted
  · rcases channel with empty | ⟨p, member, same⟩
    · rw [empty]
      exact .nil
    · rw [same]
      exact (run.tagged p member).ordered
  · rcases channel with empty | ⟨p, member, same⟩
    · simp [empty]
    · rw [same]
      exact (run.tagged p member).waiting
  · intro d cancel e later continued item accepted started
    have after := continued.generation_of_started started
    have before := run.cancelled cancel accepted
    omega
  · intro before event after item split cutsOff
    exact run.cutOff once split cutsOff
  · rcases channel with empty | ⟨p, member, same⟩
    · simp [empty]
    · rw [same]
      exact run.length_waiting p member

/-- An utterance that a flush cancels before the player has run is received and passed over. -/
theorem conserves_after_flush :
    ∃ (c : Console) (notes : List Note), Run (.new ⟨180, ["en-US"], .zero, 2⟩) c notes ∧
      notes.count .installed ≤ 1 ∧
      (eventsIn notes).map (fun event => event.received?.map (·.text)) =
        [none, some "one", some "two"] ∧
      Conserves ⟨180, ["en-US"], .zero, 2⟩ c notes := by
  have started : Run (.new ⟨180, ["en-US"], .zero, 2⟩) _ _ := Run.nil.snoc (.finishStart rfl)
  have asked := started.snoc (.speak _ ⟨"one", .add, none⟩)
  have run := (asked.snoc (.speak _ ⟨"two", .flush, none⟩)).play 0
  exact ⟨_, _, run, by decide +kernel, by decide +kernel, run.conserves (by decide +kernel)⟩

end Console

end SpeechQueue
