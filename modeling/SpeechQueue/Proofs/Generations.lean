import SpeechQueue.Proofs.ConsoleRuns
import SpeechQueue.Proofs.PlaybackAccount

/-! # Generations along a run

The generation of the engine counts the calls so far that cancel, and an utterance has the generation
of its acceptance. So the tags tell which utterances have been cancelled: those of an earlier
generation than the current one. -/

namespace SpeechQueue

open Playback

/-- An utterance is passed over or interrupted. -/
def Playback.Event.CutsOff (item : Item) (event : Event) : Prop :=
  event = .skipped item ∨ event = .interrupted item

namespace Player

/-- The tags in a channel go up, and what is spoken is of the generation the player last saw. -/
structure Tagged (generation : Nat) (p : Player) : Prop extends p.Dated generation where
  ordered : p.waiting.Pairwise (·.generation ≤ ·.generation)
  spoken : ∀ item ends, p.speaking = some (item, ends) → item.generation = p.seen

variable {wordsPerMinute generation now : Nat} {attached : Bool} {p q : Player} {event : Event}
  {item : Item}

theorem Tagged.new (generation : Nat) : (new generation).Tagged generation where
  waiting := by simp [Player.new]
  seen := Nat.le_refl _
  ordered := .nil
  spoken _ _ speaking := nomatch speaking

theorem Tagged.renewed (tagged : p.Tagged generation) : p.Tagged (generation + 1) where
  waiting item waits := Nat.le_succ_of_le (tagged.waiting item waits)
  seen := Nat.le_succ_of_le tagged.seen
  ordered := tagged.ordered
  spoken := tagged.spoken

theorem Tagged.accepted (tagged : p.Tagged generation) (tag : item.generation = generation) :
    Player.Tagged generation { p with waiting := p.waiting ++ [item] } := by
  refine ⟨⟨fun other waits => ?_, tagged.seen⟩, ?_, tagged.spoken⟩
  · rcases List.mem_append.mp waits with earlier | last
    · exact tagged.waiting other earlier
    · exact Nat.le_of_eq (List.mem_singleton.mp last ▸ tag)
  · refine List.pairwise_append.mpr ⟨tagged.ordered, List.pairwise_singleton _ _, ?_⟩
    intro other earlier last same
    rw [List.mem_singleton.mp same, tag]
    exact tagged.waiting other earlier

theorem Step.tagged (step : Step wordsPerMinute generation now attached p event q)
    (tagged : p.Tagged generation) : q.Tagged generation := by
  have dated := step.dated tagged.toDated
  cases step with
  | wake | retire => exact ⟨dated, tagged.ordered, tagged.spoken⟩
  | complete | interrupt => exact ⟨dated, tagged.ordered, fun _ _ speaking => nomatch speaking⟩
  | @receive item rest woken silent channel =>
    have ordered := tagged.ordered
    have tag := tagged.waiting item (by simp [channel])
    rw [channel] at ordered
    refine ⟨dated, by rw [receive_waiting]; exact (List.pairwise_cons.mp ordered).2, ?_⟩
    intro other ends speaking
    rw [receive_seen]
    rcases Nat.lt_or_ge item.generation generation with stale | current
    · simp [receive_stale rest p stale, silent] at speaking
    · rw [receive_current rest p current] at speaking
      obtain ⟨rfl, -⟩ := Prod.mk.inj (Option.some.inj speaking)
      exact Nat.le_antisymm tag current

/-- No player starts an utterance of an earlier generation. -/
theorem Step.generation_of_started
    (step : Step wordsPerMinute generation now attached p (.started item) q) :
    generation ≤ item.generation := by
  generalize happened : Event.started item = event at step
  cases step with
  | wake | complete | interrupt | retire => cases happened
  | @receive first rest woken silent channel =>
    rcases Nat.lt_or_ge first.generation generation with stale | current
    · simp [receive_stale rest p stale] at happened
    · obtain rfl : item = first := by simpa [receive_current rest p current] using happened
      exact current

/-- What a player passes over or interrupts it has before it, and it is of an earlier generation. -/
theorem Step.generation_of_cutsOff
    (step : Step wordsPerMinute generation now attached p event q) (cutsOff : event.CutsOff item)
    (tagged : p.Tagged generation) : item ∈ p.held ∧ item.generation < generation := by
  unfold Event.CutsOff at cutsOff
  cases step with
  | wake | complete | retire => simp at cutsOff
  | @interrupt spoken ends speaking changed =>
    obtain rfl : spoken = item := by simpa using cutsOff
    refine ⟨by simp [held, spoken?, speaking], ?_⟩
    rw [tagged.spoken spoken ends speaking]
    exact Nat.lt_of_le_of_ne tagged.seen changed
  | @receive first rest woken silent channel =>
    rcases Nat.lt_or_ge first.generation generation with stale | current
    · obtain rfl : first = item := by simpa [receive_stale rest p stale] using cutsOff
      exact ⟨by simp [held, channel], stale⟩
    · simp [receive_current rest p current] at cutsOff

end Player

namespace Console

variable {start c d : Console} {notes more : List Note} {item : Item}

theorem speak_setup (speech : Speech) (c : Console) : (c.speak speech).2.1.setup = c.setup := by
  unfold speak
  split
  · rfl
  · cases speech.mode <;> simp only <;> split <;> rfl

theorem Step.setup_eq (step : Step c more d) : d.setup = c.setup := by
  cases step with
  | finishStart done => rw [finishStart_installed done]
  | speak speech => exact speak_setup speech c
  | setRate | setPitch | shutDown | installed | detached | sweep => rfl

theorem Run.setup_eq (run : Run start c notes) : c.setup = start.setup :=
  run.preserves (·.setup = start.setup) rfl fun _ _ _ same step => step.setup_eq.trans same

/-! ## What a call leaves in the record -/

theorem notesOfSpeak_stopped (speech : Speech) (stopped : c.installed = none) :
    c.notesOfSpeak speech = [] := by
  simp [notesOfSpeak, stopped]

theorem notesOfSpeak_full {player : Player} (speech : Speech) (running : c.installed = some player)
    (full : c.capacity ≤ player.waiting.length) :
    c.notesOfSpeak speech = if speech.mode = .flush then [.renewed] else [] := by
  cases mode : speech.mode <;> simp [notesOfSpeak, running, mode, Nat.not_lt_of_le full]

theorem notesOfSpeak_room {player : Player} (speech : Speech) (running : c.installed = some player)
    (room : player.waiting.length < c.capacity) :
    c.notesOfSpeak speech = (if speech.mode = .flush then [.renewed] else []) ++
      [.accepted ((c.renewedFor speech.mode).item speech)] := by
  cases mode : speech.mode <;> simp [notesOfSpeak, running, mode, room]

theorem renewedFor_generation (c : Console) (mode : Mode) :
    (c.renewedFor mode).generation = c.generation + if mode = .flush then 1 else 0 := by
  cases mode <;> rfl

@[simp] theorem renewedFor_installed (c : Console) (mode : Mode) :
    (c.renewedFor mode).installed = c.installed := by
  cases mode <;> rfl

theorem speak_generation (speech : Speech) (c : Console) :
    (c.speak speech).2.1.generation =
      c.generation + (c.notesOfSpeak speech).count .renewed := by
  cases running : c.installed with
  | none => rw [speak_unavailable speech running, notesOfSpeak_stopped speech running]; rfl
  | some player =>
    rcases Nat.lt_or_ge player.waiting.length c.capacity with room | full
    · rw [speak_accepted speech running room, notesOfSpeak_room speech running room,
        renewedFor_generation]
      split <;> simp
    · rw [speak_full speech running full, notesOfSpeak_full speech running full,
        renewedFor_generation]
      split <;> simp

/-- The generation goes up by one with every call that cancels. -/
theorem Step.generation (step : Step c more d) :
    d.generation = c.generation + more.count .renewed := by
  cases step with
  | finishStart done => rw [finishStart_installed done]; rfl
  | speak speech => exact speak_generation speech c
  | setRate | setPitch | shutDown | installed | detached | sweep => rfl

theorem Run.generation (run : Run start c notes) :
    c.generation = start.generation + notes.count .renewed := by
  induction run with
  | nil => rfl
  | snoc run step ih => rw [step.generation, ih, List.count_append, Nat.add_assoc]

/-- An utterance that is accepted is noted last, and has the current generation. -/
theorem Step.accepted {early mid : List Note} (step : Step c more d)
    (split : more = early ++ .accepted item :: mid) : mid = [] ∧ item.generation = d.generation := by
  cases step with
  | finishStart | setRate | setPitch | shutDown | installed | detached | sweep =>
    simp [List.singleton_eq_append_iff] at split
  | speak speech =>
    cases running : c.installed with
    | none => simp [notesOfSpeak_stopped speech running] at split
    | some player =>
      rcases Nat.lt_or_ge player.waiting.length c.capacity with room | full
      · rw [notesOfSpeak_room speech running room] at split
        rw [speak_accepted speech running room]
        cases mode : speech.mode with
        | flush =>
          obtain ⟨-, -, -, rfl, rfl⟩ : ∃ rest, early = .renewed :: rest ∧ rest = [] ∧
              item = (c.renewedFor .flush).item speech ∧ mid = [] := by
            simpa [mode, List.cons_eq_append_iff] using split
          exact ⟨rfl, rfl⟩
        | add =>
          obtain ⟨-, rfl, rfl⟩ : early = [] ∧ item = (c.renewedFor .add).item speech ∧ mid = [] := by
            simpa [mode, List.cons_eq_append_iff] using split
          exact ⟨rfl, rfl⟩
      · rw [notesOfSpeak_full speech running full] at split
        cases mode : speech.mode <;> simp [mode, List.singleton_eq_append_iff] at split

/-- The calls that cancelled since an utterance was accepted are what its generation is behind. -/
theorem Run.generation_of_accepted {setup : Setup} (run : Run (.new setup) c notes)
    {early mid : List Note} (split : notes = early ++ .accepted item :: mid) :
    item.generation + mid.count .renewed = c.generation := by
  induction run generalizing mid with
  | nil => simp at split
  | @snoc before after noted more run step ih =>
    rcases List.append_eq_append_iff.mp split with ⟨rest, rfl, within⟩ | ⟨rest, known, rest_eq⟩
    · obtain ⟨rfl, tag⟩ := step.accepted within
      exact tag
    · rcases List.cons_eq_append_iff.mp rest_eq with ⟨rfl, within⟩ | ⟨rest, rfl, rfl⟩
      · have within : more = [] ++ .accepted item :: mid := within
        obtain ⟨rfl, tag⟩ := step.accepted within
        exact tag
      · rw [step.generation, ← ih known, List.count_append, Nat.add_assoc]

theorem Run.accepted_le {setup : Setup} (run : Run (.new setup) c notes)
    (accepted : .accepted item ∈ notes) : item.generation ≤ c.generation := by
  obtain ⟨early, mid, split⟩ := List.append_of_mem accepted
  exact run.generation_of_accepted split ▸ Nat.le_add_right _ _

/-- A step that leaves the engine without a player accepts nothing, and cancels all if there was a
player. -/
theorem Step.stopped (step : Step c more d) (stopped : d.installed = none) :
    (∀ item, .accepted item ∉ more) ∧ (c.installed = none ∨ c.generation < d.generation) := by
  cases step with
  | finishStart done => simp [finishStart_installed done] at stopped
  | setRate | setPitch | detached | sweep => exact ⟨by simp, .inl stopped⟩
  | shutDown => exact ⟨by simp, .inr (Nat.lt_succ_self _)⟩
  | installed place step => cases stopped
  | speak speech =>
    cases running : c.installed with
    | none => exact ⟨by simp [notesOfSpeak_stopped speech running], .inl rfl⟩
    | some player =>
      rcases Nat.lt_or_ge player.waiting.length c.capacity with room | full
      · simp [speak_accepted speech running room] at stopped
      · simp [speak_full speech running full, renewedFor_installed, running] at stopped

/-- When the engine does not run, all that was accepted is cancelled. -/
theorem Run.accepted_lt {setup : Setup} (run : Run (.new setup) c notes)
    (stopped : c.installed = none) (accepted : .accepted item ∈ notes) :
    item.generation < c.generation := by
  induction run with
  | nil => cases accepted
  | @snoc before after noted more run step ih =>
    obtain ⟨nothing, still⟩ := step.stopped stopped
    have earlier : .accepted item ∈ noted :=
      (List.mem_append.mp accepted).resolve_right (nothing item)
    rcases still with silent | raised
    · exact Nat.lt_of_lt_of_le (ih silent earlier) (step.generation ▸ Nat.le_add_right _ _)
    · exact Nat.lt_of_le_of_lt (run.accepted_le earlier) raised

/-! ## Playback in a run -/

/-- What happens in a step happens with one of the players. -/
theorem Step.of_happened {event : Event} (step : Step c more d) (happened : .happened event ∈ more) :
    more = [.happened event] ∧ ∃ p ∈ c.players, ∃ q now attached,
      Player.Step c.setup.wordsPerMinute c.generation now attached p event q := by
  cases step with
  | finishStart | setRate | setPitch | shutDown | sweep => simp at happened
  | speak speech =>
    unfold notesOfSpeak at happened
    split at happened
    · cases happened
    · split at happened <;> cases speech.mode <;> simp at happened
  | @installed p q event' now place step =>
    obtain rfl : event = event' := by simpa using happened
    exact ⟨rfl, p, by simp [Console.players, place], q, now, true, step⟩
  | @detached front back p q event' now place step =>
    obtain rfl : event = event' := by simpa using happened
    exact ⟨rfl, p, by simp [Console.players, place], q, now, false, step⟩

/-- The state in which something happens, and how the run comes to it and goes on. -/
theorem Run.at_happened {event : Event} {before after : List Note} (run : Run start c notes)
    (split : notes = before ++ .happened event :: after) :
    ∃ b, Run start b before ∧ ∃ p ∈ b.players, ∃ q now attached,
      Player.Step b.setup.wordsPerMinute b.generation now attached p event q := by
  induction run generalizing after with
  | nil => simp at split
  | @snoc b d noted more run step ih =>
    rcases List.append_eq_append_iff.mp split with ⟨rest, rfl, within⟩ | ⟨rest, known, rest_eq⟩
    · have happened : .happened event ∈ more := by simp [within]
      obtain ⟨single, player⟩ := step.of_happened happened
      obtain ⟨rfl, -⟩ : rest = [] ∧ after = [] := by
        simpa [single, List.singleton_eq_append_iff] using within
      exact ⟨b, (List.append_nil noted).symm ▸ run, player⟩
    · rcases List.cons_eq_append_iff.mp rest_eq with ⟨rfl, within⟩ | ⟨rest, rfl, -⟩
      · have happened : .happened event ∈ more := by simp [within]
        obtain ⟨-, player⟩ := step.of_happened happened
        exact ⟨b, known.trans (List.append_nil before) ▸ run, player⟩
      · exact ih known

/-- What is started in a run is not of an earlier generation than the run begins with. -/
theorem Run.generation_of_started (run : Run start c notes)
    (started : .happened (.started item) ∈ notes) : start.generation ≤ item.generation := by
  obtain ⟨before, after, split⟩ := List.append_of_mem started
  obtain ⟨b, earlier, p, -, q, now, attached, step⟩ := run.at_happened split
  exact Nat.le_trans (earlier.generation ▸ Nat.le_add_right _ _) step.generation_of_started

/-- Throughout a run, the tags of the players are in order. -/
theorem Run.tagged {setup : Setup} (run : Run (.new setup) c notes) :
    ∀ p ∈ c.players, p.Tagged c.generation :=
  run.preserves (fun c => ∀ p ∈ c.players, p.Tagged c.generation) (by simp [new, players])
    fun before _ _ all step => step.players all (.new before.generation)
      (fun _ tagged => tagged.renewed) (fun _ _ _ tag _ tagged => tagged.accepted tag)
      fun _ _ _ _ _ step tagged => step.tagged tagged

/-! ## What is cut off -/

variable {event : Event} {before after : List Note}

/-- What is cut off is with a player when it is of an earlier generation than the current one. -/
theorem Run.cutOff_at {setup : Setup} (run : Run (.new setup) c notes)
    (split : notes = before ++ .happened event :: after) (cutsOff : event.CutsOff item) :
    ∃ b, Run (.new setup) b before ∧ item.generation < b.generation ∧
      ∃ p ∈ b.players, item ∈ p.held := by
  obtain ⟨b, earlier, p, member, q, now, attached, step⟩ := run.at_happened split
  obtain ⟨held, stale⟩ := step.generation_of_cutsOff cutsOff (earlier.tagged p member)
  exact ⟨b, earlier, stale, p, member, held⟩

/-- It was not accepted later. -/
theorem Run.accepted_before {setup : Setup} (run : Run (.new setup) c notes)
    (split : notes = before ++ .happened event :: after) (cutsOff : event.CutsOff item)
    (accepted : .accepted item ∈ notes) : .accepted item ∈ before := by
  obtain ⟨b, earlier, stale, -⟩ := run.cutOff_at split cutsOff
  rw [split] at accepted
  refine (List.mem_append.mp accepted).resolve_right fun later => ?_
  rcases List.mem_cons.mp later with same | later
  · cases same
  · obtain ⟨early, mid, place⟩ := List.append_of_mem later
    have whole : notes = (before ++ .happened event :: early) ++ .accepted item :: mid := by
      simp [split, place]
    have counted := run.generation_of_accepted whole
    have total := run.generation
    have reached := earlier.generation
    simp only [split, place, List.count_append, List.count_cons] at total
    omega

/-- It has been cancelled since it was accepted. -/
theorem Run.renewed_between {setup : Setup} {early mid : List Note}
    (run : Run (.new setup) c notes) (split : notes = before ++ .happened event :: after)
    (cutsOff : event.CutsOff item) (accepted : before = early ++ .accepted item :: mid) :
    .renewed ∈ mid := by
  obtain ⟨b, earlier, stale, -⟩ := run.cutOff_at split cutsOff
  have counted := earlier.generation_of_accepted accepted
  refine List.count_pos_iff.mp ?_
  omega

/-- What is cancelled before it is started is not started later. -/
theorem Run.not_started_of_renewed {setup : Setup} (run : Run (.new setup) c notes)
    (split : notes = before ++ .renewed :: after) (accepted : .accepted item ∈ before) :
    .happened (.started item) ∉ after := by
  intro started
  obtain ⟨mid, rest, later⟩ := List.append_of_mem started
  obtain ⟨early, between, place⟩ := List.append_of_mem accepted
  have whole : notes = (before ++ .renewed :: mid) ++ .happened (.started item) :: rest := by
    simp [split, later]
  obtain ⟨b, earlier, p, -, q, now, attached, step⟩ := run.at_happened whole
  have current := step.generation_of_started
  have since : before ++ .renewed :: mid =
      early ++ .accepted item :: (between ++ .renewed :: mid) := by
    simp [place]
  have counted := earlier.generation_of_accepted since
  rw [List.count_append, List.count_cons_self] at counted
  omega

end Console

end SpeechQueue
