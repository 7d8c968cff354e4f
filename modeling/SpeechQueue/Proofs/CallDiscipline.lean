import SpeechQueue.Proofs.RecordedCalls

/-! # The order of calls

Main statement: `keeps_discipline`. Whatever tasks do to a controller, its engine is asked to start
at most once, then to speak one language, then for utterances one after another, and at last to shut
down. Every part may be missing, but none comes without the ones that it needs, and rate and pitch
are always those of the controller. -/

namespace SpeechQueue

variable {ω : Type}

/-! ## What the history tells -/

/-- The blocks that submissions hand to the engine, in the order of the lock. -/
def blocks (history : List (Entry ω)) : List Block :=
  history.filterMap Entry.block?

/-- The move is the end of a start that has succeeded. -/
def Entry.Succeeds (entry : Entry ω) : Prop :=
  (∃ place, entry.move = .finishInit place) ∧ ∃ status, entry.answer = some (.started (.ok status))

/-- A start has succeeded before the controller was shut down. -/
def HasSucceeded (history : List (Entry ω)) : Prop :=
  ∃ earlier entry later, history = earlier ++ entry :: later ∧ entry.Succeeds ∧ ¬ WasShutDown earlier

theorem blocks_snoc (history : List (Entry ω)) (entry : Entry ω) :
    blocks (history ++ [entry]) = blocks history ++ entry.block?.toList :=
  filterMap_snoc ..

theorem hasSucceeded_snoc (history : List (Entry ω)) (entry : Entry ω) :
    HasSucceeded (history ++ [entry]) ↔
      HasSucceeded history ∨ entry.Succeeds ∧ ¬ WasShutDown history := by
  constructor
  · rintro ⟨earlier, success, later, split, succeeds, stillOpen⟩
    rcases snoc_eq_append_cons split with ⟨rfl, rfl, -⟩ | ⟨shorter, split⟩
    · exact .inr ⟨succeeds, stillOpen⟩
    · exact .inl ⟨earlier, success, shorter, split, succeeds, stillOpen⟩
  · rintro (⟨earlier, success, later, rfl, succeeds, stillOpen⟩ | ⟨succeeds, stillOpen⟩)
    · exact ⟨earlier, success, later ++ [entry], by simp, succeeds, stillOpen⟩
    · exact ⟨history, entry, [], rfl, succeeds, stillOpen⟩

theorem HasSucceeded.hasReturned {history : List (Entry ω)} (succeeded : HasSucceeded history) :
    HasReturned history := by
  obtain ⟨earlier, entry, later, rfl, ⟨returned, -⟩, -⟩ := succeeded
  exact ⟨entry, by simp, returned⟩

/-- Of a move that neither starts nor ends anything only a block is recorded. -/
theorem Entry.recorded_eq_block {entry : Entry ω} (noShutDown : entry.move ≠ .shutDown)
    (noReturn : ∀ place, entry.move ≠ .finishInit place)
    (noBegin : ¬ (entry.move = .beginInit ∧ entry.answer = none)) :
    entry.recorded = entry.block?.toList.flatMap Block.calls := by
  unfold recorded
  split
  · next begins goesOn => exact absurd ⟨begins, goesOn⟩ noBegin
  · next place status returns ends => exact absurd returns (noReturn place)
  · next closes => exact absurd closes noShutDown
  · rfl

/-- A block comes from a controller that is ready. -/
theorem Entry.block?_of_phase_ne {entry : Entry ω} (early : entry.found.phase ≠ .ready) :
    entry.block? = none := by
  rw [block?, if_neg early]

/-! ## The words -/

open Classical in
/-- The calls that an engine has recorded, part by part: the start, the language with the blocks after
it, and the shutdown. -/
structure Worded (setup : Controller.Setup) (s : Shared Recording) (history : List (Entry ω)) :
    Prop where
  ready : s.desk.controller.phase = .ready → HasSucceeded history
  early : ¬ HasSucceeded history → blocks history = []
  calls : s.desk.engine.calls =
    (if WasBegun history then [.start] else []) ++
      (if HasSucceeded history then
        .setLanguage setup.locale :: (blocks history).flatMap Block.calls
      else []) ++
      (if WasShutDown history then [.shutDown] else [])

namespace Worded

variable {setup : Controller.Setup} {s t : Shared Recording} {history : List (Entry ω)}
  {entry : Entry ω}

theorem new (config : Recording.Setup) :
    Worded setup (.new setup (.new config)) ([] : List (Entry ω)) := by
  have notSucceeded : ¬ HasSucceeded ([] : List (Entry ω)) := by
    rintro ⟨earlier, entry, later, split, -⟩
    simp at split
  refine ⟨by simp [Shared.new, Controller.new], fun _ => rfl, ?_⟩
  simp [Shared.new, Recording.new, WasBegun, WasShutDown, notSucceeded]

/-- A start that is begun is recorded first. -/
theorem after_begun (worded : Worded setup s history) (begins : entry.move = .beginInit)
    (goesOn : entry.answer = none) (notBegun : ¬ WasBegun history)
    (notReturned : ¬ HasReturned history) (stillOpen : ¬ WasShutDown history)
    (unready : t.desk.controller.phase ≠ .ready)
    (calls : t.desk.engine.calls = s.desk.engine.calls ++ [.start]) :
    Worded setup t (history ++ [entry]) := by
  have notSucceeded : ¬ HasSucceeded history := fun succeeded => notReturned succeeded.hasReturned
  have begun : WasBegun (history ++ [entry]) := (wasBegun_snoc ..).mpr (.inr ⟨begins, goesOn⟩)
  have notYet : ¬ HasSucceeded (history ++ [entry]) := by
    simp [hasSucceeded_snoc, notSucceeded, Entry.Succeeds, begins]
  have openYet : ¬ WasShutDown (history ++ [entry]) := by
    simp [wasShutDown_snoc, stillOpen, begins]
  have before := worded.calls
  simp only [notBegun, notSucceeded, stillOpen, if_false, List.append_nil] at before
  refine ⟨fun ready => absurd ready unready, fun _ => ?_, ?_⟩
  · rw [blocks_snoc, worded.early notSucceeded,
      Entry.block?_of_not_submission (by rw [begins]; rfl)]
    rfl
  · simp [calls, before, begun, notYet, openYet]

/-- The language follows a start that has succeeded. -/
theorem after_success (worded : Worded setup s history) (succeeds : entry.Succeeds)
    (begun : WasBegun history) (notReturned : ¬ HasReturned history)
    (stillOpen : ¬ WasShutDown history)
    (calls : t.desk.engine.calls = s.desk.engine.calls ++ [.setLanguage setup.locale]) :
    Worded setup t (history ++ [entry]) := by
  have notSucceeded : ¬ HasSucceeded history := fun succeeded => notReturned succeeded.hasReturned
  have now : HasSucceeded (history ++ [entry]) :=
    (hasSucceeded_snoc ..).mpr (.inr ⟨succeeds, stillOpen⟩)
  obtain ⟨place, returns⟩ := succeeds.1
  have stillBegun : WasBegun (history ++ [entry]) := (wasBegun_snoc ..).mpr (.inl begun)
  have openYet : ¬ WasShutDown (history ++ [entry]) := by
    simp [wasShutDown_snoc, stillOpen, returns]
  have noBlock : blocks (history ++ [entry]) = [] := by
    rw [blocks_snoc, worded.early notSucceeded,
      Entry.block?_of_not_submission (by rw [returns]; rfl)]
    rfl
  have before := worded.calls
  simp only [begun, notSucceeded, stillOpen, if_false, if_true, List.append_nil] at before
  refine ⟨fun _ => now, fun notNow => absurd now notNow, ?_⟩
  simp [calls, before, stillBegun, now, openYet, noBlock]

open Classical in
/-- The shutdown is recorded last, and once. -/
theorem after_shutDown (worded : Worded setup s history) (closes : entry.move = .shutDown)
    (unready : t.desk.controller.phase ≠ .ready)
    (calls : t.desk.engine.calls = s.desk.engine.calls ++
      if WasShutDown history then [] else [.shutDown]) :
    Worded setup t (history ++ [entry]) := by
  have begun : WasBegun (history ++ [entry]) ↔ WasBegun history := by
    simp [wasBegun_snoc, closes]
  have succeeded : HasSucceeded (history ++ [entry]) ↔ HasSucceeded history := by
    simp [hasSucceeded_snoc, Entry.Succeeds, closes]
  have shut : WasShutDown (history ++ [entry]) := (wasShutDown_snoc ..).mpr (.inr closes)
  have same : blocks (history ++ [entry]) = blocks history := by
    rw [blocks_snoc, Entry.block?_of_not_submission (by rw [closes]; rfl)]
    exact List.append_nil _
  refine ⟨fun ready => absurd ready unready, ?_, ?_⟩
  · rw [succeeded, same]
    exact worded.early
  · rw [calls, worded.calls, same, begun, succeeded, if_pos shut]
    by_cases already : WasShutDown history <;> simp [already]

/-- A move that leaves the start alone adds its block behind all others. -/
theorem after_block (worded : Worded setup s history)
    (noShutDown : entry.move ≠ .shutDown) (noSuccess : ¬ entry.Succeeds)
    (noBegin : ¬ (entry.move = .beginInit ∧ entry.answer = none))
    (ready : entry.found.phase = .ready → HasSucceeded history ∧ ¬ WasShutDown history)
    (stays : t.desk.controller.phase = .ready → HasSucceeded history)
    (calls : t.desk.engine.calls =
      s.desk.engine.calls ++ entry.block?.toList.flatMap Block.calls) :
    Worded setup t (history ++ [entry]) := by
  have begun : WasBegun (history ++ [entry]) ↔ WasBegun history := by
    rw [wasBegun_snoc]
    exact or_iff_left noBegin
  have succeeded : HasSucceeded (history ++ [entry]) ↔ HasSucceeded history := by
    rw [hasSucceeded_snoc]
    exact or_iff_left fun success => noSuccess success.1
  have shut : WasShutDown (history ++ [entry]) ↔ WasShutDown history := by
    rw [wasShutDown_snoc]
    exact or_iff_left noShutDown
  -- Only a controller that is ready hands a block over, and then the other parts are as they should.
  by_cases found : entry.found.phase = .ready
  · obtain ⟨success, stillOpen⟩ := ready found
    refine ⟨fun _ => succeeded.mpr success, fun not => absurd (succeeded.mpr success) not, ?_⟩
    rw [calls, worded.calls, begun, if_pos success, if_neg stillOpen,
      if_pos (succeeded.mpr success), if_neg (mt shut.mp stillOpen), blocks_snoc]
    simp
  · have same : blocks (history ++ [entry]) = blocks history := by
      rw [blocks_snoc, Entry.block?_of_phase_ne found]
      exact List.append_nil _
    refine ⟨fun now => succeeded.mpr (stays now), ?_, ?_⟩
    · rw [succeeded, same]
      exact worded.early
    · rw [calls, worded.calls, Entry.block?_of_phase_ne found, same, begun, succeeded, shut]
      exact List.append_nil _

/-- Every move keeps the calls in order. -/
theorem step {work : ω → Recording → Recording × List Record} {move : Move ω}
    {turn : Turn Recording} (worded : Worded setup s history) (course : Course setup s history)
    (possible : s.step? Recording.engine work move = some turn)
    (recorded : turn.after.desk.engine.calls = s.desk.engine.calls ++
      Entry.recorded ⟨s.desk.controller, move, turn.answer, turn.effects⟩) :
    Worded setup turn.after
      (history ++ [⟨s.desk.controller, move, turn.answer, turn.effects⟩]) := by
  have open_iff := not_congr course.closed_iff
  -- What becomes of the start decides which part of the list grows.
  cases Shared.step?_change possible with
  | begun progress first fresh controller starting goesOn =>
    obtain ⟨notBegun, notReturned, -⟩ := course.not_begun fresh
    refine worded.after_begun rfl goesOn notBegun notReturned ?_ ?_ ?_
    · exact open_iff.mp (by simp [first])
    · simp [controller]
    · simpa [Entry.recorded, goesOn] using recorded
  | discarded present closed controller starting answer =>
    refine worded.after_block (by simp) ?_ (by simp) ?_ ?_ ?_
    · simp [Entry.Succeeds, answer]
    · simp [closed]
    · simp [controller, closed]
    · simpa [Entry.recorded, answer] using recorded
  | failed present goesOn controller starting answer =>
    have initializing := course.initializing (Course.awaited_of_getElem? present) goesOn
    refine worded.after_block (by simp) ?_ (by simp) ?_ ?_ ?_
    · simp [Entry.Succeeds, answer]
    · simp [initializing]
    · simp [controller]
    · simpa [Entry.recorded, answer] using recorded
  | succeeded present goesOn chosen controller starting answer =>
    obtain ⟨begun, notReturned⟩ := course.pending (Course.awaited_of_getElem? present)
    refine worded.after_success ⟨⟨_, rfl⟩, _, answer⟩ begun notReturned (open_iff.mp goesOn) ?_
    simpa [Entry.recorded, answer, course.setup_eq] using recorded
  | closed controller =>
    refine worded.after_shutDown rfl (by simp [controller]) ?_
    by_cases shut : WasShutDown history
    · simpa [Entry.recorded, course.closed_iff.mpr shut, shut] using recorded
    · simpa [Entry.recorded, open_iff.mpr shut, shut] using recorded
  | kept noShutDown noReturn noBegin same =>
    refine worded.after_block noShutDown ?_ noBegin ?_ ?_ ?_
    · exact fun success => success.1.elim noReturn
    · intro ready
      exact ⟨worded.ready ready, open_iff.mp fun closed => Phase.noConfusion (ready.symm.trans closed)⟩
    · exact fun ready => worded.ready (same.phase ▸ ready)
    · rwa [Entry.recorded_eq_block noShutDown noReturn noBegin] at recorded

/-- Every run of an engine that records makes its calls in order. -/
theorem of_run {work : Empty → Recording → Recording × List Record} {config : Recording.Setup}
    {history : List (Entry Empty)}
    (run : Run Recording.engine work (.new setup (.new config)) s history) :
    Worded setup s history := by
  induction run with
  | nil => exact .new config
  | snoc run possible ih => exact ih.step (.of_run run) possible (Shared.step?_calls possible)

end Worded

/-! ## Rate and pitch -/

/-- The call sets the rate or the pitch. -/
def Call.isDial : Call → Bool
  | .setRate _ => true
  | .setPitch _ => true
  | _ => false

namespace Entry

variable {entry : Entry ω}

/-- A block that sets rate and pitch sets those that the controller goes on with, and is all that is
recorded. -/
theorem recorded_of_dialled {rate pitch : Single} {accepted : Option (String × Mode × Attributes)}
    (hands : entry.block? = some (.dialled rate pitch accepted)) :
    rate = entry.leaves.rate ∧ pitch = entry.leaves.pitch ∧
      entry.recorded = (Block.dialled rate pitch accepted).calls := by
  have same := hands
  unfold block? at same
  split at same
  · split at same
    · next id text mode move =>
      obtain ⟨rfl, rfl, rfl⟩ := Block.dialled.inj (Option.some.inj same)
      simp [recorded, move, hands]
    · next id text source move =>
      obtain ⟨rfl, rfl, rfl⟩ := Block.dialled.inj (Option.some.inj same)
      simp [recorded, move, hands]
    · split at same <;> cases same
    · cases same
  · cases same

/-- Rate and pitch are set within blocks only. -/
theorem exists_block_of_isDial {call : Call} (inside : call ∈ entry.recorded)
    (dials : call.isDial = true) :
    ∃ block, entry.block? = some block ∧ call ∈ block.calls := by
  unfold recorded at inside
  split at inside
  · cases List.mem_singleton.mp inside
    cases dials
  · cases List.mem_singleton.mp inside
    cases dials
  · split at inside
    · cases inside
    · cases List.mem_singleton.mp inside
      cases dials
  · simpa using inside

/-- Without a block that sets them the parameters stay. -/
theorem leaves_of_not_dialled (other : ∀ block, entry.block? = some block → block.dial? = none) :
    entry.leaves = entry.found.parameters := by
  by_cases ready : entry.found.phase = .ready
  · cases move : entry.move with
    | submitUser id text mode => cases other _ (by rw [block?, if_pos ready, move])
    | submit id text source => cases other _ (by rw [block?, if_pos ready, move])
    | submitSystem | beginInit | answer | finishInit | setListener | shutDown | work =>
      exact resolvedFrom_silent _ (by rw [move]; rfl)
  · simp [leaves, heard?, ready, resolvedFrom]

/-- And nothing else sets rate or pitch. -/
theorem isDial_of_not_dialled (other : ∀ block, entry.block? = some block → block.dial? = none)
    (call : Call) (inside : call ∈ entry.recorded) : call.isDial = false := by
  refine Bool.eq_false_iff.mpr fun dials => ?_
  obtain ⟨block, hands, within⟩ := exists_block_of_isDial inside dials
  cases block with
  | dialled rate pitch accepted => cases other _ hands
  | flushed text =>
    cases List.mem_singleton.mp within
    cases dials

end Entry

namespace Recording

/-- Rate and pitch were last set to those of the parameters. -/
structure IsDialled (r : Recording) (p : Parameters) : Prop where
  rate : r.lastRate? = some p.rate
  pitch : r.lastPitch? = some p.pitch

variable {r after : Recording} {p : Parameters}

theorem isDialled_of_block {accepted : Option (String × Mode × Attributes)}
    (calls : after.calls = r.calls ++ (Block.dialled p.rate p.pitch accepted).calls) :
    after.IsDialled p := by
  cases accepted <;> constructor <;> simp [lastRate?, lastPitch?, calls, Block.calls]

/-- What is searched for from the end is not found among calls that do not have it. -/
theorem findSome?_reverse_append {α : Type} {find : Call → Option α} {calls more : List Call}
    (other : ∀ call ∈ more, find call = none) :
    (calls ++ more).reverse.findSome? find = calls.reverse.findSome? find := by
  have nothing : more.reverse.findSome? find = none := by
    simpa [List.findSome?_eq_none_iff] using other
  rw [List.reverse_append, List.findSome?_append, nothing, Option.none_or]

/-- Calls that set neither leave them as they are. -/
theorem IsDialled.append (dialled : r.IsDialled p) {more : List Call}
    (calls : after.calls = r.calls ++ more) (other : ∀ call ∈ more, call.isDial = false) :
    after.IsDialled p := by
  constructor
  · rw [lastRate?, calls, findSome?_reverse_append]
    · exact dialled.rate
    · intro call inside
      cases call with
      | setRate rate => cases other _ inside
      | start | setLanguage | setPitch | speak | shutDown => rfl
  · rw [lastPitch?, calls, findSome?_reverse_append]
    · exact dialled.pitch
    · intro call inside
      cases call with
      | setPitch pitch => cases other _ inside
      | start | setLanguage | setRate | speak | shutDown => rfl

end Recording

/-! ## Runs -/

variable {work : Empty → Recording → Recording × List Record} {setup : Controller.Setup}
  {config : Recording.Setup} {s t : Shared Recording} {turn : Turn Recording}
  {history later : List (Entry Empty)}

/-- What a move does to rate and pitch: a block sets them to the parameters that the controller goes
on with, and anything else leaves both the engine and the parameters as they are. -/
theorem Shared.step?_dial {move : Move Empty} {block : Block}
    (seeded : Seeded setup s.desk.controller s.starting)
    (possible : s.step? Recording.engine work move = some turn)
    (within : block ∈ blocks
      (history ++ [⟨s.desk.controller, move, turn.answer, turn.effects⟩]))
    (dials : block.dial? ≠ none)
    (before : ∀ block ∈ blocks history, block.dial? ≠ none →
      s.desk.engine.IsDialled s.desk.controller.parameters) :
    turn.after.desk.engine.IsDialled turn.after.desk.controller.parameters := by
  have calls := Shared.step?_calls possible
  have parameters := (seeded.step possible).2
  by_cases other : ∀ block, Entry.block? ⟨s.desk.controller, move, turn.answer, turn.effects⟩ =
      some block → block.dial? = none
  · -- The move leaves both sides as they are, so it is an earlier block that has set them.
    have earlier : block ∈ blocks history := by
      rw [blocks_snoc] at within
      rcases List.mem_append.mp within with earlier | now
      · exact earlier
      · exact absurd (other block (Option.mem_toList.mp now)) dials
    rw [parameters.trans (Entry.leaves_of_not_dialled other)]
    exact (before block earlier dials).append calls (Entry.isDial_of_not_dialled other)
  · obtain ⟨last, notAll⟩ := Classical.not_forall.mp other
    obtain ⟨hands, lastDials⟩ := Classical.not_imp.mp notAll
    cases last with
    | flushed text => exact absurd rfl lastDials
    | dialled rate pitch accepted =>
      obtain ⟨rfl, rfl, recorded⟩ := Entry.recorded_of_dialled hands
      rw [recorded] at calls
      rw [parameters]
      exact Recording.isDialled_of_block calls

/-- After the first block that sets rate and pitch, the engine has those of the controller. -/
theorem Run.isDialled (run : Run Recording.engine work (.new setup (.new config)) s history) :
    ∀ block ∈ blocks history, block.dial? ≠ none →
      s.desk.engine.IsDialled s.desk.controller.parameters := by
  induction run with
  | nil => exact fun block inside => absurd inside List.not_mem_nil
  | snoc run possible ih =>
    exact fun block inside dials => Shared.step?_dial (.of_run run) possible inside dials ih

/-- A controller that is closed stays so, and its engine gets no more calls. -/
theorem Shared.step?_silent {move : Move Empty} (closed : s.desk.controller.phase = .closed)
    (possible : s.step? Recording.engine work move = some turn) :
    turn.after.desk.controller.phase = .closed ∧
      turn.after.desk.engine.calls = s.desk.engine.calls := by
  have calls := Shared.step?_calls possible
  cases Shared.step?_change possible with
  | begun progress first => exact Phase.noConfusion (closed.symm.trans first)
  | discarded present already controller starting answer =>
    exact ⟨by rw [controller, closed], by simpa [Entry.recorded, answer, Entry.block?] using calls⟩
  | failed present goesOn => exact absurd closed goesOn
  | succeeded present goesOn => exact absurd closed goesOn
  | closed controller =>
    exact ⟨by rw [controller], by simpa [Entry.recorded, closed] using calls⟩
  | kept noShutDown noReturn noBegin same =>
    rw [Entry.recorded_eq_block noShutDown noReturn noBegin,
      Entry.block?_of_phase_ne (by simp [closed])] at calls
    exact ⟨same.phase.trans closed, calls.trans (List.append_nil _)⟩

theorem Run.silent (run : Run Recording.engine work s t later)
    (closed : s.desk.controller.phase = .closed) :
    t.desk.controller.phase = .closed ∧ t.desk.engine.calls = s.desk.engine.calls := by
  induction run with
  | nil => exact ⟨closed, rfl⟩
  | snoc run possible ih =>
    obtain ⟨phase, calls⟩ := Shared.step?_silent ih.1 possible
    exact ⟨phase, calls.trans ih.2⟩

/-- The parameters of a block are those of the controller when the block is handed over. -/
theorem Run.dialled (run : Run Recording.engine work (.new setup (.new config)) s history)
    {earlier later : List (Entry Empty)} {entry : Entry Empty} {rate pitch : Single}
    {accepted : Option (String × Mode × Attributes)} (split : history = earlier ++ entry :: later)
    (hands : entry.block? = some (.dialled rate pitch accepted)) :
    ∃ t, Run Recording.engine work (.new setup (.new config)) t (earlier ++ [entry]) ∧
      rate = t.desk.controller.parameters.rate ∧ pitch = t.desk.controller.parameters.pitch := by
  obtain ⟨before, turn, reached, possible, same⟩ := run.entry split
  have parameters := ((Seeded.of_run reached).step possible).2
  obtain ⟨rfl, rfl, -⟩ := Entry.recorded_of_dialled hands
  refine ⟨turn.after, ?_, ?_, ?_⟩
  · rw [same]
    exact reached.snoc possible
  · rw [parameters, ← same, same]
    rfl
  · rw [parameters, ← same, same]
    rfl

open Classical in
/-- The discipline that the calls of an engine keep, seen from a state that a run has reached. -/
structure KeepsDiscipline (work : Empty → Recording → Recording × List Record)
    (setup : Controller.Setup) (config : Recording.Setup) (s : Shared Recording)
    (history : List (Entry Empty)) : Prop where
  /-- The start comes first. The language is chosen once it has succeeded, unless the controller was
  shut down before. The utterances come next, and the shutdown is the end of it. -/
  calls : s.desk.engine.calls =
    (if WasBegun history then [.start] else []) ++
      (if HasSucceeded history then
        .setLanguage setup.locale :: (blocks history).flatMap Block.calls
      else []) ++
      (if WasShutDown history then [.shutDown] else [])
  /-- No part comes without the ones that it needs. -/
  begun : HasSucceeded history → WasBegun history
  succeeded : blocks history ≠ [] → HasSucceeded history
  /-- An utterance is handed over with the parameters of the controller at that moment. -/
  dialled : ∀ earlier entry later rate pitch accepted, history = earlier ++ entry :: later →
    entry.block? = some (.dialled rate pitch accepted) →
    ∃ t, Run Recording.engine work (.new setup (.new config)) t (earlier ++ [entry]) ∧
      rate = t.desk.controller.parameters.rate ∧ pitch = t.desk.controller.parameters.pitch
  /-- Once rate and pitch have been set, they are always those of the controller. -/
  isDialled : ∀ block ∈ blocks history, block.dial? ≠ none →
    s.desk.engine.IsDialled s.desk.controller.parameters
  /-- After a shutdown nothing is recorded any more. -/
  silent : WasShutDown history → ∀ t later, Run Recording.engine work s t later →
    t.desk.engine.calls = s.desk.engine.calls

/-- Whatever tasks do, the calls of an engine that records keep the discipline. -/
theorem keeps_discipline (run : Run Recording.engine work (.new setup (.new config)) s history) :
    KeepsDiscipline work setup config s history where
  calls := (Worded.of_run run).calls
  begun succeeded := (Course.of_run run).begun succeeded.hasReturned
  succeeded handed := by
    apply Classical.byContradiction
    intro notSucceeded
    exact handed ((Worded.of_run run).early notSucceeded)
  dialled _ _ _ _ _ _ split hands := run.dialled split hands
  isDialled := run.isDialled
  silent shut _ _ second := (second.silent ((Course.of_run run).closed_iff.mpr shut)).2

/-- An engine that refuses leaves half a block, and after the shutdown it hears of nothing. -/
theorem keeps_discipline_of_refusal :
    ∃ s history, Run Recording.engine (fun (label : Empty) => label.elim)
        (.new .default (.new { Recording.Setup.default with rejects := true })) s history ∧
      s.desk.engine.calls.length = 5 ∧ s.desk.engine.calls.getLast? = some .shutDown ∧
      KeepsDiscipline (fun label => label.elim) .default
        { Recording.Setup.default with rejects := true } s history := by
  let start : Shared Recording :=
    .new .default (.new { Recording.Setup.default with rejects := true })
  have begun : Run Recording.engine (fun (label : Empty) => label.elim) start _ _ :=
    .snoc .nil (show start.step? _ _ .beginInit = some _ from rfl)
  have ready := begun.snoc (show Shared.step? _ _ _ (.finishInit 0) = some _ from rfl)
  have refused := ready.snoc
    (show Shared.step? _ _ _ (.submitUser (.supply 0) "slowly" .add) = some _ from rfl)
  have closed := refused.snoc (show Shared.step? _ _ _ .shutDown = some _ from rfl)
  have late := closed.snoc
    (show Shared.step? _ _ _ (.submitUser (.supply 1) "loud" .add) = some _ from rfl)
  exact ⟨_, _, late, rfl, rfl, keeps_discipline late⟩

end SpeechQueue
