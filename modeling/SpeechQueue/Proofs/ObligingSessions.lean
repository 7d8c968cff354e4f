import SpeechQueue.Proofs.Obliging

/-! # Sessions with engines that oblige

A session with an engine that obliges is followed through the session with the engine without a state:
whatever the controller is asked, the reply is the same, and the two sessions still agree in everything
but the state of the engine and its records (`Session.Alike`). While a start is awaited the engine has
nothing to play, so both clocks stop for the start; otherwise a clock stops only for what the engine
plays, and that nobody else sees. -/

namespace SpeechQueue

variable {σ : Type} {engine : Engine σ} {delay : Duration} {locale : String} {language : LanguageStatus}
  {room : Nat}

namespace Session

/-- How far a session is with its start, and what that says of the engine, which takes at least so many
utterances. -/
inductive Standing (obliging : Obliging engine delay locale language room) (n : Nat) (s : Session σ) :
    Prop
  | untouched : s.desk.controller.phase = .uninitialized → s.desk.controller.attempted = false →
      s.pending = [] → s.desk.controller.setup.locale = locale → n ≤ room →
      obliging.IsFresh s.desk.engine → Standing obliging n s
  | starting (p : Pending) : s.desk.controller.phase = .initializing → s.pending = [p] →
      p.starter = .controller → s.desk.controller.setup.locale = locale → n ≤ room →
      obliging.IsFresh s.desk.engine → Standing obliging n s
  | serving : s.desk.controller.phase = .ready → s.pending = [] → obliging.Takes n s.desk.engine →
      Standing obliging n s
  | leaving (p : Pending) : s.desk.controller.phase = .closed → s.pending = [p] →
      p.starter = .controller → obliging.IsSilent s.desk.engine → Standing obliging n s
  | gone : s.desk.controller.phase = .closed → s.pending = [] → Standing obliging n s

/-- What becomes of a session is what becomes of its outline. -/
structure Tracks (obliging : Obliging engine delay locale language room) (n : Nat)
    (x : Session σ × List Effect) (y : Session Unit × List Effect) : Prop where
  outline : x.1.outline = y.1
  told : Effect.told x.2 = Effect.told y.2
  standing : Standing obliging n x.1

variable {obliging : Obliging engine delay locale language room} {n : Nat} {s t : Session σ}
  {p : Pending}

namespace Standing

theorem of_same (standing : Standing obliging n s) (desk : t.desk = s.desk)
    (pending : t.pending = s.pending) : Standing obliging n t := by
  cases standing with
  | untouched phase untried idle chosen few fresh =>
    exact .untouched (by rwa [desk]) (by rwa [desk]) (by rwa [pending]) (by rwa [desk]) few
      (by rwa [desk])
  | starting p phase awaited starter chosen few fresh =>
    exact .starting p (by rwa [desk]) (by rwa [pending]) starter (by rwa [desk]) few (by rwa [desk])
  | serving phase idle takes => exact .serving (by rwa [desk]) (by rwa [pending]) (by rwa [desk])
  | leaving p phase awaited starter silent =>
    exact .leaving p (by rwa [desk]) (by rwa [pending]) starter (by rwa [desk])
  | gone phase idle => exact .gone (by rwa [desk]) (by rwa [pending])

theorem of_le {m : Nat} (standing : Standing obliging n s) (fewer : m ≤ n) :
    Standing obliging m s := by
  cases standing with
  | untouched phase untried idle chosen few fresh =>
    exact .untouched phase untried idle chosen (Nat.le_trans fewer few) fresh
  | starting p phase awaited starter chosen few fresh =>
    exact .starting p phase awaited starter chosen (Nat.le_trans fewer few) fresh
  | serving phase idle takes => exact .serving phase idle (obliging.takes_of_le fewer takes)
  | leaving p phase awaited starter silent => exact .leaving p phase awaited starter silent
  | gone phase idle => exact .gone phase idle

/-- While a start is awaited, the engine has nothing to play. -/
theorem isSilent (standing : Standing obliging n s) (awaited : s.pending = [p]) :
    p.starter = .controller ∧ obliging.IsSilent s.desk.engine := by
  cases standing with
  | untouched _ _ idle | serving _ idle | gone _ idle => simp [idle] at awaited
  | starting q _ same starter _ _ fresh =>
    obtain rfl : q = p := by simpa [same] using awaited
    exact ⟨starter, obliging.silent fresh⟩
  | leaving q _ same starter silent =>
    obtain rfl : q = p := by simpa [same] using awaited
    exact ⟨starter, silent⟩

theorem pending_cases (standing : Standing obliging n s) :
    s.pending = [] ∨ ∃ p, s.pending = [p] := by
  cases standing with
  | untouched _ _ idle | serving _ idle | gone _ idle => exact .inl idle
  | starting p _ awaited | leaving p _ awaited => exact .inr ⟨p, awaited⟩

/-- A controller that is ready has an engine that takes what it is given. -/
theorem of_ready (standing : Standing obliging n s) (ready : s.desk.controller.phase = .ready) :
    s.pending = [] ∧ obliging.Takes n s.desk.engine := by
  cases standing with
  | untouched phase | starting _ phase | leaving _ phase | gone phase => simp [phase] at ready
  | serving _ idle takes => exact ⟨idle, takes⟩

end Standing

theorem Tracks.append {m : Nat} {x x' : Session σ × List Effect} {y y' : Session Unit × List Effect}
    (first : Tracks obliging n x y) (second : Tracks obliging m x' y') :
    Tracks obliging m (x'.1, x.2 ++ x'.2) (y'.1, y.2 ++ y'.2) where
  outline := second.outline
  told := by rw [Effect.told_append, Effect.told_append, first.told, second.told]
  standing := second.standing

theorem Standing.tracks (standing : Standing obliging n s) :
    Tracks obliging n (s, []) (s.outline, []) := ⟨rfl, rfl, standing⟩

theorem outline_withDesk {d : Desk σ} {e : Desk Unit} (same : d.outline = e) (s : Session σ) :
    { s with desk := d }.outline = { s.outline with desk := e } := by
  rw [← same]
  rfl

/-! ## The clock -/

/-- The session at a time that may be still to come. -/
def movedTo (target : Nat) (s : Session σ) : Session σ := { s with now := max s.now target }

theorem outline_movedTo (target : Nat) (s : Session σ) :
    (s.movedTo target).outline = s.outline.movedTo target := rfl

theorem movedTo_movedTo {due target : Nat} (before : due ≤ target) (s : Session σ) :
    (s.movedTo due).movedTo target = s.movedTo target := by
  simp only [movedTo, Nat.max_assoc, Nat.max_eq_right before]

theorem Standing.movedTo (standing : Standing obliging n s) (target : Nat) :
    Tracks obliging n (s.movedTo target, []) (s.outline.movedTo target, []) :=
  ⟨rfl, rfl, standing.of_same rfl rfl⟩

theorem settle_tracks (standing : Standing obliging n s) :
    Tracks obliging n (s.settle engine) (s.outline, []) where
  outline := rfl
  told := Effect.told_background _
  standing := by
    cases standing with
    | untouched phase untried idle chosen few fresh =>
      exact .untouched phase untried idle chosen few (obliging.settleFresh s.now fresh)
    | starting p phase awaited starter chosen few fresh =>
      exact .starting p phase awaited starter chosen few (obliging.settleFresh s.now fresh)
    | serving phase idle takes => exact .serving phase idle (obliging.settleTakes s.now takes)
    | leaving p phase awaited starter silent =>
      exact .leaving p phase awaited starter (obliging.settleSilent s.now silent)
    | gone phase idle => exact .gone phase idle

/-- The controller hears of the result of a start. -/
theorem finish_eq (starter : p.starter = .controller)
    (done : (engine.finishStart s.desk.engine).1 = some (.ok ())) :
    let o := Desk.finishInit engine (.ok ()) ⟨s.desk.controller, (engine.finishStart s.desk.engine).2.1⟩
    s.finish engine p = ({ s with
      desk := o.desk
      pending := s.pending.filter (·.ticket ≠ p.ticket)
      ended := s.ended ++ [(p.ticket, .controller o.result)] },
      (engine.finishStart s.desk.engine).2.2.map .record ++ o.effects) := by
  simp [finish, starter, done, finishController, after, endStart]

theorem finish_tracks (standing : Standing obliging n s) (awaited : s.pending = [p]) :
    Tracks obliging n (s.finish engine p) (s.outline.finish (.willing delay language) p) := by
  obtain ⟨starter, silent⟩ := standing.isSilent awaited
  have emptied : s.pending.filter (·.ticket ≠ p.ticket) = [] := by simp [awaited]
  let d : Desk σ := ⟨s.desk.controller, (engine.finishStart s.desk.engine).2.1⟩
  have tracks (standing : Standing obliging n { s with
        desk := (d.finishInit engine (.ok ())).desk
        pending := s.pending.filter (·.ticket ≠ p.ticket)
        ended := s.ended ++ [(p.ticket, .controller (d.finishInit engine (.ok ())).result)] })
      (same : (d.finishInit engine (.ok ())).Matches
        (d.outline.finishInit (.willing delay language) (.ok ()))) :
      Tracks obliging n (s.finish engine p) (s.outline.finish (.willing delay language) p) := by
    rw [finish_eq starter (obliging.finishStart silent), finish_eq starter rfl]
    refine ⟨?_, ?_, standing⟩
    · rw [same.result]
      exact outline_withDesk same.desk { s with
        pending := s.pending.filter (·.ticket ≠ p.ticket)
        ended := s.ended ++ _ }
    · rw [Effect.told_append, Effect.told_records, same.told]
      rfl
  cases standing with
  | untouched _ _ idle | serving _ idle | gone _ idle => simp [idle] at awaited
  | starting _ phase _ _ chosen few fresh =>
    have stillOpen : d.controller.phase ≠ .closed := by simp [d, phase]
    obtain ⟨same, ready, takes⟩ := obliging.finishInit_open stillOpen chosen (obliging.started fresh)
    exact tracks (.serving ready emptied (obliging.takes_of_le few takes)) same
  | leaving _ phase _ _ silent =>
    obtain ⟨same, kept⟩ := Desk.finishInit_closed_matches (d := d) phase
    exact tracks (.gone (by rw [kept]; exact phase) emptied) same

/-- When no start is due, a tick only lets the engine do what it can. -/
theorem tick_quiet (quiet : s.pending.find? (·.due ≤ s.now) = none) :
    s.tick engine = s.settle engine := by
  simp [tick, quiet]

theorem tick_due (found : s.pending.find? (·.due ≤ s.now) = some p) :
    s.tick engine = (((s.finish engine p).1.settle engine).1,
      (s.finish engine p).2 ++ ((s.finish engine p).1.settle engine).2) := by
  simp only [tick, found]

theorem tick_tracks (standing : Standing obliging n s) :
    Tracks obliging n (s.tick engine) (s.outline.tick (.willing delay language)) := by
  have outlined : s.outline.pending.find? (·.due ≤ s.outline.now) =
      s.pending.find? (·.due ≤ s.now) := rfl
  cases found : s.pending.find? (·.due ≤ s.now) with
  | none =>
    rw [tick_quiet found, tick_quiet (outlined.trans found)]
    exact settle_tracks standing
  | some p =>
    have awaited : s.pending = [p] := by
      rcases standing.pending_cases with idle | ⟨q, awaited⟩
      · simp [idle] at found
      · have member := List.mem_of_find?_eq_some found
        rw [awaited, List.mem_singleton] at member
        rw [awaited, member]
    have finished := finish_tracks standing awaited
    have settled := settle_tracks finished.standing
    rw [finished.outline] at settled
    rw [tick_due found, tick_due (outlined.trans found)]
    exact finished.append settled

/-- While no start is awaited, the clock moves as if it never stopped. -/
theorem moveTo_idle (standing : Standing obliging n s) (idle : s.pending = []) (target stops : Nat) :
    Tracks obliging n (s.moveTo engine target stops) (s.outline.movedTo target, []) := by
  induction stops generalizing s with
  | zero => exact standing.movedTo target
  | succ stops ih =>
    simp only [moveTo]
    split
    · next due falls =>
      split
      · next before =>
        have ticked : tick engine (s.movedTo due) = settle engine (s.movedTo due) :=
          tick_quiet (by simp [movedTo, idle])
        have settled := settle_tracks (standing.movedTo due).standing
        have moved := ih settled.standing idle
        rw [settled.outline] at moved
        have both := settled.append moved
        rw [← ticked, outline_movedTo, movedTo_movedTo before] at both
        exact both
      · exact standing.movedTo target
    · exact standing.movedTo target

/-- The clock stops for a start that is awaited, and for nothing else on the way. -/
theorem moveTo_awaiting (standing : Standing obliging n s) (awaited : s.pending = [p])
    (target : Nat) : Tracks obliging n (s.moveTo engine target 1)
      (s.outline.moveTo (.willing delay language) target 1) := by
  have due : s.due engine = some p.due := by
    simp [Session.due, awaited, obliging.due (standing.isSilent awaited).2]
  have outlined : s.outline.due (.willing delay language) = some p.due := by
    rw [Session.due, show s.outline.pending = [p] from awaited]
    rfl
  simp only [moveTo, due, outlined]
  split
  · have ticked := tick_tracks (standing.movedTo p.due).standing
    have moved := ticked.standing.movedTo target
    rw [ticked.outline] at moved
    exact ticked.append moved
  · exact standing.movedTo target

theorem moveTo_tracks (standing : Standing obliging n s) (target : Nat) :
    Tracks obliging n
      (s.moveTo engine target (s.pending.length + engine.backlog s.desk.engine))
      (s.outline.moveTo (.willing delay language) target s.outline.pending.length) := by
  rcases standing.pending_cases with idle | ⟨p, awaited⟩
  · rw [show s.outline.pending = [] from idle]
    exact moveTo_idle standing idle target _
  · rw [show s.outline.pending = [p] from awaited, awaited,
      obliging.backlog (standing.isSilent awaited).2]
    exact moveTo_awaiting standing awaited target

theorem advanceTo_tracks (standing : Standing obliging n s) (target : Nat) :
    Tracks obliging n (s.advanceTo engine target)
      (s.outline.advanceTo (.willing delay language) target) :=
  have settled := settle_tracks standing
  settled.append (moveTo_tracks settled.standing target)

/-! ## What is asked of the controller -/

/-- A reply is the same, and what becomes of the session is the same. -/
structure Alike {α : Type} (obliging : Obliging engine delay locale language room) (n : Nat)
    (x : α × Session σ × List Effect) (y : α × Session Unit × List Effect) : Prop where
  same : x.1 = y.1
  tracks : Tracks obliging n x.2 y.2

theorem Alike.andThen {α β : Type} {m : Nat} {x : α × Session σ × List Effect}
    {y : α × Session Unit × List Effect} {z : β × Session σ × List Effect}
    (g : α → Session Unit → β × Session Unit × List Effect) (first : Alike obliging n x y)
    (second : Alike obliging m z (g x.1 x.2.1.outline)) :
    Alike obliging m (z.1, z.2.1, x.2.2 ++ z.2.2)
      ((g y.1 y.2.1).1, (g y.1 y.2.1).2.1, y.2.2 ++ (g y.1 y.2.1).2.2) := by
  rw [first.same, first.tracks.outline] at second
  exact ⟨second.same, first.tracks.append second.tracks⟩

theorem after_alike {α : Type} {o : Outcome σ α} {q : Outcome Unit α} (matching : o.Matches q)
    (standing : Standing obliging n (s.after o).2.1) :
    Alike obliging n (s.after o) (s.outline.after q) :=
  ⟨matching.result, outline_withDesk matching.desk s, matching.told, standing⟩

theorem begin_awaited {span : Duration} (awaited : (s.desk.beginInit engine).result = .awaited span) :
    s.begin engine .controller = (s.tickets, { s with
      desk := (s.desk.beginInit engine).desk
      pending := s.pending ++ [⟨s.tickets, Timer.milliseconds.after s.now span, .controller⟩]
      tickets := s.tickets + 1 }, (s.desk.beginInit engine).effects) := by
  simp [begin, after, awaited]

theorem begin_answered {result : Except QueueError LanguageStatus}
    (answered : (s.desk.beginInit engine).result = .answered result) :
    s.begin engine .controller = (s.tickets, { s with
      desk := (s.desk.beginInit engine).desk
      ended := s.ended ++ [(s.tickets, .controller result)]
      tickets := s.tickets + 1 }, (s.desk.beginInit engine).effects) := by
  simp [begin, after, answered, endStart]

/-- Only the first start reaches the engine. -/
theorem begin_alike (standing : Standing obliging n s) :
    Alike obliging n (s.begin engine .controller)
      (s.outline.begin (.willing delay language) .controller) := by
  by_cases first : s.desk.controller.phase = .uninitialized
  · cases standing with
    | starting _ phase | serving phase | leaving _ phase | gone phase => simp [phase] at first
    | untouched _ untried idle chosen few fresh =>
      obtain ⟨matching, awaited, phase, setup, still⟩ := obliging.beginInit_fresh first untried fresh
      rw [begin_awaited awaited, begin_awaited (matching.result.symm.trans awaited)]
      refine ⟨rfl, ?_, matching.told, .starting
        ⟨s.tickets, Timer.milliseconds.after s.now delay, .controller⟩ phase ?_ rfl ?_ few still⟩
      · exact outline_withDesk matching.desk
          { s with pending := s.pending ++ _, tickets := s.tickets + 1 }
      · rw [idle]
        rfl
      · rw [setup]
        exact chosen
  · obtain ⟨matching, kept, result, answered⟩ :
        (s.desk.beginInit engine).Matches (s.desk.outline.beginInit (.willing delay language)) ∧
          (s.desk.beginInit engine).desk = s.desk ∧
          ∃ result, (s.desk.beginInit engine).result = .answered result :=
      Desk.beginInit_stale_matches first
    rw [begin_answered answered, begin_answered (matching.result.symm.trans answered)]
    refine ⟨rfl, ?_, matching.told, standing.of_same kept rfl⟩
    exact outline_withDesk matching.desk
      { s with ended := s.ended ++ _, tickets := s.tickets + 1 }

theorem waitFor_alike (standing : Standing obliging n s) (ticket : Nat) :
    Alike obliging n (s.waitFor engine ticket)
      (s.outline.waitFor (.willing delay language) ticket) := by
  have tracks : Tracks obliging n (s.waitFor engine ticket).2
      (s.outline.waitFor (.willing delay language) ticket).2 := by
    simp only [waitFor, show s.outline.pending = s.pending from rfl]
    cases s.pending.find? (·.ticket = ticket) with
    | none => exact standing.tracks
    | some p => exact advanceTo_tracks standing p.due
  exact ⟨congrArg (·.ended.lookup ticket) tracks.outline, tracks⟩

theorem startAndWait_alike (standing : Standing obliging n s) :
    Alike obliging n (s.startAndWait engine .controller)
      (s.outline.startAndWait (.willing delay language) .controller) := by
  have begun := begin_alike standing
  have waited := begun.andThen (fun ticket t => t.waitFor (.willing delay language) ticket)
    (waitFor_alike begun.tracks.standing _)
  exact ⟨congrArg replyTo waited.same, waited.tracks⟩

/-- A submission takes one utterance. -/
theorem submission_alike {o : Outcome σ (Except QueueError Receipt)}
    {q : Outcome Unit (Except QueueError Receipt)} (standing : Standing obliging (n + 1) s)
    (handles : obliging.Handles n s.desk o q) :
    Alike obliging n (s.after o) (s.outline.after q) := by
  refine after_alike handles.same ?_
  by_cases ready : s.desk.controller.phase = .ready
  · obtain ⟨still, takes⟩ := handles.accepted ready
    exact .serving still (standing.of_ready ready).1 takes
  · exact (standing.of_le (Nat.le_succ n)).of_same (handles.refused ready) rfl

theorem submitUser_alike (standing : Standing obliging (n + 1) s) (text : String) (mode : Mode) :
    Alike obliging n (s.submitUser engine text mode)
      (s.outline.submitUser (.willing delay language) text mode) :=
  submission_alike (s := s.freshId.2) (standing.of_same rfl rfl)
    (obliging.submitUser s.freshId.1 text (fun ready => (standing.of_ready ready).2) mode)

theorem submitAll_alike (texts : List String) (standing : Standing obliging (n + texts.length) s) :
    Alike obliging n (s.submitAll engine texts)
      (s.outline.submitAll (.willing delay language) texts) := by
  induction texts generalizing s with
  | nil => exact ⟨rfl, standing.tracks⟩
  | cons text rest ih =>
    obtain ⟨result, submitted⟩ := submitUser_alike (n := n + rest.length) standing text .add
    obtain ⟨results, more⟩ := ih submitted.standing
    rw [submitted.outline] at results more
    exact ⟨congrArg₂ List.cons result results, submitted.append more⟩

theorem shutDown_alike (standing : Standing obliging n s) :
    Alike obliging n (s.after (s.desk.shutDown engine))
      (s.outline.after (s.desk.outline.shutDown (.willing delay language))) := by
  have closed : (s.desk.shutDown engine).desk.controller.phase = .closed := by
    rw [Desk.shutDown_controller]
  refine after_alike s.desk.shutDown_matches ?_
  cases standing with
  | untouched _ _ idle | serving _ idle | gone _ idle => exact .gone closed idle
  | starting p phase awaited starter _ _ fresh =>
    refine .leaving p closed awaited starter ?_
    simpa [after, Desk.shutDown_engine, phase] using obliging.shutDown fresh
  | leaving p phase awaited starter silent =>
    refine .leaving p closed awaited starter ?_
    simpa [after, Desk.shutDown_engine, phase] using silent

end Session

end SpeechQueue
