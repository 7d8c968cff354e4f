import SpeechQueue.Proofs.EngineRest
import SpeechQueue.Proofs.ObligingSessions

/-! # Starts that are awaited

While starts are awaited the engine has nothing to play, and a clock that moves beyond their ends has
seen all of them: `Session.advanceTo_over`. The starts that the engine itself is asked for are waited
for, so that between two requests at most the start of the controller is awaited, and the engine has
no player then. `Session.Rests` says so; starting, waiting and the clock keep it. -/

namespace SpeechQueue

open Playback

namespace Session

variable {s : Session Traced} {server : Server} {p : Pending} {target stops : Nat}

/-! ## Waiting for the end of starts -/

/-- The end of a start is one for the engine and for those who wait; the clock stands still. -/
theorem finish_engine (p : Pending) (s : Session Traced) :
    (s.finish Traced.engine p).1.desk.engine = (Traced.engine.finishStart s.desk.engine).2.1 ∧
      (s.finish Traced.engine p).1.pending = s.pending.filter (·.ticket ≠ p.ticket) ∧
      (s.finish Traced.engine p).1.now = s.now := by
  simp only [finish]
  cases p.starter with
  | engine => cases (Traced.engine.finishStart s.desk.engine).1 <;> exact ⟨rfl, rfl, rfl⟩
  | controller =>
    cases (Traced.engine.finishStart s.desk.engine).1 with
    | none => exact ⟨rfl, rfl, rfl⟩
    | some result =>
      refine ⟨?_, rfl, rfl⟩
      simp only [finishController, after, endStart, Desk.finishInit]
      split
      · rfl
      · cases result <;> rfl

/-- The clock moves on at once when nothing falls due on the way. -/
theorem moveTo_early (early : ∀ due, s.due Traced.engine = some due → target < due) :
    s.moveTo Traced.engine target stops = (s.movedTo target, []) := by
  cases stops with
  | zero => rfl
  | succ stops =>
    rw [moveTo]
    cases due : s.due Traced.engine with
    | none => rfl
    | some time => exact if_neg (Nat.not_le_of_lt (early time due))

/-- With an idle engine, only starts fall due. -/
theorem due_idle (idle : s.desk.engine.Idle) : s.due Traced.engine = (s.pending.map (·.due)).min? := by
  rw [due, idle.due, Option.toList_none, List.append_nil]

/-- An idle engine with no start to wait for is where a server is at any time. -/
theorem refines_of_idle (idle : s.desk.engine.Idle) (none_pending : s.pending = []) :
    ∃ server, s.Refines server := by
  obtain ⟨server, represents, silent, empty⟩ := idle
  exact ⟨{ server with now := s.now }, none_pending, rfl, represents.setNow s.now,
    .idle silent empty⟩

/-- When a start is due, the next tick ends one, and the engine is idle again. -/
theorem tick_idle (idle : s.desk.engine.Idle) (awaited : p ∈ s.pending) (past : p.due ≤ s.now) :
    (s.tick Traced.engine).1.desk.engine.Idle ∧
      (s.tick Traced.engine).1.pending.length < s.pending.length ∧
      (∀ q ∈ (s.tick Traced.engine).1.pending, q ∈ s.pending) := by
  have isDue : ∃ q ∈ s.pending, decide (q.due ≤ s.now) = true := ⟨p, awaited, decide_eq_true past⟩
  obtain ⟨q, found⟩ := Option.isSome_iff_exists.mp (List.find?_isSome.mpr isDue)
  obtain ⟨engine, pending, now⟩ := finish_engine q s
  have member : q ∈ s.pending := List.mem_of_find?_eq_some found
  rw [tick_due found]
  refine ⟨?_, ?_, ?_⟩
  · change (Traced.engine.settle (s.finish Traced.engine q).1.now
      (s.finish Traced.engine q).1.desk.engine).1.Idle
    rw [engine]
    exact idle.finishStart _
  · change (s.finish Traced.engine q).1.pending.length < _
    rw [pending]
    exact List.length_filter_lt_length_iff_exists.mpr ⟨q, member, by simp⟩
  · intro other left
    change other ∈ (s.finish Traced.engine q).1.pending at left
    rw [pending] at left
    exact List.mem_of_mem_filter left

/-- There are stops for all starts that are awaited, so a clock that moves beyond their ends has
seen all of them. -/
theorem moveTo_over (idle : s.desk.engine.Idle) (past : ∀ p ∈ s.pending, p.due ≤ target)
    (enough : s.pending.length ≤ stops) :
    ∃ server, (s.moveTo Traced.engine target stops).1.Refines server := by
  induction stops generalizing s with
  | zero => exact refines_of_idle idle (List.length_eq_zero_iff.mp (Nat.le_zero.mp enough))
  | succ stops ih =>
    cases due : s.due Traced.engine with
    | none =>
      have none_pending : s.pending = [] := by
        rw [due_idle idle, List.min?_eq_none_iff, List.map_eq_nil_iff] at due
        exact due
      rw [moveTo_early (by simp [due])]
      exact refines_of_idle idle none_pending
    | some time =>
      rw [due_idle idle] at due
      obtain ⟨p, awaited, rfl⟩ := List.mem_map.mp (List.min?_mem due)
      rw [← due_idle idle] at due
      obtain ⟨still, fewer, remaining⟩ := tick_idle (s := s.movedTo p.due) idle awaited
        (Nat.le_max_right _ _)
      simp only [moveTo, due, if_pos (past p awaited)]
      refine ih still ?_ ?_
      · intro q left
        exact past q (remaining q left)
      · change _ < s.pending.length at fewer
        exact Nat.le_of_lt_succ (Nat.lt_of_lt_of_le fewer enough)

/-- Waiting beyond the end of all starts, with an idle engine. -/
theorem advanceTo_over (idle : s.desk.engine.Idle) (past : ∀ p ∈ s.pending, p.due ≤ target) :
    ∃ server, (s.advanceTo Traced.engine target).1.Refines server := by
  have settled : (s.settle Traced.engine).1.desk.engine.Idle := idle.settle s.now
  exact moveTo_over settled past (Nat.le_add_right _ _)

/-! ## Between two requests -/

/-- A controller that does not wait for its engine, or no longer. -/
def IsBegun (c : Controller) : Prop := c.phase = .initializing ∨ c.phase = .closed

/-- How a session is between two requests: either its engine is where some server is, and no start
is awaited, or the start of the controller is awaited, and then the engine has no player. -/
inductive Rests (s : Session Traced) : Prop
  | free (server : Server) : s.Refines server → Rests s
  | awaiting (p : Pending) : s.pending = [p] → p.starter = .controller →
      IsBegun s.desk.controller → p.ticket < s.tickets →
      p.due ≤ Timer.milliseconds.after s.now s.desk.engine.console.setup.initDelay →
      s.desk.engine.Vacant → Rests s

namespace Rests

theorem of_refines (refines : ∃ server, s.Refines server) : s.Rests := by
  obtain ⟨server, refines⟩ := refines
  exact .free server refines

/-- What is awaited leaves the engine with nothing to do. -/
theorem idle (rests : s.Rests) (awaited : p ∈ s.pending) : s.desk.engine.Idle := by
  cases rests with
  | free server refines => simp [refines.pending] at awaited
  | awaiting q pending starter begun fresh soon vacant => exact vacant.1

/-- Whatever is awaited has got a ticket, and is over before a start that begins now. -/
theorem pending (rests : s.Rests) (awaited : p ∈ s.pending) :
    p.ticket < s.tickets ∧
      p.due ≤ Timer.milliseconds.after s.now s.desk.engine.console.setup.initDelay := by
  cases rests with
  | free server refines => simp [refines.pending] at awaited
  | awaiting q pending starter begun fresh soon vacant =>
    obtain rfl : p = q := by simpa [pending] using awaited
    exact ⟨fresh, soon⟩

/-- The clock moves on, and a start that is over by then ends. -/
theorem advanceTo (rests : s.Rests) (within : s.now ≤ target) :
    (s.advanceTo Traced.engine target).1.Rests := by
  cases rests with
  | free server refines => exact .free _ (refines.advanceTo within)
  | awaiting p pending starter begun fresh soon vacant =>
    by_cases past : p.due ≤ target
    · refine of_refines (advanceTo_over vacant.1 ?_)
      intro q awaited
      rw [pending, List.mem_singleton] at awaited
      exact awaited ▸ past
    · have settled : (s.settle Traced.engine).1.desk.engine.Vacant := vacant.settle s.now
      have early : ∀ due, (s.settle Traced.engine).1.due Traced.engine = some due → target < due := by
        intro due falls
        rw [due_idle settled.1, show (s.settle Traced.engine).1.pending = [p] from pending] at falls
        obtain rfl : p.due = due := by simpa using falls
        exact Nat.lt_of_not_le past
      rw [Session.advanceTo]
      dsimp only
      rw [moveTo_early early]
      refine .awaiting p pending starter begun fresh ?_ settled
      exact Nat.le_trans soon (Timer.after_mono _ (Nat.le_max_left _ _) _)

theorem waitFor (rests : s.Rests) (ticket : Nat) :
    (s.waitFor Traced.engine ticket).2.1.Rests := by
  rw [Session.waitFor]
  cases found : s.pending.find? (·.ticket = ticket) with
  | none => exact rests
  | some p =>
    have awaited := List.mem_of_find?_eq_some found
    refine of_refines (advanceTo_over (rests.idle awaited) ?_)
    intro q member
    -- There is never more than one start to wait for.
    cases rests with
    | free server refines => simp [refines.pending] at awaited
    | awaiting r pending starter begun fresh soon vacant =>
      rw [pending, List.mem_singleton] at awaited member
      rw [member, awaited]

end Rests

/-! ## Starting -/

/-- What a wish to start does to a session: it is answered at once, or the engine, which has no
player then, takes its time over it. -/
inductive Begins (starter : Starter) (s t : Session Traced) : Prop
  | answered : t.desk.engine = s.desk.engine → t.pending = s.pending → t.now = s.now →
      t.tickets = s.tickets + 1 → (IsBegun s.desk.controller → IsBegun t.desk.controller) →
      Begins starter s t
  | awaited : t.desk.engine = s.desk.engine → s.desk.engine.console.installed = none →
      t.pending = s.pending ++ [⟨s.tickets,
        Timer.milliseconds.after s.now s.desk.engine.console.setup.initDelay, starter⟩] →
      t.now = s.now → t.tickets = s.tickets + 1 →
      (starter = .controller → ¬ IsBegun s.desk.controller ∧ IsBegun t.desk.controller) →
      Begins starter s t

/-- Being asked to start does not change the engine, and only one without a player takes its time. -/
theorem start_cases (t : Traced) :
    (∃ result records, Traced.engine.start t = (.answered result, t, records)) ∨
      t.console.installed = none ∧
        ∃ records, Traced.engine.start t = (.awaited t.console.setup.initDelay, t, records) := by
  cases installed : t.console.installed with
  | some p =>
    refine .inl ⟨.ok (), [], ?_⟩
    simp [Traced.engine, Console.engine, Console.start, installed, Traced.withConsole]
  | none =>
    by_cases still : t.console.setup.wordsPerMinute = 0
    · refine .inl ⟨.error (.initFailed "words_per_minute cannot be 0"), [], ?_⟩
      simp [Traced.engine, Console.engine, Console.start, installed, still, Traced.withConsole]
    · refine .inr ⟨rfl, [], ?_⟩
      simp [Traced.engine, Console.engine, Console.start, installed, still, Traced.withConsole]

/-- A result that the engine has at once leaves it as it is. -/
theorem finishController_begins (ticket : Nat) (result : Except EngineError Unit)
    (s : Session Traced) :
    (s.finishController Traced.engine ticket result).1.desk.engine = s.desk.engine ∧
      (s.finishController Traced.engine ticket result).1.pending = s.pending ∧
      (s.finishController Traced.engine ticket result).1.now = s.now ∧
      (s.finishController Traced.engine ticket result).1.tickets = s.tickets := by
  refine ⟨?_, rfl, rfl, rfl⟩
  simp only [finishController, after, endStart, Desk.finishInit]
  split
  · rfl
  · cases result <;> rfl

theorem begin_begins (starter : Starter) (s : Session Traced) :
    Begins starter s (s.begin Traced.engine starter).2.1 := by
  have started := start_cases s.desk.engine
  cases starter with
  | engine =>
    rcases started with ⟨result, records, start⟩ | ⟨closed, records, start⟩
    · simp only [begin, start]
      exact .answered rfl rfl rfl rfl id
    · simp only [begin, start]
      exact .awaited rfl closed rfl rfl rfl Starter.noConfusion
  | controller =>
    cases phase : s.desk.controller.phase with
    | closed | ready | initializing =>
      simp only [begin, Desk.beginInit, phase, after]
      exact .answered rfl rfl rfl rfl id
    | uninitialized =>
      have fresh : ¬ IsBegun s.desk.controller := by simp [IsBegun, phase]
      cases tried : s.desk.controller.attempted with
      | true =>
        simp only [begin, Desk.beginInit, phase, after, tried, if_true]
        exact .answered rfl rfl rfl rfl id
      | false =>
        rcases started with ⟨result, records, start⟩ | ⟨closed, records, start⟩
        · simp only [begin, Desk.beginInit, phase, after, tried, Bool.false_eq_true, if_false, start]
          obtain ⟨engine, pending, now, tickets⟩ := finishController_begins s.tickets result
            { s with
              desk := ⟨{ s.desk.controller with phase := .initializing, attempted := true },
                s.desk.engine⟩
              tickets := s.tickets + 1 }
          exact .answered engine pending now tickets fun begun => absurd begun fresh
        · simp only [begin, Desk.beginInit, phase, after, tried, Bool.false_eq_true, if_false, start]
          exact .awaited rfl closed rfl rfl rfl fun _ => ⟨fresh, .inl rfl⟩

namespace Rests

variable {t : Session Traced} {starter : Starter}

/-- A session that differs in nothing that matters here is at rest as well. -/
theorem of_same (rests : s.Rests) (engine : t.desk.engine = s.desk.engine)
    (pending : t.pending = s.pending) (now : t.now = s.now) (tickets : s.tickets ≤ t.tickets)
    (begun : IsBegun s.desk.controller → IsBegun t.desk.controller) : t.Rests := by
  cases rests with
  | free server refines =>
    refine .free server ⟨pending.trans refines.pending, now.trans refines.now, ?_, refines.settled⟩
    rw [engine]
    exact refines.represents
  | awaiting p awaited starter isBegun fresh soon vacant =>
    refine .awaiting p (pending.trans awaited) starter (begun isBegun)
      (Nat.lt_of_lt_of_le fresh tickets) ?_ ?_
    · rw [now, engine]
      exact soon
    · rw [engine]
      exact vacant

/-- The engine of a session at rest has nothing to do when it has no player. -/
theorem vacant (rests : s.Rests) (closed : s.desk.engine.console.installed = none) :
    s.desk.engine.Vacant := by
  cases rests with
  | free server refines => exact refines.represents.vacant closed
  | awaiting p pending starter begun fresh soon vacant => exact vacant

/-- The start of a controller may be awaited. -/
theorem begin_controller (rests : s.Rests) (begins : Begins .controller s t) : t.Rests := by
  cases begins with
  | answered engine pending now tickets begun =>
    exact rests.of_same engine pending now (tickets ▸ Nat.le_succ _) begun
  | awaited engine closed pending now tickets begun =>
    obtain ⟨fresh, isBegun⟩ := begun rfl
    have vacant := rests.vacant closed
    cases rests with
    | awaiting p _ _ already => exact absurd already fresh
    | free server refines =>
      rw [refines.pending, List.nil_append] at pending
      refine .awaiting _ pending rfl isBegun (tickets ▸ Nat.lt_succ_self _) ?_ ?_
      · rw [now, engine]
      · rw [engine]
        exact vacant

/-- The start that an engine takes its time over is waited for, and with it any other one. -/
theorem waitFor_begun (rests : s.Rests)
    (engine : t.desk.engine = s.desk.engine) (closed : s.desk.engine.console.installed = none)
    (pending : t.pending = s.pending ++ [⟨s.tickets,
      Timer.milliseconds.after s.now s.desk.engine.console.setup.initDelay, starter⟩]) :
    (t.waitFor Traced.engine s.tickets).2.1.Rests := by
  have earlier : s.pending.find? (·.ticket = s.tickets) = none := by
    rw [List.find?_eq_none]
    intro p awaited same
    have fresh := (rests.pending awaited).1
    simp only [decide_eq_true_eq] at same
    omega
  have idle : t.desk.engine.Idle := engine ▸ (rests.vacant closed).1
  rw [Session.waitFor, pending, List.find?_append, earlier, Option.none_or,
    List.find?_cons_of_pos (by simp)]
  refine of_refines (advanceTo_over idle ?_)
  intro p awaited
  rw [pending] at awaited
  rcases List.mem_append.mp awaited with before | last
  · exact (rests.pending before).2
  · rw [List.mem_singleton.mp last]

/-- Whoever starts and waits leaves the session at rest. -/
theorem startAndWait (rests : s.Rests) (starter : Starter) :
    (s.startAndWait Traced.engine starter).2.1.Rests := by
  have begins := begin_begins starter s
  have ticket : (s.begin Traced.engine starter).1 = s.tickets := by
    cases starter <;> simp only [begin] <;> split <;> rfl
  change ((s.begin Traced.engine starter).2.1.waitFor Traced.engine
    (s.begin Traced.engine starter).1).2.1.Rests
  rw [ticket]
  cases begins with
  | answered engine pending now tickets begun =>
    exact (rests.of_same engine pending now (tickets ▸ Nat.le_succ _) begun).waitFor _
  | awaited engine closed pending => exact rests.waitFor_begun engine closed pending

end Rests

end Session

end SpeechQueue
