import SpeechQueue.Proofs.Conservation
import SpeechQueue.Proofs.ObligingSessions

/-! # A stand-in for the console engine

Somebody who has only a controller cannot tell the engine that records from the console engine, if the
one starts as late and knows the language as well as the other, and no more is submitted than the
console engine has room for: both oblige, so both are seen as the engine without a state
(`Session.observe_outline`). The one exception is a console engine that is to have more room than a
channel can have: that one breaks down when it is started. Main statement: `Console.standsIn_iff`. -/

namespace SpeechQueue

variable {σ : Type} {engine : Engine σ} {delay : Duration} {locale : String} {language : LanguageStatus}
  {room n : Nat} {s : Session σ}

/-! ## What can be done with a controller -/

/-- What somebody who has only a controller can do: call it, listen to it, and let time pass. -/
inductive Operation where
  /-- Starts, and waits for the end of the start. -/
  | init
  | spawnInit
  | joinInit
  | wait (span : Duration)
  | submitUser (text : String) (mode : Mode)
  | submitSystem (text : String)
  | submit (text : String) (source : Source)
  | submitAll (texts : List String)
  | shutDown
  | isReady
  | listen (listener : ListenerId)

namespace Operation

/-- The session after the operation, with the reply and the effects. -/
def apply (engine : Engine σ) (s : Session σ) : Operation → Session.Reply × Session σ × List Effect
  | .init => s.handle engine .init
  | .spawnInit => s.handle engine .spawnInit
  | .joinInit => s.handle engine .joinInit
  | .wait span => s.handle engine (.advance span)
  | .submitUser text mode => s.handle engine (.submitUser text mode)
  | .submitSystem text => s.handle engine (.submitSystem text)
  | .submit text source => s.handle engine (.submit text source)
  | .submitAll texts => s.handle engine (.submitAll texts)
  | .shutDown => s.handle engine .shutDown
  | .isReady => s.handle engine .isReady
  | .listen listener => (.done, { s with desk := s.desk.setListener listener }, [])

/-- How many utterances it submits. -/
def utterances : Operation → Nat
  | .submitUser .. | .submitSystem _ | .submit .. => 1
  | .submitAll texts => texts.length
  | _ => 0

/-- How many utterances are submitted in turn. -/
def submitted : List Operation → Nat
  | [] => 0
  | op :: ops => op.utterances + submitted ops

end Operation

/-- What can be seen of an operation: its reply, the controller after it, and who was told what. -/
structure Observation where
  reply : Session.Reply
  controller : Controller
  told : List (ListenerId × String)

namespace Session

/-- What can be seen of operations in turn. -/
def observe (engine : Engine σ) (s : Session σ) : List Operation → List Observation
  | [] => []
  | op :: ops =>
    let (reply, s, effects) := op.apply engine s
    ⟨reply, s.desk.controller, Effect.told effects⟩ :: s.observe engine ops

/-- The reply to the first operation is part of what can be seen. -/
theorem reply_of_observe {τ : Type} {other : Engine τ} {t : Session τ} {op : Operation}
    {ops : List Operation} (same : s.observe engine (op :: ops) = t.observe other (op :: ops)) :
    (op.apply engine s).1 = (op.apply other t).1 := by
  simp only [observe, List.cons.injEq, Observation.mk.injEq] at same
  exact same.1.1

variable {obliging : Obliging engine delay locale language room}

theorem handle_alike (request : Request)
    (performed : Alike obliging n (s.perform engine request)
      (s.outline.perform (.willing delay language) request)) :
    Alike obliging n (s.handle engine request)
      (s.outline.handle (.willing delay language) request) := by
  let t := (s.perform engine request).2.1
  have advanced : Alike obliging n
      ((s.perform engine request).1, t.advanceTo engine t.now)
      ((s.perform engine request).1, t.outline.advanceTo (.willing delay language) t.outline.now) :=
    ⟨rfl, advanceTo_tracks performed.tracks.standing t.now⟩
  exact performed.andThen (fun reply t => (reply, t.advanceTo (.willing delay language) t.now)) advanced

theorem spawnInit_alike (standing : Standing obliging n s) :
    Alike obliging n (s.perform engine .spawnInit)
      (s.outline.perform (.willing delay language) .spawnInit) := by
  obtain ⟨ticket, begun⟩ := begin_alike standing
  refine ⟨rfl, ?_, begun.told, begun.standing.of_same rfl rfl⟩
  have outlined := begun.outline
  simp only [perform]
  rw [← ticket, ← outlined]
  rfl

theorem joinInit_alike (standing : Standing obliging n s) :
    Alike obliging n (s.perform engine .joinInit)
      (s.outline.perform (.willing delay language) .joinInit) := by
  simp only [perform, show s.outline.unjoined = s.unjoined from rfl]
  cases s.unjoined with
  | nil => exact ⟨rfl, standing.tracks⟩
  | cons ticket rest =>
    have joined : Standing obliging n { s with unjoined := rest } := standing.of_same rfl rfl
    have waited := waitFor_alike joined ticket
    exact ⟨congrArg replyTo waited.same, waited.tracks⟩

theorem listen_alike (standing : Standing obliging n s) (listener : ListenerId) :
    Alike obliging n (Operation.apply engine s (.listen listener))
      (Operation.apply (.willing delay language) s.outline (.listen listener)) := by
  refine ⟨rfl, rfl, rfl, ?_⟩
  cases standing with
  | untouched phase untried idle chosen few fresh =>
    exact .untouched phase untried idle chosen few fresh
  | starting p phase awaited starter chosen few fresh =>
    exact .starting p phase awaited starter chosen few fresh
  | serving phase idle takes => exact .serving phase idle takes
  | leaving p phase awaited starter silent => exact .leaving p phase awaited starter silent
  | gone phase idle => exact .gone phase idle

/-- With an engine that obliges, an operation is what it is with the engine without a state. -/
theorem apply_alike (op : Operation) (standing : Standing obliging (n + op.utterances) s) :
    Alike obliging n (op.apply engine s) (op.apply (.willing delay language) s.outline) := by
  cases op with
  | init => exact handle_alike .init (startAndWait_alike (n := n) standing)
  | spawnInit => exact handle_alike .spawnInit (spawnInit_alike (n := n) standing)
  | joinInit => exact handle_alike .joinInit (joinInit_alike (n := n) standing)
  | wait span =>
    have waited := advanceTo_tracks (n := n) standing (s.now + span.nanoseconds)
    exact handle_alike (.advance span) ⟨rfl, waited⟩
  | submitUser text mode =>
    obtain ⟨result, tracks⟩ := submitUser_alike (n := n) standing text mode
    exact handle_alike (.submitUser text mode) ⟨congrArg Reply.receipt result, tracks⟩
  | submitSystem text =>
    obtain ⟨result, tracks⟩ := submission_alike (n := n) (s := s.freshId.2)
      (standing.of_same rfl rfl)
      (obliging.submitSystem s.freshId.1 text fun ready => (standing.of_ready ready).2)
    exact handle_alike (.submitSystem text) ⟨congrArg Reply.receipt result, tracks⟩
  | submit text source =>
    obtain ⟨result, tracks⟩ := submission_alike (n := n) (s := s.freshId.2)
      (standing.of_same rfl rfl)
      (obliging.submit s.freshId.1 text (fun ready => (standing.of_ready ready).2) source)
    exact handle_alike (.submit text source) ⟨congrArg Reply.receipt result, tracks⟩
  | submitAll texts =>
    obtain ⟨results, tracks⟩ := submitAll_alike (n := n) texts standing
    exact handle_alike (.submitAll texts) ⟨congrArg Reply.receipts results, tracks⟩
  | shutDown => exact handle_alike .shutDown ⟨rfl, (shutDown_alike (n := n) standing).tracks⟩
  | isReady => exact handle_alike .isReady ⟨rfl, Standing.tracks (n := n) standing⟩
  | listen listener => exact listen_alike (n := n) standing listener

/-- What can be seen of operations with an engine that obliges can be seen of them with the engine
without a state. -/
theorem observe_outline (ops : List Operation)
    (standing : Standing obliging (Operation.submitted ops) s) :
    s.observe engine ops = s.outline.observe (.willing delay language) ops := by
  induction ops generalizing s with
  | nil => rfl
  | cons op ops ih =>
    rw [Operation.submitted, Nat.add_comm] at standing
    obtain ⟨reply, tracks⟩ := apply_alike op standing
    have later := ih tracks.standing
    have controller := congrArg (·.desk.controller) tracks.outline
    simp only [observe]
    rw [reply, later, tracks.told, tracks.outline]
    exact congrArg (fun c => Observation.mk _ c _ :: _) controller

/-- Before anything has happened, a session with a fresh engine takes what the engine has room for. -/
theorem new_standing {state : σ} (fresh : obliging.IsFresh state) (few : n ≤ room)
    {setup : Controller.Setup} (chosen : setup.locale = locale) :
    Standing obliging n (.new setup state) :=
  .untouched rfl rfl rfl chosen few fresh

end Session

/-! ## Engines that oblige -/

/-- An engine that records obliges, if it takes its time over a start that succeeds, and refuses
nothing. -/
def Recording.obliging (setup : Recording.Setup) (locale : String) (room : Nat)
    (delayed : setup.initDelay ≠ .zero) (succeeds : setup.initError = none)
    (accepts : setup.rejects = false) :
    Obliging Recording.engine setup.initDelay locale setup.language room where
  IsFresh r := r.setup = setup ∧ r.isShutDown = false
  IsSilent r := r.setup = setup
  Takes _ r := r.setup = setup ∧ r.isShutDown = false
  silent fresh := fresh.1
  fewer takes := takes
  start := by
    rintro r ⟨rfl, running⟩
    simp [Recording.engine, record, delayed, running]
  finishStart := by
    rintro r rfl
    simp [Recording.engine, startResult, succeeds]
  started fresh := fresh
  setLanguage := by
    rintro - r ⟨rfl, running⟩
    exact ⟨rfl, rfl, running⟩
  setRate _ takes := takes
  setPitch _ takes := takes
  speak := by
    rintro - r speech ⟨rfl, running⟩
    simp [Recording.engine, speak, record, running, accepts]
  shutDown fresh := fresh.1
  settleFresh _ fresh := fresh
  settleSilent _ silent := silent
  settleTakes _ takes := takes
  due _ := rfl
  backlog _ := rfl

/-- A player never makes its channel longer. -/
theorem Player.Path.length_waiting {wordsPerMinute generation now : Nat} {attached : Bool}
    {p q : Player} {events : List Playback.Event}
    (path : Path wordsPerMinute generation now attached p events q) :
    q.waiting.length ≤ p.waiting.length := by
  induction path with
  | nil => exact Nat.le_refl _
  | cons step _ ih => exact Nat.le_trans ih step.length_waiting

namespace Console

variable {setup : Setup} {c : Console}

/-- A console engine of a setup has nothing to play. -/
structure IsIdle (setup : Setup) (c : Console) : Prop where
  same : c.setup = setup
  detached : c.detached = []
  installed : c.installed = none

/-- A console engine of a setup has a player with room for so many more utterances. -/
structure HasRoom (setup : Setup) (n : Nat) (c : Console) : Prop where
  same : c.setup = setup
  room : ∃ p, c.installed = some p ∧ p.waiting.length + n ≤ max 1 setup.queueCapacity

theorem IsIdle.play (idle : c.IsIdle setup) (now : Nat) : IsIdle setup (c.play now).1 := by
  obtain ⟨same, detached, installed⟩ := idle
  constructor <;> simp [Console.play, same, detached, installed]

theorem IsIdle.finishStart (idle : c.IsIdle setup) (fits : max 1 setup.queueCapacity ≤ maxCapacity) :
    c.finishStart.1 = some (.ok ()) ∧ HasRoom setup (max 1 setup.queueCapacity) c.finishStart.2.1 := by
  obtain ⟨rfl, detached, installed⟩ := idle
  have small : ¬ maxCapacity < c.capacity := Nat.not_lt_of_le fits
  simp only [Console.finishStart, small, if_false, true_and]
  exact ⟨rfl, .new c.generation, rfl, by simp [Player.new]⟩

theorem HasRoom.play (some : c.HasRoom setup n) (now : Nat) : HasRoom setup n (c.play now).1 := by
  obtain ⟨same, p, installed, room⟩ := some
  refine ⟨by simp [Console.play, same], _, by rw [play_installed, installed]; rfl, ?_⟩
  have shorter : ((p.settle c.setup.wordsPerMinute c.generation now true).1).waiting.length ≤ _ :=
    (Player.settle_path p).length_waiting
  exact Nat.le_trans (Nat.add_le_add_right shorter n) room

theorem HasRoom.speak (some : c.HasRoom setup (n + 1)) (speech : Speech) :
    (c.speak speech).1 = .ok () ∧ HasRoom setup n (c.speak speech).2.1 := by
  obtain ⟨rfl, p, installed, room⟩ := some
  have free : p.waiting.length < c.capacity := by
    rw [capacity]
    omega
  rw [speak_accepted speech installed free]
  refine ⟨rfl, ?_, _, rfl, ?_⟩
  · cases speech.mode <;> rfl
  · rw [List.length_append, List.length_singleton]
    omega

/-- A console engine obliges, if it has a speed and takes its time over its start, and a channel can
have the room that it is to have. -/
def obliging (setup : Setup) (locale : String) (speed : setup.wordsPerMinute ≠ 0)
    (fits : max 1 setup.queueCapacity ≤ maxCapacity) :
    Obliging Console.engine setup.initDelay locale (languageStatus setup locale)
      (max 1 setup.queueCapacity) where
  IsFresh := IsIdle setup
  IsSilent := IsIdle setup
  Takes := HasRoom setup
  silent fresh := fresh
  fewer := by
    rintro n c ⟨same, p, installed, room⟩
    exact ⟨same, p, installed, by omega⟩
  start := by
    rintro c ⟨rfl, detached, installed⟩
    simp only [Console.engine, Console.start, installed, speed, Option.isSome_none, Bool.false_eq_true,
      if_false, true_and]
    exact ⟨rfl, detached, installed⟩
  finishStart idle := (idle.finishStart fits).1
  started idle := (idle.finishStart fits).2
  setLanguage := by
    rintro n c ⟨rfl, room⟩
    exact ⟨rfl, rfl, room⟩
  setRate := by
    rintro n c rate ⟨rfl, room⟩
    exact ⟨rfl, room⟩
  setPitch := by
    rintro n c pitch ⟨rfl, room⟩
    exact ⟨rfl, room⟩
  speak speech room := room.speak speech
  shutDown := by
    rintro c ⟨rfl, detached, installed⟩
    exact ⟨rfl, by simp [Console.engine, Console.shutDown, detached, installed], rfl⟩
  settleFresh now idle := idle.play now
  settleSilent now idle := idle.play now
  settleTakes now room := room.play now
  due := by
    rintro c ⟨rfl, detached, installed⟩
    simp [Console.engine, Console.due, players, detached, installed]
  backlog := by
    rintro c ⟨rfl, detached, installed⟩
    simp [Console.engine, Console.backlog, players, detached, installed]

/-- The engine that records in place of a console engine, for a controller with a locale. -/
def Setup.standIn (setup : Setup) (locale : String) : Recording.Setup :=
  ⟨none, languageStatus setup locale, setup.initDelay, false⟩

end Console

/-! ## Who can tell them apart -/

/-- The engine without a state starts when it is asked to. -/
theorem Session.init_willing (controller : Controller.Setup) :
    ((new controller ()).handle (.willing delay language) .init).1 =
      .started (.controller (.ok language)) := by
  simp [new, Controller.new, handle, perform, startAndWait, begin, after, Desk.beginInit,
    Engine.willing, waitFor, advanceTo, settle, moveTo, due, tick, finish, finishController,
    Desk.finishInit, endStart, replyTo]

/-- A console engine that is to have too much room breaks down instead. -/
theorem Session.init_broken (controller : Controller.Setup) {setup : Console.Setup}
    (speed : setup.wordsPerMinute ≠ 0) (big : Console.maxCapacity < max 1 setup.queueCapacity) :
    ((new controller (Console.new setup)).handle Console.engine .init).1 = .started .broken := by
  simp [new, Controller.new, handle, perform, startAndWait, begin, after, Desk.beginInit, waitFor,
    advanceTo, settle, moveTo, due, tick, finish, endStart, replyTo, Console.engine, Console.new,
    Console.start, Console.play, Console.due, Console.players, Console.backlog, Console.finishStart,
    Console.capacity, speed, big]

namespace Console

variable (controller : Controller.Setup) (setup : Setup)

/-- With the stand-in everything is seen that is seen with the engine without a state. -/
theorem Setup.observe_standIn (delayed : setup.initDelay ≠ .zero) (ops : List Operation) :
    (Session.new controller (Recording.new (setup.standIn controller.locale))).observe
        Recording.engine ops =
      (Session.new controller ()).observe
        (.willing setup.initDelay (languageStatus setup controller.locale)) ops := by
  let obliging := Recording.obliging (setup.standIn controller.locale) controller.locale
    (Operation.submitted ops) delayed rfl rfl
  have fresh : obliging.IsFresh (Recording.new (setup.standIn controller.locale)) := ⟨rfl, rfl⟩
  exact Session.observe_outline ops (Session.new_standing fresh (Nat.le_refl _) rfl)

/-- When a console engine breaks down, its stand-in has started. -/
theorem Setup.observe_init (speed : setup.wordsPerMinute ≠ 0) (delayed : setup.initDelay ≠ .zero)
    (big : maxCapacity < max 1 setup.queueCapacity) :
    (Session.new controller (Recording.new (setup.standIn controller.locale))).observe
        Recording.engine [.init] ≠
      (Session.new controller (Console.new setup)).observe Console.engine [.init] := by
  rw [setup.observe_standIn controller delayed]
  intro same
  have replies := Session.reply_of_observe same
  rw [Operation.apply, Operation.apply, Session.init_willing,
    Session.init_broken controller speed big] at replies
  cases replies

/-- Nobody can tell the stand-in from a console engine that is not given more than it has room for,
unless a channel cannot have that room. -/
theorem standsIn_iff (speed : setup.wordsPerMinute ≠ 0) (delayed : setup.initDelay ≠ .zero) :
    (∀ ops, Operation.submitted ops ≤ setup.queueCapacity →
      (Session.new controller (Recording.new (setup.standIn controller.locale))).observe
          Recording.engine ops =
        (Session.new controller (Console.new setup)).observe Console.engine ops) ↔
      max 1 setup.queueCapacity ≤ maxCapacity := by
  constructor
  · intro same
    by_contra big
    exact setup.observe_init controller speed delayed (Nat.lt_of_not_le big)
      (same [.init] (Nat.zero_le _))
  · intro fits ops few
    let obliging := Console.obliging setup controller.locale speed fits
    have fresh : obliging.IsFresh (Console.new setup) := ⟨rfl, rfl, rfl⟩
    have room := Nat.le_trans few (Nat.le_max_right 1 setup.queueCapacity)
    rw [setup.observe_standIn controller delayed,
      Session.observe_outline ops (Session.new_standing fresh room rfl)]
    rfl

/-- Nobody can tell the stand-in from a console engine with the usual setup. -/
theorem standsIn_of_default :
    Setup.default.wordsPerMinute ≠ 0 ∧ Setup.default.initDelay ≠ .zero ∧
      ∀ ops, Operation.submitted ops ≤ Setup.default.queueCapacity →
        (Session.new .default (Recording.new (Setup.default.standIn Controller.defaultLocale))).observe
            Recording.engine ops =
          (Session.new .default (Console.new .default)).observe Console.engine ops :=
  ⟨by decide, by decide, (standsIn_iff .default .default (by decide) (by decide)).mpr (by decide)⟩

/-- A start tells the stand-in from a console engine that is to have room for one utterance more than a
channel can have. -/
theorem told_apart_by_start :
    let setup : Setup := { Setup.default with queueCapacity := 2305843009213693952 }
    setup.wordsPerMinute ≠ 0 ∧ setup.initDelay ≠ .zero ∧
      Operation.submitted [.init] ≤ setup.queueCapacity ∧
      (Session.new .default (Recording.new (setup.standIn Controller.defaultLocale))).observe
          Recording.engine [.init] ≠
        (Session.new .default (Console.new setup)).observe Console.engine [.init] :=
  ⟨by decide, by decide, Nat.zero_le _,
    Setup.observe_init .default _ (by decide) (by decide) (by decide)⟩

end Console

end SpeechQueue
