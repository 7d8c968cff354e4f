import SpeechQueue.Proofs.RestingSessions

/-! # A burst of texts

What becomes of texts that the user submits one right after the other, before the player can take any
of them out of its channel. As many as there is room for are accepted, and every later one is refused;
the parameters follow all of them. As time passes the player completes what it had and what was
accepted, in order. Main statement: `absorbs_burst`, for a session after any requests. -/

namespace SpeechQueue

open Playback

/-! ## Speaking to the end -/

namespace Server

/-- The job that was spoken to its end. -/
def Milestone.completed? : Milestone → Option Job
  | .completed job => some job
  | _ => none

/-- The jobs that were spoken to their end. -/
def completedJobs (log : List (Nat × Milestone)) : List Job := log.filterMap (·.2.completed?)

/-- When all jobs are over, if the first of them starts at a time. -/
def overAt (timer : Timer) (wordsPerMinute free : Nat) (jobs : List Job) : Nat :=
  jobs.foldl (fun time job => timer.after time (job.duration wordsPerMinute)) free

theorem completedJobs_append (first second : List (Nat × Milestone)) :
    completedJobs (first ++ second) = completedJobs first ++ completedJobs second :=
  List.filterMap_append

/-- As many jobs are counted as played as there are. -/
theorem length_completedJobs (log : List (Nat × Milestone)) :
    (completedJobs log).length = log.countP (·.2.isCompletion) := by
  rw [completedJobs, List.length_filterMap_eq_countP]
  refine List.countP_congr fun entry _ => ?_
  obtain ⟨time, milestone⟩ := entry
  cases milestone <;> simp [Milestone.completed?, Milestone.isCompletion]

theorem le_overAt (timer : Timer) (wordsPerMinute free : Nat) (jobs : List Job) :
    free ≤ overAt timer wordsPerMinute free jobs := by
  induction jobs generalizing free with
  | nil => exact Nat.le_refl _
  | cons job rest ih => exact Nat.le_trans (timer.le_after _ _) (ih _)

variable {timer : Timer} {wordsPerMinute target now free ends : Nat} {job : Job} {waiting : List Job}

/-- By some time the jobs at the front are completed, and given enough time all of them. -/
def Service.Completes (timer : Timer) (wordsPerMinute target free : Nat) (waiting all : List Job)
    (service : Service) : Prop :=
  completedJobs service.log <+: all ∧
    (overAt timer wordsPerMinute free waiting ≤ target → completedJobs service.log = all)

theorem resume_some_completes
    (behind : (serve timer wordsPerMinute target ends waiting).Completes timer wordsPerMinute target
      ends waiting waiting) :
    (resume timer wordsPerMinute target now waiting (some (job, ends))).Completes timer
      wordsPerMinute target ends waiting (job :: waiting) := by
  obtain ⟨front, all⟩ := behind
  simp only [resume]
  split
  · constructor
    · exact (List.prefix_cons_inj job).mpr front
    · intro enough
      exact congrArg (job :: ·) (all enough)
  · next early =>
    constructor
    · exact List.nil_prefix
    · intro enough
      exact absurd (Nat.le_trans (le_overAt timer wordsPerMinute ends waiting) enough) early

theorem serve_completes (jobs : List Job) :
    (serve timer wordsPerMinute target free jobs).Completes timer wordsPerMinute target free jobs
      jobs := by
  induction jobs generalizing free with
  | nil => exact ⟨List.prefix_refl _, fun _ => rfl⟩
  | cons job rest ih =>
    rw [serve_cons]
    -- That the job has started is no completion, so the log counts as that of the job and the others.
    exact resume_some_completes ih

/-- The same for a server that may be speaking. -/
theorem resume_completes (waiting : List Job) (speaking : Option (Job × Nat)) :
    (resume timer wordsPerMinute target now waiting speaking).Completes timer wordsPerMinute target
      ((speaking.map Prod.snd).getD now) waiting ((speaking.map Prod.fst).toList ++ waiting) := by
  cases speaking with
  | none => exact serve_completes waiting
  | some spoken => exact resume_some_completes (serve_completes waiting)

end Server

/-! ## Texts in turn -/

/-- A text that the user said, with its identifier and the parameters it is spoken with. -/
structure Said where
  id : UtteranceId
  text : String
  parameters : Parameters

namespace Said

/-- The submission of the text. -/
def submission (said : Said) : Submission := ⟨said.id, said.text, .add, true⟩

/-- What the engine is asked to speak. -/
def speech (said : Said) : Speech := said.submission.speech said.parameters

/-- The engine at the rate and the pitch that the text is spoken with. -/
def dialled (c : Console) (said : Said) : Console :=
  { c with rate := said.parameters.rate, pitch := said.parameters.pitch }

/-- The receipt of the text. -/
def receipt (said : Said) : Receipt := ⟨said.id, .add, some said.parameters⟩

/-- The utterance in the channel. -/
def item (generation : Nat) (said : Said) : Item where
  text := said.text
  generation := generation
  rate := said.parameters.rate
  pitch := said.parameters.pitch
  volume := said.parameters.volume
  id := some said.id.text

/-- What there is to speak of the text. -/
def job (said : Said) : Job where
  text := said.text
  rate := said.parameters.rate
  pitch := said.parameters.pitch
  volume := said.parameters.volume
  id := some said.id.text

/-- The utterance goes into the channel with its parameters. -/
theorem item_dialled (c : Console) (said : Said) :
    (said.dialled c).item said.speech = said.item c.generation := by
  simp only [Console.item, dialled, speech, submission, Submission.speech, if_true,
    Option.bind_some, item, Attributes.volume?_withVolume_withId,
    Attributes.get?_withVolume_withId, Option.getD_some]

/-- Texts that are said in turn: each is resolved against the ones before, and the identifiers are
supplied one by one. -/
def inTurn : Nat → Parameters → List String → List Said
  | _, _, [] => []
  | ids, current, text :: rest =>
    let next := resolveParameters text current
    ⟨.supply ids, text, next⟩ :: inTurn (ids + 1) next rest

theorem inTurn_parameters (ids : Nat) (current : Parameters) (texts : List String) :
    (inTurn ids current texts).map parameters = resolveAll texts current := by
  induction texts generalizing ids current with
  | nil => rfl
  | cons text rest ih => exact congrArg (_ :: ·) (ih _ _)

end Said

/-- The answer to a text for which there is no room. -/
def refusedAsFull : Except QueueError Receipt :=
  .error (.speakFailed "Speak rejected: playback queue full")

theorem refusedAsFull_eq :
    refusedAsFull = .error (.ofSpeak (.rejected "playback queue full")) := by
  have message : "Speak rejected: playback queue full" =
    (EngineError.rejected "playback queue full").message := by decide +kernel
  rw [refusedAsFull, message]
  rfl

namespace Session

variable {s : Session Traced} {p : Player} {text : String}

/-- The session after texts were said, with what has been put into the channel of its player. -/
def holding (s : Session Traced) (p : Player) (items : List Item) (rate pitch : Single)
    (current : Parameters) (ids : Nat) : Session Traced :=
  { s with
    desk := ⟨{ s.desk.controller with parameters := current },
      s.desk.engine.withConsole { s.desk.engine.console with
        rate := rate
        pitch := pitch
        installed := some { p with waiting := p.waiting ++ items } }⟩
    ids := s.ids + ids }

/-- A text that the user says now. -/
def saying (s : Session Traced) (text : String) : Said :=
  ⟨.supply s.ids, text, resolveParameters text s.desk.controller.parameters⟩

/-- The engine decides about a text, whose parameters are in force then in any case. -/
theorem submitUser_saying (text : String) (ready : s.desk.controller.phase = .ready) :
    let said := s.saying text
    let spoken := (said.dialled s.desk.engine.console).speak said.speech
    (s.submitUser Traced.engine text .add).1 = said.submission.verdict said.parameters spoken.1 ∧
      (s.submitUser Traced.engine text .add).2.1 = { s with
        desk := ⟨{ s.desk.controller with parameters := said.parameters },
          s.desk.engine.withConsole spoken.2.1⟩
        ids := s.ids + 1 } := by
  obtain ⟨result, desk⟩ :=
    Desk.submitUser_offer Traced.engine s.desk (.supply s.ids) text .add ready
  refine ⟨result, ?_⟩
  change { s with
    desk := (s.desk.submitUser Traced.engine (.supply s.ids) text .add).desk
    ids := s.ids + 1 } = _
  rw [desk]
  rfl

/-- A text for which there is room is accepted. -/
theorem submitUser_room (text : String) (ready : s.desk.controller.phase = .ready)
    (installed : s.desk.engine.console.installed = some p)
    (room : p.waiting.length < s.desk.engine.console.capacity) :
    let said := s.saying text
    (s.submitUser Traced.engine text .add).1 = .ok said.receipt ∧
      (s.submitUser Traced.engine text .add).2.1 =
        s.holding p [said.item s.desk.engine.console.generation] said.parameters.rate
          said.parameters.pitch said.parameters 1 := by
  intro said
  obtain ⟨result, after⟩ := submitUser_saying text ready
  have accepted : (said.dialled s.desk.engine.console).speak said.speech = _ :=
    Console.speak_accepted said.speech installed room
  have item := said.item_dialled s.desk.engine.console
  rw [result, after, accepted, holding, ← item]
  exact ⟨rfl, rfl⟩

/-- A text that finds the channel full is refused, and its parameters stay all the same. -/
theorem submitUser_full (text : String) (ready : s.desk.controller.phase = .ready)
    (installed : s.desk.engine.console.installed = some p)
    (full : s.desk.engine.console.capacity ≤ p.waiting.length) :
    let said := s.saying text
    (s.submitUser Traced.engine text .add).1 = refusedAsFull ∧
      (s.submitUser Traced.engine text .add).2.1 =
        s.holding p [] said.parameters.rate said.parameters.pitch said.parameters 1 := by
  intro said
  obtain ⟨result, after⟩ := submitUser_saying text ready
  have refused : (said.dialled s.desk.engine.console).speak said.speech = _ :=
    Console.speak_full said.speech installed full
  rw [result, after, refused, holding, List.append_nil]
  constructor
  · exact refusedAsFull_eq.symm
  · rw [← installed]
    rfl

/-- What was held before does not matter to what is held after. -/
theorem holding_holding (p q : Player) (first items : List Item) (rate pitch rate' pitch' : Single)
    (current last : Parameters) (m n : Nat) :
    (s.holding p first rate pitch current m).holding q items rate' pitch' last n =
      s.holding q items rate' pitch' last (m + n) := by
  simp only [holding, Nat.add_assoc]
  rfl

/-- As many texts are accepted as there is room for, and the parameters follow all of them. -/
theorem submitAll_burst (texts : List String) (ready : s.desk.controller.phase = .ready)
    (installed : s.desk.engine.console.installed = some p) :
    let said := Said.inTurn s.ids s.desk.controller.parameters texts
    let free := s.desk.engine.console.capacity - p.waiting.length
    (s.submitAll Traced.engine texts).1 =
        ((said.take free).map fun text => .ok text.receipt) ++
          ((said.drop free).map fun _ => refusedAsFull) ∧
      ∃ rate pitch, (s.submitAll Traced.engine texts).2.1 =
        s.holding p ((said.take free).map (Said.item s.desk.engine.console.generation)) rate pitch
          (resolvedFrom s.desk.controller.parameters texts) texts.length := by
  intro said free
  induction texts generalizing s p with
  | nil =>
    refine ⟨?_, s.desk.engine.console.rate, s.desk.engine.console.pitch, ?_⟩
    · simp only [said, Said.inTurn, List.take_nil, List.drop_nil, List.map_nil, List.append_nil]
      rfl
    · simp only [said, Said.inTurn, List.take_nil, List.map_nil, holding, List.append_nil,
        ← installed]
      rfl
  | cons text rest ih =>
    let first := s.saying text
    let later := Said.inTurn (s.ids + 1) first.parameters rest
    have inTurn : said = first :: later := rfl
    change (s.submitUser Traced.engine text .add).1 ::
        ((s.submitUser Traced.engine text .add).2.1.submitAll Traced.engine rest).1 = _ ∧
      ∃ rate pitch,
        ((s.submitUser Traced.engine text .add).2.1.submitAll Traced.engine rest).2.1 = _
    by_cases room : p.waiting.length < s.desk.engine.console.capacity
    · obtain ⟨accepted, after⟩ := submitUser_room text ready installed room
      let item := first.item s.desk.engine.console.generation
      let filled : Player := { p with waiting := p.waiting ++ [item] }
      obtain ⟨results, rate, pitch, final⟩ :=
        ih (s := s.holding p [item] first.parameters.rate first.parameters.pitch first.parameters 1)
          (p := filled) ready rfl
      have less : free = s.desk.engine.console.capacity - filled.waiting.length + 1 := by
        have length : filled.waiting.length = p.waiting.length + 1 := by simp [filled]
        simp only [free]
        omega
      rw [accepted, after, inTurn, less, List.take_succ_cons, List.drop_succ_cons]
      refine ⟨congrArg (_ :: ·) results, rate, pitch, ?_⟩
      rw [final, holding_holding, holding, holding, Nat.add_comm 1]
      simp only [filled, List.append_assoc, List.singleton_append]
      rfl
    · have full := Nat.le_of_not_lt room
      obtain ⟨refused, after⟩ := submitUser_full text ready installed full
      let next := s.holding p [] first.parameters.rate first.parameters.pitch first.parameters 1
      have same : next.desk.engine.console.installed = some p := by
        simp only [next, holding, List.append_nil]
        rfl
      obtain ⟨results, rate, pitch, final⟩ := ih (s := next) (p := p) ready same
      have nothing : free = 0 := Nat.sub_eq_zero_of_le full
      have still : next.desk.engine.console.capacity - p.waiting.length = 0 := nothing
      rw [still] at results final
      rw [refused, after, inTurn, nothing]
      refine ⟨congrArg (_ :: ·) results, rate, pitch, ?_⟩
      rw [final, holding_holding, Nat.add_comm 1]
      rfl

/-! ## As time passes -/

theorem replay_cons (s : Session Traced) (request : Request) (requests : List Request) :
    (s.replay Traced.engine (request :: requests)).2 =
      ((s.handle Traced.engine request).2.1.replay Traced.engine requests).2 := rfl

/-- Waiting several times is waiting once. -/
theorem Refines.replay_waits {server : Server} (refines : s.Refines server) (spans : List Duration) :
    (s.replay Traced.engine (spans.map .advance)).2.Refines
      (server.advance (server.now + (spans.map Duration.nanoseconds).sum)) := by
  induction spans generalizing s server with
  | nil =>
    have stays := refines.settled.advance_now
    simp only [List.map_nil, List.sum_nil, Nat.add_zero, stays]
    exact refines
  | cons span rest ih =>
    have waited := ih (refines.advance span).2
    have later := Nat.le_add_right (server.now + span.nanoseconds) (rest.map Duration.nanoseconds).sum
    have split := Server.advance_advance server later
    rw [Server.step] at waited
    rw [List.map_cons, List.map_cons, replay_cons, List.sum_cons, ← Nat.add_assoc, ← split]
    exact waited

end Session

/-- Putting current utterances into the channel is letting jobs wait. -/
theorem Traced.Represents.fill {t : Traced} {server : Server} {p : Player}
    (represents : t.Represents server) (installed : t.console.installed = some p)
    {items : List Item} (tags : ∀ item ∈ items, item.generation = t.console.generation)
    (rate pitch : Single) :
    (t.withConsole { t.console with
      rate := rate
      pitch := pitch
      installed := some { p with waiting := p.waiting ++ items } }).Represents { server with
        rate := rate
        pitch := pitch
        waiting := server.waiting ++ items.map Item.job } := by
  obtain ⟨accepting, serving, speaking, waiting⟩ := represents.opened p installed
  refine ⟨{ represents.toAgrees with rate := rfl, pitch := rfl }, represents.alone, nofun, ?_⟩
  intro q same
  obtain rfl := Option.some.inj same
  refine ⟨accepting, ⟨serving.running, serving.seen, ?_⟩, speaking, ?_⟩
  · intro item member
    rcases List.mem_append.mp member with earlier | later
    · exact serving.tags item earlier
    · exact tags item later
  · rw [Player.jobs, List.map_append, ← waiting]
    rfl

namespace Session

variable {s : Session Traced} {p : Player}

/-- After the burst the session is where a server is that has the accepted texts behind its own. -/
theorem Refines.handle_submitAll {server : Server} (refines : s.Refines server)
    (ready : s.desk.controller.phase = .ready)
    (installed : s.desk.engine.console.installed = some p) (texts : List String) :
    let said := Said.inTurn s.ids s.desk.controller.parameters texts
    let free := s.desk.engine.console.capacity - p.waiting.length
    ∃ rate pitch, (s.handle Traced.engine (.submitAll texts)).2.1.Refines
      ({ server with
          rate := rate
          pitch := pitch
          waiting := p.jobs ++ (said.take free).map Said.job }.advance s.now) := by
  intro said free
  obtain ⟨-, -, -, waiting⟩ := refines.represents.opened p installed
  obtain ⟨-, rate, pitch, after⟩ := submitAll_burst texts ready installed
  let items := (said.take free).map (Said.item s.desk.engine.console.generation)
  have tags : ∀ item ∈ items, item.generation = s.desk.engine.console.generation := by
    intro item member
    obtain ⟨text, -, rfl⟩ := List.mem_map.mp member
    rfl
  have jobs : items.map Item.job = (said.take free).map Said.job := by
    rw [List.map_map]
    rfl
  have filled := refines.represents.fill installed tags rate pitch
  rw [jobs, ← waiting] at filled
  have settles := filled.settle fun job ends speaking =>
    Nat.le_of_lt (refines.settled.lasting job ends speaking)
  have handled : (s.handle Traced.engine (.submitAll texts)).2.1 =
      ((s.submitAll Traced.engine texts).2.1.advanceTo Traced.engine
        (s.submitAll Traced.engine texts).2.1.now).1 := rfl
  refine ⟨rate, pitch, ?_⟩
  rw [handled, after]
  refine settled_refines refines.pending rfl ?_ (Server.advance_settled _ _)
  change (Traced.engine.settle s.now _).1.Represents _
  rw [refines.now]
  exact settles

/-- As time passes the player completes what it spoke, what waited and what is accepted. -/
theorem Refines.completes_burst {server : Server} (refines : s.Refines server)
    (ready : s.desk.controller.phase = .ready)
    (installed : s.desk.engine.console.installed = some p) (texts : List String)
    (spans : List Duration) :
    let said := Said.inTurn s.ids s.desk.controller.parameters texts
    let free := s.desk.engine.console.capacity - p.waiting.length
    let waiting := p.jobs ++ (said.take free).map Said.job
    let all := (p.current.map Prod.fst).toList ++ waiting
    let now := s.now + (spans.map Duration.nanoseconds).sum
    let later := ((s.handle Traced.engine (.submitAll texts)).2.1.replay Traced.engine
      (spans.map .advance)).2.desk.engine
    ∃ done, Server.completedJobs later.log = Server.completedJobs s.desk.engine.log ++ done ∧
      later.console.played = s.desk.engine.console.played + done.length ∧ done <+: all ∧
      (Server.overAt .milliseconds s.desk.engine.console.setup.wordsPerMinute
        ((p.current.map Prod.snd).getD s.now) waiting ≤ now → done = all) := by
  intro said free waits all now later
  obtain ⟨-, -, speaking, -⟩ := refines.represents.opened p installed
  obtain ⟨rate, pitch, handled⟩ := refines.handle_submitAll ready installed texts
  let filled : Server := { server with rate := rate, pitch := pitch, waiting := waits }
  have waited : later.Represents ((filled.advance s.now).advance now) :=
    (handled.replay_waits spans).represents
  rw [Server.advance_advance filled (Nat.le_add_right _ _)] at waited
  let service := Server.resume server.timer server.wordsPerMinute now server.now waits p.current
  have log : later.log = server.log ++ service.log := by
    simp only [service, speaking]
    exact waited.log
  have played : later.console.played = (server.log ++ service.log).countP (·.2.isCompletion) := by
    simp only [service, speaking]
    exact waited.played
  obtain ⟨front, enough⟩ : service.Completes server.timer server.wordsPerMinute now
      ((p.current.map Prod.snd).getD server.now) waits all := Server.resume_completes waits p.current
  refine ⟨Server.completedJobs service.log, ?_, ?_, front, ?_⟩
  · rw [log, Server.completedJobs_append, refines.represents.log]
  · rw [played, List.countP_append, refines.represents.played, Server.length_completedJobs]
    rfl
  · rw [refines.now, refines.represents.wordsPerMinute, ← refines.represents.timer]
    exact enough

/-- What becomes of a burst of texts over a player, as time passes and nothing else is asked. -/
structure AbsorbsBurst (setup : Console.Setup) (s : Session Traced) (p : Player)
    (texts : List String) : Prop where
  /-- The player is idle with nothing waiting, or it speaks. -/
  settled : p.speaking = none → p.waiting = []
  /-- The first ones are accepted, with the parameters that they lead to, and all others refused. -/
  answers : let said := Said.inTurn s.ids s.desk.controller.parameters texts
    let free := max 1 setup.queueCapacity - p.waiting.length
    (s.submitAll Traced.engine texts).1 =
      ((said.take free).map fun text => .ok text.receipt) ++
        ((said.drop free).map fun _ => .error (.speakFailed "Speak rejected: playback queue full"))
  /-- Those parameters are what the texts so far resolve to. -/
  successive : let said := Said.inTurn s.ids s.desk.controller.parameters texts
    said.map Said.parameters = resolveAll texts s.desk.controller.parameters
  /-- The texts that are refused count for the parameters all the same. -/
  parameters : (s.submitAll Traced.engine texts).2.1.desk.controller =
    { s.desk.controller with parameters := resolvedFrom s.desk.controller.parameters texts }
  /-- The player has what is accepted behind what it had, and nothing has happened in playback. -/
  undisturbed : let said := Said.inTurn s.ids s.desk.controller.parameters texts
    let free := max 1 setup.queueCapacity - p.waiting.length
    let after := (s.submitAll Traced.engine texts).2.1.desk.engine
    after.console.installed = some { p with
        waiting := p.waiting ++ (said.take free).map (Said.item s.desk.engine.console.generation) } ∧
      after.console.detached = [] ∧ after.console.generation = s.desk.engine.console.generation ∧
      after.trace = s.desk.engine.trace
  /-- The player completes what it spoke, what waited and what is accepted, in this order. -/
  completes : let said := Said.inTurn s.ids s.desk.controller.parameters texts
    let free := max 1 setup.queueCapacity - p.waiting.length
    let waiting := p.jobs ++ (said.take free).map Said.job
    let all := (p.current.map Prod.fst).toList ++ waiting
    ∀ spans : List Duration,
      let now := s.now + (spans.map Duration.nanoseconds).sum
      let later := ((s.handle Traced.engine (.submitAll texts)).2.1.replay Traced.engine
        (spans.map .advance)).2.desk.engine
      ∃ done, Server.completedJobs later.log = Server.completedJobs s.desk.engine.log ++ done ∧
        later.console.played = s.desk.engine.console.played + done.length ∧ done <+: all ∧
        (Server.overAt .milliseconds setup.wordsPerMinute ((p.current.map Prod.snd).getD s.now) waiting ≤ now →
          done = all)

variable {setup : Console.Setup}

/-- A session that is where a server is absorbs a burst. -/
theorem Refines.absorbsBurst {server : Server} (refines : s.Refines server)
    (same : s.desk.engine.console.setup = setup) (ready : s.desk.controller.phase = .ready)
    (installed : s.desk.engine.console.installed = some p) (texts : List String) :
    AbsorbsBurst setup s p texts := by
  obtain ⟨accepting, serving, speaking, waiting⟩ := refines.represents.opened p installed
  obtain ⟨answers, rate, pitch, after⟩ := submitAll_burst texts ready installed
  have capacity : s.desk.engine.console.capacity = max 1 setup.queueCapacity := by
    rw [Console.capacity, same]
  rw [capacity] at answers after
  refine ⟨?_, answers, Said.inTurn_parameters _ _ texts, ?_, ?_, ?_⟩
  · intro silent
    have free : server.waiting = [] := by
      refine refines.settled.free ?_
      rw [← speaking, Player.current, silent]
      rfl
    rw [← waiting] at free
    exact List.map_eq_nil_iff.mp free
  · rw [after]
    rfl
  · rw [after]
    exact ⟨rfl, refines.represents.alone, rfl, rfl⟩
  · intro said free waits all spans now later
    have completes := refines.completes_burst ready installed texts spans
    rw [same, capacity] at completes
    exact completes

end Session

/-- Whatever was asked before: when the controller is ready and its engine has a player, a burst of
texts is absorbed. Forgetting the trace gives the session over the engine itself. -/
theorem absorbs_burst (controller : Controller.Setup) (setup : Console.Setup)
    (requests : List Session.Request) (texts : List String) (p : Player)
    (ready : ((Session.new controller (Traced.new setup)).replay Traced.engine
      requests).2.desk.controller.phase = .ready)
    (installed : ((Session.new controller (Traced.new setup)).replay Traced.engine
      requests).2.desk.engine.console.installed = some p) :
    Session.AbsorbsBurst setup
        ((Session.new controller (Traced.new setup)).replay Traced.engine requests).2 p texts ∧
      ∀ later : List Session.Request,
        let traced := (Session.new controller (Traced.new setup)).replay Traced.engine
          (requests ++ later)
        (Session.new controller (Console.new setup)).replay Console.engine (requests ++ later) =
          (traced.1, traced.2.project Traced.console) := by
  have rests := (Session.rests_new controller setup).replay requests
  have same := (Traced.keeps_setup setup).replay
    (s := Session.new controller (Traced.new setup)) rfl requests
  obtain ⟨server, refines⟩ := rests.of_ready ready
  constructor
  · exact refines.absorbsBurst same ready installed texts
  · intro later
    exact Session.replay_project Traced.projects (requests ++ later)
      (Session.new controller (Traced.new setup))

/-- One utterance is spoken and one waits in a channel for two, so that of two more texts the first
is accepted. -/
theorem absorbs_burst_of_one_free :
    let setup : Console.Setup := ⟨180, ["en-US"], .ofMilliseconds 100, 2⟩
    let requests : List Session.Request :=
      [.init, .submitUser "one two three" .add, .submitUser "four" .add]
    ∃ p, p.waiting.length = 1 ∧ Session.AbsorbsBurst setup
      ((Session.new .default (Traced.new setup)).replay Traced.engine requests).2 p
        ["slowly five", "loud six"] := by
  intro setup requests
  have ready : ((Session.new .default (Traced.new setup)).replay Traced.engine
      requests).2.desk.controller.phase = .ready := by decide +kernel
  have waits : ((Session.new .default (Traced.new setup)).replay Traced.engine
      requests).2.desk.engine.console.installed.map (·.waiting.length) = some 1 := by
    decide +kernel
  obtain ⟨p, installed, one⟩ := Option.map_eq_some_iff.mp waits
  have absorbs := absorbs_burst .default setup requests ["slowly five", "loud six"] p ready installed
  exact ⟨p, one, absorbs.1⟩

end SpeechQueue
