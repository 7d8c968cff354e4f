import SpeechQueue.Engine.Basic
import SpeechQueue.Session.Request

/-! # A plain queue

The console engine as one would describe it: a single server that speaks one utterance at a time,
and a bounded list of those that wait. An utterance that is added goes to the end of the list; a
flush aborts what is spoken and empties the list; shutting down does the same and accepts nothing
more. There are no generations, no channels and no players, and every utterance starts at the very
instant at which the one before it ends. When that is depends on the timers: `Timer.exact` for a server
that loses no time. -/

namespace SpeechQueue

open Playback

/-- What is to be spoken, and how. -/
structure Job where
  text : String
  rate : Single
  pitch : Single
  volume : Single
  id : Option String
deriving DecidableEq

/-- The time a job takes at a speed. -/
def Job.duration (job : Job) (wordsPerMinute : Nat) : Duration :=
  Playback.duration job.text wordsPerMinute job.rate

namespace Server

/-- What becomes of a job. -/
inductive Milestone where
  | started (job : Job)
  | interrupted (job : Job)
  | completed (job : Job)
deriving DecidableEq

/-- The job was spoken to its end. -/
def Milestone.isCompletion : Milestone → Bool
  | .completed _ => true
  | _ => false

/-- What a server is at after some time: the job it speaks and when that ends, the jobs that wait,
and what has become of the others. -/
structure Service where
  speaking : Option (Job × Nat)
  waiting : List Job
  log : List (Nat × Milestone)

/-- Speaks jobs in turn until `target`, the first one from a time on at which the server is free. -/
def serve (timer : Timer) (wordsPerMinute target : Nat) : Nat → List Job → Service
  | _, [] => ⟨none, [], []⟩
  | free, job :: rest =>
    let ends := timer.after free (job.duration wordsPerMinute)
    if ends ≤ target then
      let service := serve timer wordsPerMinute target ends rest
      { service with log := (free, .started job) :: (ends, .completed job) :: service.log }
    else ⟨some (job, ends), rest, [(free, .started job)]⟩

/-- Speaks on until `target`: first what is spoken now, if anything, and then what waits. -/
def resume (timer : Timer) (wordsPerMinute target now : Nat) (waiting : List Job) :
    Option (Job × Nat) → Service
  | none => serve timer wordsPerMinute target now waiting
  | some (job, ends) =>
    if ends ≤ target then
      let service := serve timer wordsPerMinute target ends waiting
      { service with log := (ends, .completed job) :: service.log }
    else ⟨some (job, ends), waiting, []⟩

/-- What the server can be asked, and waiting for time to pass. -/
inductive Op where
  | add (text : String) (attributes : Option Attributes)
  | flush (text : String) (attributes : Option Attributes)
  | setRate (rate : Single)
  | setPitch (pitch : Single)
  | wait (span : Duration)
  | shutDown

/-- The request that asks the same of a session. -/
def Op.request : Op → Session.Request
  | .add text attributes => .engineSpeak ⟨text, .add, attributes⟩
  | .flush text attributes => .engineSpeak ⟨text, .flush, attributes⟩
  | .setRate rate => .engineSetRate rate
  | .setPitch pitch => .engineSetPitch pitch
  | .wait span => .advance span
  | .shutDown => .engineShutDown

end Server

/-- A single server and its waiting list, at a time. -/
structure Server where
  timer : Timer
  wordsPerMinute : Nat
  capacity : Nat
  accepting : Bool
  rate : Single
  pitch : Single
  now : Nat
  speaking : Option (Job × Nat)
  waiting : List Job
  log : List (Nat × Server.Milestone)

namespace Server

/-- A server that has just been opened. -/
def new (timer : Timer) (wordsPerMinute capacity now : Nat) : Server :=
  ⟨timer, wordsPerMinute, capacity, true, .ofNat 1, .ofNat 1, now, none, [], []⟩

/-- How many jobs were spoken to their end. -/
def played (s : Server) : Nat := s.log.countP (·.2.isCompletion)

/-- The job that an accepted text becomes: it is spoken at the rate now in force. -/
def job (s : Server) (text : String) (attributes : Option Attributes) : Job where
  text := text
  rate := s.rate
  pitch := s.pitch
  volume := (attributes.bind Attributes.volume?).getD (.ofNat 1)
  id := attributes.bind fun a => a.get? Attributes.idKey

/-- Lets the time pass. -/
def advance (target : Nat) (s : Server) : Server :=
  let service := resume s.timer s.wordsPerMinute target s.now s.waiting s.speaking
  { s with
    now := target
    speaking := service.speaking
    waiting := service.waiting
    log := s.log ++ service.log }

/-- Aborts the job that is spoken, if there is one, and forgets those that wait. -/
def abort (s : Server) : Server :=
  { s with
    speaking := none
    waiting := []
    log := s.log ++ (s.speaking.map fun (job, _) => (s.now, .interrupted job)).toList }

/-- Answers an operation. -/
def step (s : Server) : Op → Session.Reply × Server
  | .add text attributes =>
    if s.accepting = false then (.spoken (.error (.unavailable "engine not running")), s)
    else if s.capacity ≤ s.waiting.length then
      (.spoken (.error (.rejected "playback queue full")), s)
    else
      (.spoken (.ok ()),
        { s with waiting := s.waiting ++ [s.job text attributes] }.advance s.now)
  | .flush text attributes =>
    if s.accepting = false then (.spoken (.error (.unavailable "engine not running")), s)
    else (.spoken (.ok ()), { s.abort with waiting := [s.job text attributes] }.advance s.now)
  | .setRate rate => (.done, { s with rate := rate })
  | .setPitch pitch => (.done, { s with pitch := pitch })
  | .wait span => (.done, s.advance (s.now + span.nanoseconds))
  | .shutDown => (.done, { s.abort with accepting := false })

/-- Answers operations in turn. -/
def replay (s : Server) : List Op → List Session.Reply × Server
  | [] => ([], s)
  | op :: ops =>
    let (reply, s) := s.step op
    let (replies, s) := s.replay ops
    (reply :: replies, s)

/-! ## How time passes -/

/-- A timer on whole milliseconds goes off at the first of them from its time on. -/
theorem ring_milliseconds (time : Nat) :
    1000000 ∣ Timer.milliseconds.ring time ∧
      ∀ whole, 1000000 ∣ whole → (Timer.milliseconds.ring time ≤ whole ↔ time ≤ whole) := by
  constructor
  · exact Nat.dvd_mul_right _ _
  · rintro whole ⟨n, rfl⟩
    simp only [Timer.milliseconds]
    omega

/-- The server does nothing that it could do at once: it is free only if nothing waits, and what it
speaks is not over. -/
structure Settled (s : Server) : Prop where
  free : s.speaking = none → s.waiting = []
  lasting : ∀ job ends, s.speaking = some (job, ends) → s.now < ends

/-- A server with nothing to do is settled. -/
theorem Settled.idle {s : Server} (silent : s.speaking = none) (empty : s.waiting = []) :
    s.Settled :=
  ⟨fun _ => empty, by simp [silent]⟩

/-- How many jobs can still end. -/
def backlog (s : Server) : Nat := s.waiting.length + if s.speaking.isSome then 1 else 0

variable {timer : Timer} {wordsPerMinute target middle now free ends : Nat} {job : Job}
  {jobs waiting : List Job}

/-- A job that is started is one that is spoken from then on, with the others waiting behind it. -/
theorem serve_cons :
    serve timer wordsPerMinute target free (job :: jobs) =
      let service := resume timer wordsPerMinute target free jobs
        (some (job, timer.after free (job.duration wordsPerMinute)))
      { service with log := (free, .started job) :: service.log } := by
  simp only [serve, resume]
  split <;> rfl

/-- What goes on past that time is what is spoken then, and nothing waits if nothing is spoken. -/
structure Service.Settled (target : Nat) (service : Service) : Prop where
  free : service.speaking = none → service.waiting = []
  lasting : ∀ job ends, service.speaking = some (job, ends) → target < ends

theorem resume_some_settled (behind : (serve timer wordsPerMinute target ends waiting).Settled target) :
    (resume timer wordsPerMinute target now waiting (some (job, ends))).Settled target := by
  simp only [resume]
  split
  · exact ⟨behind.free, behind.lasting⟩
  · next later =>
    refine ⟨nofun, fun other last speaking => ?_⟩
    obtain ⟨-, rfl⟩ := Prod.mk.inj (Option.some.inj speaking)
    exact Nat.lt_of_not_le later

theorem serve_settled (jobs : List Job) :
    (serve timer wordsPerMinute target free jobs).Settled target := by
  induction jobs generalizing free with
  | nil => exact ⟨fun _ => rfl, nofun⟩
  | cons job rest ih =>
    rw [serve_cons]
    have settled : (resume timer wordsPerMinute target free rest
        (some (job, timer.after free (job.duration wordsPerMinute)))).Settled target :=
      resume_some_settled ih
    exact ⟨settled.free, settled.lasting⟩

theorem resume_settled (waiting : List Job) (speaking : Option (Job × Nat)) :
    (resume timer wordsPerMinute target now waiting speaking).Settled target := by
  cases speaking with
  | none => exact serve_settled waiting
  | some spoken => exact resume_some_settled (serve_settled waiting)

theorem advance_settled (target : Nat) (s : Server) : (s.advance target).Settled := by
  have settled : (resume s.timer s.wordsPerMinute target s.now s.waiting s.speaking).Settled
      target := resume_settled s.waiting s.speaking
  exact ⟨settled.free, settled.lasting⟩

/-- Nothing happens before the end of the job that is spoken. -/
theorem Settled.advance {s : Server} (settled : s.Settled)
    (early : ∀ job ends, s.speaking = some (job, ends) → target < ends) :
    s.advance target = { s with now := target } := by
  cases speaking : s.speaking with
  | none => simp [Server.advance, resume, speaking, settled.free speaking, serve]
  | some spoken =>
    obtain ⟨job, ends⟩ := spoken
    have later : ¬ ends ≤ target := Nat.not_le_of_lt (early job ends speaking)
    simp [Server.advance, resume, speaking, later]

/-- A settled server stays as it is until time passes. -/
theorem Settled.advance_now {s : Server} (settled : s.Settled) : s.advance s.now = s := by
  rw [settled.advance settled.lasting]

/-- What is done until a time, with what is done from then on until a later one. -/
def Service.goOn (timer : Timer) (wordsPerMinute target now : Nat) (first : Service) : Service :=
  let rest := resume timer wordsPerMinute target now first.waiting first.speaking
  { rest with log := first.log ++ rest.log }

theorem resume_some_split (within : middle ≤ target)
    (behind : serve timer wordsPerMinute target ends waiting =
      (serve timer wordsPerMinute middle ends waiting).goOn timer wordsPerMinute target middle) :
    resume timer wordsPerMinute target now waiting (some (job, ends)) =
      (resume timer wordsPerMinute middle now waiting (some (job, ends))).goOn timer wordsPerMinute
        target middle := by
  by_cases early : ends ≤ middle
  · have past := Nat.le_trans early within
    simp only [resume, early, past, if_true, behind, Service.goOn, List.cons_append]
  · simp only [resume, early, if_false, Service.goOn]
    split <;> rfl

/-- Speaking until one time and then until a later one is speaking until the later one. -/
theorem serve_split (jobs : List Job) (within : middle ≤ target) :
    serve timer wordsPerMinute target free jobs =
      (serve timer wordsPerMinute middle free jobs).goOn timer wordsPerMinute target middle := by
  induction jobs generalizing free with
  | nil => rfl
  | cons job rest ih =>
    rw [serve_cons, serve_cons, resume_some_split within ih]
    rfl

theorem resume_split (waiting : List Job) (speaking : Option (Job × Nat)) (within : middle ≤ target) :
    resume timer wordsPerMinute target now waiting speaking =
      (resume timer wordsPerMinute middle now waiting speaking).goOn timer wordsPerMinute target
        middle := by
  cases speaking with
  | none => exact serve_split waiting within
  | some spoken => exact resume_some_split within (serve_split waiting within)

/-- Waiting in two parts is waiting once. -/
theorem advance_advance (s : Server) (within : middle ≤ target) :
    (s.advance middle).advance target = s.advance target := by
  simp only [advance, resume_split s.waiting s.speaking within, Service.goOn, List.append_assoc]

theorem serve_backlog (timer : Timer) (wordsPerMinute target free : Nat) (jobs : List Job) :
    (serve timer wordsPerMinute target free jobs).waiting.length +
      (if (serve timer wordsPerMinute target free jobs).speaking.isSome then 1 else 0) ≤
        jobs.length := by
  induction jobs generalizing free with
  | nil => simp [serve]
  | cons job rest ih =>
    simp only [serve]
    split
    · exact Nat.le_succ_of_le (ih _)
    · simp

/-- With the end of a job there is one less to end. -/
theorem advance_backlog {s : Server} {job : Job} {ends : Nat} (speaking : s.speaking = some (job, ends))
    (past : ends ≤ target) : (s.advance target).backlog < s.backlog := by
  have bound := serve_backlog s.timer s.wordsPerMinute target ends s.waiting
  simp only [backlog, advance, resume, speaking, past, if_true, Option.isSome_some]
  omega

end Server

end SpeechQueue
