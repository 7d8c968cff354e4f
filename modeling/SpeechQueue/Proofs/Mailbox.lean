import Mathlib.Algebra.Ring.Nat
import SpeechQueue.Broadcast

/-! # Acts of a broadcast, and a mailbox

Acts are what can be done with a broadcast, and `Broadcast.answers` what one subscriber is answered
meanwhile. `Delivers` says when answers deal with messages in turn. A mailbox is the list of the
messages that lie ahead of one subscriber: `Mailbox.answers` says without any buffer what it is
answered, with `Mailbox.delivers` and `Mailbox.losses_eq_zero` about that. -/

namespace SpeechQueue

namespace Broadcast

variable {α : Type}

/-! ## Acts and answers -/

/-- What can be done with a broadcast. -/
inductive Act (α : Type) where
  | subscribe
  | unsubscribe (subscriber : Nat)
  | publish (message : α)
  | receive (subscriber : Nat)
deriving DecidableEq

/-- The broadcast after an act. -/
def act (b : Broadcast α) : Act α → Broadcast α
  | .subscribe => b.subscribe.2
  | .unsubscribe subscriber => b.unsubscribe subscriber
  | .publish message => (b.publish message).1
  | .receive subscriber => (b.receive subscriber).2

/-- The broadcast after acts in turn. -/
def run (b : Broadcast α) (acts : List (Act α)) : Broadcast α := acts.foldl act b

/-- What a subscriber is answered by an act, if the act is its own wish to receive. -/
def answer? (b : Broadcast α) (subscriber : Nat) : Act α → Option (Received α)
  | .receive other => if other = subscriber then some (b.receive other).1 else none
  | _ => none

/-- What a subscriber is answered by acts in turn. -/
def answers (b : Broadcast α) (subscriber : Nat) : List (Act α) → List (Received α)
  | [] => []
  | act :: acts => (b.answer? subscriber act).toList ++ (b.act act).answers subscriber acts

/-- The part of an act in what a subscriber sees, as an act of a broadcast that has no other. -/
def Act.alone? (subscriber : Nat) : Act α → Option (Act α)
  | .publish message => some (.publish message)
  | .receive other => if other = subscriber then some (.receive 0) else none
  | _ => none

/-- In what a subscriber sees nobody leaves. -/
theorem Act.alone?_ne_unsubscribe {subscriber other : Nat} (act : Act α) :
    act.alone? subscriber ≠ some (.unsubscribe other) := by
  cases act <;> simp [alone?]

/-- The message that an act publishes. -/
def Act.message? : Act α → Option α
  | .publish message => some message
  | _ => none

/-- The messages published by some acts. -/
def published (acts : List (Act α)) : List α := acts.filterMap Act.message?

@[simp] theorem published_nil : published ([] : List (Act α)) = [] := rfl

@[simp] theorem published_cons (act : Act α) (acts : List (Act α)) :
    published (act :: acts) = act.message?.toList ++ published acts := by
  cases act <;> rfl

/-- The messages published by some acts while somebody was subscribed. -/
def counted (b : Broadcast α) : List (Act α) → List α
  | [] => []
  | act :: acts => (if b.isHeard then act.message?.toList else []) ++ (b.act act).counted acts

namespace Received

/-- The message of an answer. -/
def content? : Received α → Option α
  | .message content => some content
  | _ => none

/-- How many messages an answer announces as lost. -/
def loss : Received α → Nat
  | .lagged lost => lost
  | _ => 0

/-- How many messages an answer deals with. -/
def passes : Received α → Nat
  | .message _ => 1
  | .lagged lost => lost
  | .empty => 0

end Received

/-- The messages among some answers. -/
def messages (answers : List (Received α)) : List α := answers.filterMap Received.content?

/-- How many messages some answers announce as lost. -/
def losses (answers : List (Received α)) : Nat := (answers.map Received.loss).sum

section Answers

variable {answers : List (Received α)}

@[simp] theorem messages_message (message : α) :
    messages (.message message :: answers) = message :: messages answers := rfl

@[simp] theorem messages_lagged (lost : Nat) :
    messages (.lagged lost :: answers) = messages answers := rfl

@[simp] theorem messages_empty : messages (.empty :: answers) = messages answers := rfl

@[simp] theorem losses_cons (answer : Received α) :
    losses (answer :: answers) = answer.loss + losses answers := rfl

end Answers

/-- Answers deal with messages from the first one on: each message comes when it is its turn, and is
passed over only when it is announced as lost. What is left was not dealt with yet. -/
inductive Delivers : List α → List (Received α) → List α → Prop
  | done {left : List α} : Delivers left [] left
  | message {message : α} {rest left : List α} {answers : List (Received α)} :
      Delivers rest answers left → Delivers (message :: rest) (.message message :: answers) left
  | lagged {lost rest left : List α} {answers : List (Received α)} :
      lost ≠ [] → Delivers rest answers left →
      Delivers (lost ++ rest) (.lagged lost.length :: answers) left
  | empty {rest left : List α} {answers : List (Received α)} :
      Delivers rest answers left → Delivers rest (.empty :: answers) left

namespace Delivers

variable {given between left : List α} {answers more : List (Received α)}

/-- What is published later is left for later. -/
theorem append (delivers : Delivers given answers left) (later : List α) :
    Delivers (given ++ later) answers (left ++ later) := by
  induction delivers with
  | done => exact .done
  | message _ ih => exact .message ih
  | lagged some _ ih =>
    rw [List.append_assoc]
    exact .lagged some ih
  | empty _ ih => exact .empty ih

/-- Later answers go on with what earlier ones have left. -/
theorem trans (first : Delivers given answers between) (second : Delivers between more left) :
    Delivers given (answers ++ more) left := by
  induction first with
  | done => exact second
  | message _ ih => exact .message (ih second)
  | lagged some _ ih => exact .lagged some (ih second)
  | empty _ ih => exact .empty (ih second)

/-- Messages arrive in their order, and none of them twice. -/
theorem sublist (delivers : Delivers given answers left) : (messages answers).Sublist given := by
  induction delivers with
  | done => exact List.nil_sublist _
  | message _ ih => exact ih.cons_cons _
  | lagged _ _ ih => exact ih.trans (List.sublist_append_right ..)
  | empty _ ih => exact ih

/-- Every message is received, announced as lost, or left. -/
theorem length (delivers : Delivers given answers left) :
    (messages answers).length + losses answers + left.length = given.length := by
  induction delivers with
  | done => simp [messages, losses]
  | message _ ih | lagged _ _ ih | empty _ ih =>
    simp only [messages_message, messages_lagged, messages_empty, losses_cons, Received.loss,
      List.length_cons, List.length_append] at ih ⊢
    omega

/-- Without a loss, what was received and what is left is all there is. -/
theorem eq_append (delivers : Delivers given answers left) (none : losses answers = 0) :
    messages answers ++ left = given := by
  induction delivers with
  | done => rfl
  | message _ ih =>
    rw [messages_message, List.cons_append, ih (Nat.eq_zero_of_add_eq_zero_left none)]
  | lagged some => simp [Received.loss, some] at none
  | empty _ ih => exact ih (Nat.eq_zero_of_add_eq_zero_left none)

end Delivers

/-! ## A mailbox -/

/-! A mailbox is the list of the messages that lie ahead of a subscriber, the next one first. -/

namespace Mailbox

/-- The answer to somebody with these messages ahead, if only the latest `size` are kept. -/
def answer (size : Nat) (ahead : List α) : Received α :=
  if size < ahead.length then .lagged (ahead.length - size)
  else match ahead with
    | [] => .empty
    | message :: _ => .message message

/-- The messages ahead of a subscriber after an act. -/
def after (size subscriber : Nat) (ahead : List α) : Act α → List α
  | .publish message => ahead ++ [message]
  | .receive other =>
    if other = subscriber then ahead.drop (answer size ahead).passes else ahead
  | _ => ahead

/-- What the subscriber is answered by an act. -/
def answer? (size subscriber : Nat) (ahead : List α) : Act α → Option (Received α)
  | .receive other => if other = subscriber then some (answer size ahead) else none
  | _ => none

/-- The messages ahead of a subscriber after acts in turn. -/
def run (size subscriber : Nat) (ahead : List α) (acts : List (Act α)) : List α :=
  acts.foldl (after size subscriber) ahead

/-- What the subscriber is answered by acts in turn. -/
def answers (size subscriber : Nat) : List α → List (Act α) → List (Received α)
  | _, [] => []
  | ahead, act :: acts =>
    (answer? size subscriber ahead act).toList ++
      answers size subscriber (after size subscriber ahead act) acts

variable {size subscriber : Nat} {ahead : List α}

/-- An answer deals with the first of what is ahead. -/
theorem answer_delivers (size : Nat) (ahead : List α) :
    Delivers ahead [answer size ahead] (ahead.drop (answer size ahead).passes) := by
  unfold answer
  split
  · next behind =>
    have counted : (ahead.take (ahead.length - size)).length = ahead.length - size :=
      List.length_take_of_le (Nat.sub_le ..)
    have some : ahead.take (ahead.length - size) ≠ [] := by
      rw [← List.length_pos_iff, counted]
      exact Nat.sub_pos_of_lt behind
    have later : Delivers (ahead.drop (ahead.length - size)) [] _ := .done
    have passed := Delivers.lagged some later
    rwa [counted, List.take_append_drop] at passed
  · cases ahead with
    | nil => exact .empty .done
    | cons message rest => exact .message .done

/-- An answer deals with no more than what is ahead. -/
theorem passes_le (size : Nat) (ahead : List α) : (answer size ahead).passes ≤ ahead.length := by
  unfold answer
  split
  · exact Nat.sub_le ..
  · cases ahead <;> simp [Received.passes]

/-- The answers deal with what was ahead and what is published, up to what is ahead in the end. -/
theorem delivers (size subscriber : Nat) (ahead : List α) (acts : List (Act α)) :
    Delivers (ahead ++ published acts) (answers size subscriber ahead acts)
      (run size subscriber ahead acts) := by
  induction acts generalizing ahead with
  | nil =>
    rw [published_nil, List.append_nil]
    exact .done
  | cons act acts ih =>
    have later := ih (after size subscriber ahead act)
    cases act with
    | subscribe | unsubscribe => exact later
    | publish message => rwa [after, List.append_assoc] at later
    | receive other =>
      by_cases own : other = subscriber
      · rw [after, if_pos own] at later
        have first := (answer_delivers size ahead).append (published acts)
        simpa [answers, answer?, run, after, own, Act.message?] using first.trans later
      · rw [after, if_neg own] at later
        simpa [answers, answer?, run, after, own, Act.message?] using later

/-- Somebody who never has more than the kept messages ahead loses none. -/
theorem losses_eq_zero {acts : List (Act α)}
    (keepsUp : ∀ earlier, earlier <+: acts → ahead.length + (published earlier).length ≤
      (messages (answers size subscriber ahead earlier)).length + size) :
    losses (answers size subscriber ahead acts) = 0 := by
  induction acts generalizing ahead with
  | nil => rfl
  | cons act acts ih =>
    have later (earlier : List (Act α)) (within : earlier <+: acts) :=
      keepsUp (act :: earlier) ((List.prefix_cons_inj act).mpr within)
    cases act with
    | subscribe | unsubscribe => exact ih later
    | publish message =>
      refine ih fun earlier within => ?_
      have bound := later earlier within
      simp only [published_cons, Act.message?, answers, answer?, after, Option.toList_some,
        Option.toList_none, List.nil_append, List.length_append, List.length_singleton] at bound ⊢
      omega
    | receive other =>
      by_cases own : other = subscriber
      · have kept : ¬ size < ahead.length := by
          have first := keepsUp [] List.nil_prefix
          simp only [published_nil, answers, messages] at first
          simpa using first
        simp only [answers, answer?, after, own, if_true, Option.toList_some, List.singleton_append,
          losses_cons, answer, if_neg kept, published_cons, Act.message?, Option.toList_none,
          List.nil_append] at later ⊢
        cases ahead with
        | nil => exact (Nat.zero_add _).trans (ih later)
        | cons message rest =>
          refine (Nat.zero_add _).trans (ih fun earlier within => ?_)
          have bound := later earlier within
          simp only [messages_message, List.length_cons, Received.passes] at bound ⊢
          simp only [List.drop_one, List.tail_cons] at bound ⊢
          omega
      · simp only [answers, answer?, after, own, if_false] at later ⊢
        exact ih later

/-- Only what is published and what the subscriber itself asks for matters. -/
theorem answers_alone (size subscriber : Nat) (ahead : List α) (acts : List (Act α)) :
    answers size subscriber ahead acts =
      answers size 0 ahead (acts.filterMap (Act.alone? subscriber)) := by
  induction acts generalizing ahead with
  | nil => rfl
  | cons act acts ih =>
    cases act with
    | subscribe | unsubscribe | publish => exact ih _
    | receive other =>
      by_cases own : other = subscriber <;>
        simp [answers, answer?, after, Act.alone?, own, ih]

end Mailbox

end Broadcast

end SpeechQueue
