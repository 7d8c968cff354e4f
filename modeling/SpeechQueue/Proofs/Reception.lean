import Mathlib.Data.Nat.Log
import SpeechQueue.Proofs.Listening
import SpeechQueue.Proofs.Mailbox

/-! # What a subscriber receives

All subscribers read one buffer, which keeps the latest messages only, each at its own pace. `Reads`
ties the buffer to the mailbox of one subscriber, and every act but its own leave keeps them together.
So whatever the others do, a subscriber gets what it would get if it were the only one. Main statement:
`Broadcast.serves_subscriber`. -/

namespace SpeechQueue

namespace Broadcast

variable {α : Type}

/-! ## The buffer and the mailboxes -/

/-- The buffer keeps the latest messages, and the ones ahead of a subscriber are the last that were
sent. -/
structure Reads (size subscriber : Nat) (b : Broadcast α) (ahead : List α) : Prop where
  size_eq : b.size = size
  buffer : ∃ passed : List α, b.subscribers[subscriber]? = some (some passed.length) ∧
    b.sent = passed.length + ahead.length ∧ b.kept = (passed ++ ahead).reverse.take size

/-- The capacity is rounded up to a power of two. -/
theorem roundedSize_eq (capacity : Nat) : roundedSize capacity = 2 ^ Nat.clog 2 (max 1 capacity) := by
  have positive : 1 ≤ max 1 capacity := Nat.le_max_left ..
  have upper := Nat.le_pow_clog Nat.one_lt_two (max 1 capacity)
  rw [roundedSize, Nat.pow_eq, (Nat.log2_eq_iff (by omega)).mpr]
  refine ⟨?_, by omega⟩
  rcases Nat.eq_or_lt_of_le positive with one | more
  · simp [← one]
  · have lower := Nat.pow_pred_clog_lt_self Nat.one_lt_two more
    obtain ⟨exponent, found⟩ := Nat.exists_eq_add_one_of_ne_zero
      (Nat.ne_of_gt (Nat.clog_pos Nat.one_lt_two more))
    rw [found, Nat.pred_succ] at lower
    rw [found, Nat.pow_succ]
    omega

/-- A message in front of the latest ones. -/
theorem take_cons_take (message : α) (kept : List α) (size : Nat) :
    (message :: kept.take size).take size = (message :: kept).take size := by
  cases size with
  | zero => rfl
  | succ size => simp [List.take_take]

section Reads

variable {size subscriber other : Nat} {b : Broadcast α} {ahead passed : List α}

/-- A reader with nothing but the latest messages kept is answered out of its mailbox. -/
theorem read_eq (sent : b.sent = passed.length + ahead.length)
    (kept : b.kept = (passed ++ ahead).reverse.take size) :
    b.read passed.length = (Mailbox.answer size ahead,
      passed.length + (Mailbox.answer size ahead).passes) := by
  have length : b.kept.length = min size (passed.length + ahead.length) := by
    rw [kept, List.length_take, List.length_reverse, List.length_append]
  have oldest : b.oldest = passed.length + ahead.length - min size (passed.length + ahead.length) := by
    rw [Broadcast.oldest, sent, length]
  unfold read Mailbox.answer
  by_cases behind : size < ahead.length
  · have late : passed.length < b.oldest := by omega
    have lost : b.oldest - passed.length = ahead.length - size := by omega
    rw [if_pos late, if_pos behind, lost, Received.passes]
    exact congrArg (Prod.mk _) (by omega)
  · have early : ¬ passed.length < b.oldest := by omega
    rw [if_neg early, if_neg behind]
    cases ahead with
    | nil =>
      simp only [List.length_nil, Nat.add_zero] at sent
      split <;> simp [sent, Received.passes]
    | cons message rest =>
      rw [List.length_cons] at sent behind
      have place : b.kept[b.sent - 1 - passed.length]? = some message := by
        have here : b.sent - 1 - passed.length = rest.length := by omega
        rw [here, kept, List.getElem?_take_of_lt (by omega), List.reverse_append, List.reverse_cons]
        simp
      have unread : passed.length < b.sent := by omega
      rw [place]
      simp only [unread, if_true, Received.passes]

/-- A subscriber is answered out of its mailbox. -/
theorem Reads.receive (reads : Reads size subscriber b ahead) :
    (b.receive subscriber).1 = Mailbox.answer size ahead ∧
      Reads size subscriber (b.receive subscriber).2
        (ahead.drop (Mailbox.answer size ahead).passes) := by
  obtain ⟨size_eq, passed, subscribed, sent, kept⟩ := reads
  have bound : (Mailbox.answer size ahead).passes ≤ ahead.length :=
    Mailbox.passes_le size ahead
  obtain ⟨inside, -⟩ := List.getElem?_eq_some_iff.mp subscribed
  simp only [Broadcast.receive, subscribed, read_eq sent kept, true_and]
  refine ⟨size_eq, passed ++ ahead.take (Mailbox.answer size ahead).passes, ?_, ?_, ?_⟩
  · simp [inside, bound]
  · rw [List.length_append, List.length_take, List.length_drop]
    simp only [sent]
    omega
  · rw [List.append_assoc, List.take_append_drop]
    exact kept

/-- What another subscriber asks for changes nothing for this one. -/
theorem Reads.receive_other (reads : Reads size subscriber b ahead) (others : other ≠ subscriber) :
    Reads size subscriber (b.receive other).2 ahead := by
  obtain ⟨size_eq, passed, subscribed, sent, kept⟩ := reads
  unfold Broadcast.receive
  split
  · refine ⟨size_eq, passed, ?_, sent, kept⟩
    rwa [List.getElem?_set_ne others]
  · exact ⟨size_eq, passed, subscribed, sent, kept⟩

theorem Reads.isHeard (reads : Reads size subscriber b ahead) : b.isHeard = true := by
  obtain ⟨-, passed, subscribed, -, -⟩ := reads
  exact List.any_eq_true.mpr ⟨_, List.mem_of_getElem? subscribed, rfl⟩

/-- While somebody is subscribed, every message is kept for a while. -/
theorem Reads.publish (reads : Reads size subscriber b ahead) (message : α) :
    Reads size subscriber (b.publish message).1 (ahead ++ [message]) := by
  have heard := reads.isHeard
  obtain ⟨size_eq, passed, subscribed, sent, kept⟩ := reads
  simp only [Broadcast.publish, send, heard, if_true]
  refine ⟨size_eq, passed, subscribed, ?_, ?_⟩
  · simp only [List.length_append, List.length_singleton, sent]
    omega
  · rw [← List.append_assoc, List.reverse_append, List.reverse_singleton, List.singleton_append,
      size_eq, kept, take_cons_take]

/-- An act leaves a subscriber with the mailbox that it has after it, unless it is its own leave. -/
theorem Reads.act {act : Act α} (reads : Reads size subscriber b ahead)
    (stays : act ≠ .unsubscribe subscriber) :
    b.answer? subscriber act = Mailbox.answer? size subscriber ahead act ∧
      Reads size subscriber (b.act act) (Mailbox.after size subscriber ahead act) := by
  cases act with
  | subscribe =>
    obtain ⟨size_eq, passed, subscribed, sent, kept⟩ := reads
    obtain ⟨inside, -⟩ := List.getElem?_eq_some_iff.mp subscribed
    exact ⟨rfl, size_eq, passed, (List.getElem?_append_left inside).trans subscribed, sent, kept⟩
  | unsubscribe other =>
    have others : other ≠ subscriber := fun same => stays (congrArg _ same)
    obtain ⟨size_eq, passed, subscribed, sent, kept⟩ := reads
    exact ⟨rfl, size_eq, passed, (List.getElem?_set_ne others).trans subscribed, sent, kept⟩
  | publish message => exact ⟨rfl, reads.publish message⟩
  | receive other =>
    by_cases own : other = subscriber
    · obtain ⟨answered, reads⟩ := reads.receive
      simp only [answer?, Mailbox.answer?, Broadcast.act, Mailbox.after, own, if_true, answered,
        true_and]
      exact reads
    · simp only [answer?, Mailbox.answer?, Broadcast.act, Mailbox.after, own, if_false, true_and]
      exact reads.receive_other own

/-- As long as a subscriber stays, it gets the answers of its mailbox. -/
theorem Reads.run {acts : List (Act α)} (reads : Reads size subscriber b ahead)
    (stays : .unsubscribe subscriber ∉ acts) :
    b.answers subscriber acts = Mailbox.answers size subscriber ahead acts ∧
      Reads size subscriber (b.run acts) (Mailbox.run size subscriber ahead acts) := by
  induction acts generalizing b ahead with
  | nil => exact ⟨rfl, reads⟩
  | cons act acts ih =>
    obtain ⟨here, later⟩ := not_or.mp (mt List.mem_cons.mpr stays)
    obtain ⟨answered, after⟩ := reads.act (Ne.symm here)
    obtain ⟨answers, final⟩ := ih after later
    exact ⟨congrArg₂ _ (congrArg _ answered) answers, final⟩

/-- As long as a subscriber stays, every message that is published counts. -/
theorem Reads.counted_eq {acts : List (Act α)} (reads : Reads size subscriber b ahead)
    (stays : .unsubscribe subscriber ∉ acts) : b.counted acts = published acts := by
  induction acts generalizing b ahead with
  | nil => rfl
  | cons act acts ih =>
    obtain ⟨here, later⟩ := not_or.mp (mt List.mem_cons.mpr stays)
    rw [counted, published_cons, if_pos reads.isHeard, ih (reads.act (Ne.symm here)).2 later]

/-- What is still kept for a subscriber is the end of its mailbox. -/
theorem Reads.receiveAll (reads : Reads size subscriber b ahead) :
    (b.receiveAll subscriber).1 = ahead.drop (ahead.length - size) := by
  obtain ⟨-, passed, subscribed, sent, kept⟩ := reads
  have within : min ahead.length size ≤ ahead.reverse.length := by
    rw [List.length_reverse]
    exact Nat.min_le_left ..
  have cut : ahead.length - min ahead.length size = ahead.length - size := by omega
  simp only [Broadcast.receiveAll, subscribed, sent, kept, Nat.add_sub_cancel_left]
  rw [List.take_take, List.reverse_append, List.take_append_of_le_length within, List.reverse_take,
    List.reverse_reverse, List.length_reverse, cut]

end Reads

/-! ## From the subscription on -/

/-- However a broadcast was used, it keeps the latest messages of those that were sent. -/
structure Keeps (size : Nat) (b : Broadcast α) : Prop where
  size_eq : b.size = size
  buffer : ∃ all : List α, b.sent = all.length ∧ b.kept = all.reverse.take size

theorem Keeps.act {size : Nat} {b : Broadcast α} (keeps : Keeps size b) (act : Act α) :
    Keeps size (b.act act) := by
  obtain ⟨size_eq, all, sent, kept⟩ := keeps
  cases act with
  | subscribe | unsubscribe => exact ⟨size_eq, all, sent, kept⟩
  | publish message =>
    simp only [Broadcast.act, publish, send]
    split
    · refine ⟨size_eq, all ++ [message], by simp [sent], ?_⟩
      rw [List.reverse_append, List.reverse_singleton, List.singleton_append, size_eq, kept,
        take_cons_take]
    · exact ⟨size_eq, all, sent, kept⟩
  | receive subscriber =>
    simp only [Broadcast.act, Broadcast.receive]
    split <;> exact ⟨size_eq, all, sent, kept⟩

theorem Keeps.run {size : Nat} {b : Broadcast α} (keeps : Keeps size b) (acts : List (Act α)) :
    Keeps size (b.run acts) := by
  induction acts generalizing b with
  | nil => exact keeps
  | cons act acts ih => exact ih (keeps.act act)

/-- Nothing lies ahead of a new subscriber. -/
theorem Keeps.subscribe {size : Nat} {b : Broadcast α} (keeps : Keeps size b) :
    Reads size b.subscribe.1 b.subscribe.2 [] := by
  obtain ⟨size_eq, all, sent, kept⟩ := keeps
  refine ⟨size_eq, all, ?_, sent, ?_⟩
  · simp [Broadcast.subscribe, sent]
  · rw [List.append_nil]
    exact kept

/-- What a subscriber gets during some acts, and what is left of what was published. -/
structure Serves (size subscriber : Nat) (b : Broadcast α) (acts : List (Act α)) (left : List α) :
    Prop where
  /-- Every message is published while somebody is subscribed. -/
  counted : b.counted acts = published acts
  /-- Messages come in turn, and every gap is announced with its length. -/
  delivers : Delivers (published acts) (b.answers subscriber acts) left
  ordered : (messages (b.answers subscriber acts)).Sublist (published acts)
  /-- The next answer is the loss of all but the latest messages, if not all that is left is kept, or
  else the first message that is left. -/
  next : ((b.run acts).receive subscriber).1 = Mailbox.answer size left
  /-- All that will not be lost by then can still be read. -/
  readable : ((b.run acts).receiveAll subscriber).1 = left.drop (left.length - size)
  /-- Every message is received, announced as lost, about to be announced as lost, or readable. -/
  conserved : (messages (b.answers subscriber acts)).length + losses (b.answers subscriber acts) +
    (((b.run acts).receive subscriber).1.loss + ((b.run acts).receiveAll subscriber).1.length) =
      (published acts).length
  /-- A subscriber that is never further behind than the buffer reaches loses nothing. -/
  lossless : (∀ earlier, earlier <+: acts → (published earlier).length ≤
      (messages (b.answers subscriber earlier)).length + size) →
    losses (b.answers subscriber acts) = 0 ∧
      messages (b.answers subscriber acts) ++ ((b.run acts).receiveAll subscriber).1 = published acts

/-- What the next answer loses and what can be read then is all that is ahead. -/
theorem Mailbox.loss_answer (size : Nat) (ahead : List α) :
    (Mailbox.answer size ahead).loss + (ahead.drop (ahead.length - size)).length = ahead.length := by
  rw [List.length_drop]
  unfold Mailbox.answer
  split
  · simp only [Received.loss]
    omega
  · cases ahead <;> simp only [Received.loss, List.length_nil, List.length_cons] at * <;> omega

theorem Reads.serves {size subscriber : Nat} {b : Broadcast α} {acts : List (Act α)}
    (reads : Reads size subscriber b []) (stays : .unsubscribe subscriber ∉ acts) :
    Serves size subscriber b acts (Mailbox.run size subscriber [] acts) := by
  obtain ⟨answers, final⟩ := reads.run stays
  have delivers : Delivers (published acts) (b.answers subscriber acts) _ :=
    answers ▸ Mailbox.delivers size subscriber [] acts
  have all := delivers.length
  refine ⟨reads.counted_eq stays, delivers, delivers.sublist, final.receive.1, final.receiveAll, ?_,
    fun keepsUp => ?_⟩
  · rw [final.receive.1, final.receiveAll, Mailbox.loss_answer]
    exact all
  · have lossless : losses (b.answers subscriber acts) = 0 := by
      rw [answers]
      refine Mailbox.losses_eq_zero fun earlier within => ?_
      have stayed : .unsubscribe subscriber ∉ earlier := fun left => stays (within.subset left)
      rw [List.length_nil, Nat.zero_add, ← (reads.run stayed).1]
      exact keepsUp earlier within
    have last := keepsUp acts (List.prefix_refl acts)
    have near : (Mailbox.run size subscriber [] acts).length - size = 0 := by omega
    rw [final.receiveAll, near, List.drop_zero]
    exact ⟨lossless, delivers.eq_append lossless⟩

/-- A subscriber that stays is served every message that is published from its subscription on, as
if it were the only one. -/
theorem serves_subscriber (capacity : Nat) (before acts : List (Act α)) :
    let b := (withCapacity capacity : Broadcast α).run before
    let subscriber := b.subscribe.1
    .unsubscribe subscriber ∉ acts →
      (∃ left, Serves (2 ^ Nat.clog 2 (max 1 capacity)) subscriber b.subscribe.2 acts left) ∧
      b.subscribe.2.answers subscriber acts =
        (withCapacity capacity).subscribe.2.answers 0 (acts.filterMap (Act.alone? subscriber)) := by
  intro b subscriber stays
  have new : Keeps (2 ^ Nat.clog 2 (max 1 capacity)) (withCapacity capacity : Broadcast α) :=
    ⟨roundedSize_eq capacity, [], rfl, by simp [withCapacity]⟩
  have reads := (new.run before).subscribe
  have alone : .unsubscribe 0 ∉ acts.filterMap (Act.alone? subscriber) := by
    intro left
    obtain ⟨act, -, part⟩ := List.mem_filterMap.mp left
    exact Act.alone?_ne_unsubscribe act part
  refine ⟨⟨_, reads.serves stays⟩, ?_⟩
  calc b.subscribe.2.answers subscriber acts
      = Mailbox.answers (2 ^ Nat.clog 2 (max 1 capacity)) subscriber [] acts := (reads.run stays).1
    _ = Mailbox.answers (2 ^ Nat.clog 2 (max 1 capacity)) 0 [] _ := Mailbox.answers_alone ..
    _ = (withCapacity capacity).subscribe.2.answers 0 _ := (new.subscribe.run alone).1.symm

/-- A subscriber that comes late and lags behind, while another one leaves. -/
theorem serves_subscriber_of_lag :
    let b := (withCapacity 2 : Broadcast Nat).run [.subscribe, .publish 7]
    let acts : List (Act Nat) := [.publish 1, .publish 2, .publish 3, .receive 1, .unsubscribe 0,
      .receive 1, .publish 4]
    .unsubscribe b.subscribe.1 ∉ acts ∧
      b.subscribe.2.answers b.subscribe.1 acts = [.lagged 1, .message 2] ∧
      (∃ left, Serves (2 ^ Nat.clog 2 (max 1 2)) b.subscribe.1 b.subscribe.2 acts left) ∧
      b.subscribe.2.answers b.subscribe.1 acts =
        (withCapacity 2).subscribe.2.answers 0 (acts.filterMap (Act.alone? b.subscribe.1)) :=
  ⟨by decide +kernel, by decide +kernel, serves_subscriber 2 _ _ (by decide +kernel)⟩

end Broadcast

end SpeechQueue
