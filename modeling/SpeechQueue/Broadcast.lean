import SpeechQueue.Log.Record

/-! # Broadcasting to subscribers

A broadcast keeps the latest messages in a buffer that all subscribers read at their own pace. A
subscriber that falls behind the buffer is told how many messages it lost and goes on with the
oldest one kept. Nothing is kept of a message that nobody could receive. -/

namespace SpeechQueue

/-- A buffer of messages and its readers. Messages are numbered from zero as they are sent. -/
structure Broadcast (α : Type) where
  /-- How many messages are kept. -/
  size : Nat
  sent : Nat
  /-- The messages kept, the latest first. -/
  kept : List α
  /-- The number of the message that each subscriber reads next; none for one that has left. -/
  subscribers : List (Option Nat)
deriving Repr

namespace Broadcast

variable {α : Type}

/-- The least power of two that is at least `n`, and at least one. -/
def roundedSize (n : Nat) : Nat :=
  Nat.pow 2 (Nat.log2 (2 * max 1 n - 1))

/-- A broadcast without subscribers that keeps at least `capacity` messages. -/
def withCapacity (capacity : Nat) : Broadcast α := ⟨roundedSize capacity, 0, [], []⟩

def defaultCapacity : Nat := 100

/-- A new subscriber, and its number. It reads what is sent from now on. -/
def subscribe (b : Broadcast α) : Nat × Broadcast α :=
  (b.subscribers.length, { b with subscribers := b.subscribers ++ [some b.sent] })

def unsubscribe (subscriber : Nat) (b : Broadcast α) : Broadcast α :=
  { b with subscribers := b.subscribers.set subscriber none }

def isHeard (b : Broadcast α) : Bool :=
  b.subscribers.any Option.isSome

/-- Sends a message to those who are subscribed, if there are any. -/
def send (message : α) (b : Broadcast α) : Broadcast α :=
  if b.isHeard then
    { b with sent := b.sent + 1, kept := (message :: b.kept).take b.size }
  else b

inductive Received (α : Type) where
  | message (message : α)
  | lagged (lost : Nat)
  | empty
deriving DecidableEq, Repr

/-- The number of the oldest message kept. -/
def oldest (b : Broadcast α) : Nat := b.sent - b.kept.length

/-- What the reader of the message with number `next` gets, and the number it reads then. -/
def read (b : Broadcast α) (next : Nat) : Received α × Nat :=
  if next < b.oldest then (.lagged (b.oldest - next), b.oldest)
  else match b.kept[b.sent - 1 - next]? with
    | some message => if next < b.sent then (.message message, next + 1) else (.empty, next)
    | none => (.empty, next)

/-- The next message for a subscriber, without waiting for one. -/
def receive (subscriber : Nat) (b : Broadcast α) : Received α × Broadcast α :=
  match b.subscribers[subscriber]? with
  | some (some next) =>
    let (received, next) := b.read next
    (received, { b with subscribers := b.subscribers.set subscriber (some next) })
  | _ => (.empty, b)

def receiveAll (subscriber : Nat) (b : Broadcast α) : List α × Broadcast α :=
  match b.subscribers[subscriber]? with
  | some (some next) =>
    ((b.kept.take (b.sent - next)).reverse,
      { b with subscribers := b.subscribers.set subscriber (some b.sent) })
  | _ => ([], b)

def unheardRecord : Record :=
  ⟨.debug, "voxqueue::infrastructure::events::publisher",
    "Failed to publish Error event (no receivers)", [("error", .shown "channel closed")]⟩

/-- Publishes an error message, with a record if nobody is subscribed. -/
def publish (message : α) (b : Broadcast α) : Broadcast α × List Record :=
  (b.send message, if b.isHeard then [] else [unheardRecord])

end Broadcast

end SpeechQueue
