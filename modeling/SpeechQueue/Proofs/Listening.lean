import SpeechQueue.Session.Request

/-! # Who hears of what

A listener is told directly or by a broadcast. As long as its subscriber keeps up, a broadcast makes
no difference: whoever is told of something hears of it then, and nobody else does. Main statement:
`Audience.hear_told`. -/

namespace SpeechQueue

/-- What is told by some effects, and to whom. -/
def Effect.told (effects : List Effect) : List (ListenerId × String) :=
  effects.filterMap fun
    | .tell id message => some (id, message)
    | _ => none

namespace Broadcast

variable {α : Type}

/-- The only subscriber has read everything, and there is room for what comes next. -/
structure IsRead (b : Broadcast α) : Prop where
  room : 0 < b.size
  read : b.subscribers = [some b.sent]

theorem roundedSize_pos (n : Nat) : 0 < roundedSize n := Nat.two_pow_pos _

/-- A first subscriber has nothing to read yet. -/
theorem isRead_subscribe (capacity : Nat) :
    (((withCapacity capacity).subscribe).2 : Broadcast α).IsRead :=
  ⟨roundedSize_pos capacity, rfl⟩

/-- There is nothing more to read. -/
theorem IsRead.receiveAll {b : Broadcast α} (read : b.IsRead) : b.receiveAll 0 = ([], b) := by
  cases b with
  | mk size sent kept subscribers =>
    obtain rfl : subscribers = [some sent] := read.read
    simp [Broadcast.receiveAll]

/-- What is sent to a subscriber that has read everything is all that it reads next. -/
theorem IsRead.receiveAll_send {b : Broadcast α} (read : b.IsRead) (message : α) :
    ∃ after, (b.send message).receiveAll 0 = ([message], after) ∧ after.IsRead := by
  have heard : b.isHeard = true := by simp [isHeard, read.read]
  obtain ⟨room, roomy⟩ := Nat.exists_eq_succ_of_ne_zero (Nat.ne_of_gt read.room)
  refine ⟨{ b.send message with subscribers := [some (b.sent + 1)] }, ?_, ?_, ?_⟩
  · simp [send, heard, Broadcast.receiveAll, read.read, roomy]
  · simpa [send, heard] using read.room
  · simp [send, heard]

end Broadcast

namespace Listener

/-- What a listener reads of its broadcast, and the listener then. -/
def reads (l : Listener) : List (String × String) × Listener :=
  match l.broadcast with
  | some b =>
    let (messages, b) := b.receiveAll 0
    (messages.map (l.name, ·), { l with broadcast := some b })
  | none => ([], l)

/-- The listener once a message was sent to it. -/
def sent (message : String) (l : Listener) : Listener :=
  { l with broadcast := l.broadcast.map (Broadcast.send message) }

/-- The listener has nothing left to read. -/
def IsIdle (l : Listener) : Prop :=
  ∀ b, l.broadcast = some b → b.IsRead

variable {l : Listener}

theorem IsIdle.reads (idle : l.IsIdle) : l.reads = ([], l) := by
  obtain ⟨name, broadcast⟩ := l
  cases broadcast with
  | none => rfl
  | some b => simp [Listener.reads, (idle b rfl).receiveAll]

/-- A listener with a broadcast reads what was sent to it, and has nothing left to read then. -/
theorem IsIdle.reads_sent (idle : l.IsIdle) (message : String) :
    (l.sent message).reads.1 = (l.broadcast.map fun _ => (l.name, message)).toList ∧
      (l.sent message).reads.2.IsIdle ∧ (l.sent message).reads.2.name = l.name := by
  obtain ⟨name, broadcast⟩ := l
  cases broadcast with
  | none => exact ⟨rfl, idle, rfl⟩
  | some b =>
    obtain ⟨after, received, read⟩ := (idle b rfl).receiveAll_send message
    simp [sent, Listener.reads, received, IsIdle, read]

end Listener

namespace Audience

theorem hear_eq (effects : List Effect) (a : Audience) :
    a.hear effects =
      let told := Effect.told effects
      let direct := told.filterMap fun (id, message) =>
        match a.listeners[id]? with
        | some ⟨name, none⟩ => some (name, message)
        | _ => none
      let read := (told.foldl (fun a (id, message) => a.send id message) a).listeners.map
        Listener.reads
      (direct ++ read.flatMap (·.1), ⟨read.map (·.2)⟩) := rfl

/-- Nobody has anything left to read. -/
def IsIdle (a : Audience) : Prop :=
  ∀ l ∈ a.listeners, l.IsIdle

/-- The name under which a listener is known. -/
def name? (a : Audience) (id : ListenerId) : Option String :=
  a.listeners[id]?.map Listener.name

/-- The same listeners, all of them idle. -/
structure Keeps (a after : Audience) : Prop where
  idle : after.IsIdle
  names : after.listeners.map Listener.name = a.listeners.map Listener.name

theorem Keeps.name? {a after : Audience} (keeps : a.Keeps after) (id : ListenerId) :
    after.name? id = a.name? id := by
  rw [Audience.name?, Audience.name?, ← List.getElem?_map, keeps.names, List.getElem?_map]

theorem Keeps.cons {l after : Listener} {rest others : List Listener}
    (keeps : Keeps ⟨rest⟩ ⟨others⟩) (idle : after.IsIdle) (name : after.name = l.name) :
    Keeps ⟨l :: rest⟩ ⟨after :: others⟩ where
  idle := List.forall_mem_cons.mpr ⟨idle, keeps.idle⟩
  names := by rw [List.map_cons, List.map_cons, name, keeps.names]

theorem IsIdle.keeps {a : Audience} (idle : a.IsIdle) : a.Keeps a := ⟨idle, rfl⟩

/-- Those who have nothing to read get nothing. -/
theorem map_reads {listeners : List Listener} (idle : ∀ l ∈ listeners, l.IsIdle) :
    (listeners.map Listener.reads).flatMap (·.1) = [] ∧
      (listeners.map Listener.reads).map (·.2) = listeners := by
  have unread : listeners.map Listener.reads = listeners.map ([], ·) :=
    List.map_congr_left fun l inside => (idle l inside).reads
  rw [unread]
  simp [Function.comp_def]

/-- When one listener was sent a message, nobody else reads anything. -/
theorem map_reads_modify {listeners : List Listener} (idle : ∀ l ∈ listeners, l.IsIdle)
    (id : ListenerId) (message : String) :
    let read := (listeners.modify id (Listener.sent message)).map Listener.reads
    read.flatMap (·.1) = (listeners[id]?.bind fun l =>
        l.broadcast.map fun _ => (l.name, message)).toList ∧
      Keeps ⟨listeners⟩ ⟨read.map (·.2)⟩ := by
  -- On the way to the listener everybody is idle, and so is everybody behind it.
  induction listeners generalizing id with
  | nil => simpa using IsIdle.keeps idle
  | cons l rest ih =>
    obtain ⟨idleFirst, idleRest⟩ := List.forall_mem_cons.mp idle
    cases id with
    | zero =>
      obtain ⟨heard, idleThen, sameName⟩ := idleFirst.reads_sent message
      obtain ⟨unread, same⟩ := map_reads idleRest
      refine ⟨?_, ?_⟩
      · simp [heard, unread]
      · simp only [List.modify_zero_cons, List.map_cons, same]
        exact (IsIdle.keeps idleRest).cons idleThen sameName
    | succ id =>
      obtain ⟨heard, keeps⟩ := ih idleRest id
      refine ⟨?_, ?_⟩
      · simpa [idleFirst.reads] using heard
      · simpa [idleFirst.reads] using keeps.cons idleFirst rfl

/-- Whoever is told something hears of it, directly or by its broadcast, and nobody else does. -/
theorem hear_told {a : Audience} (idle : a.IsIdle) {effects : List Effect}
    {told : Option (ListenerId × String)} (only : Effect.told effects = told.toList) :
    (a.hear effects).1 =
        (told.bind fun (id, message) => (a.name? id).map (·, message)).toList ∧
      a.Keeps (a.hear effects).2 := by
  rw [hear_eq, only]
  cases told with
  | none =>
    obtain ⟨unread, same⟩ := map_reads idle
    refine ⟨unread, ?_⟩
    simpa [same] using IsIdle.keeps idle
  | some pair =>
    obtain ⟨id, message⟩ := pair
    obtain ⟨read, keeps⟩ := map_reads_modify idle id message
    refine ⟨?_, keeps⟩
    -- A listener is told directly or has a broadcast, so one of the two lists is empty.
    change _ ++ ((a.listeners.modify id (Listener.sent message)).map Listener.reads).flatMap
      (·.1) = _
    rw [read]
    cases found : a.listeners[id]? with
    | none => simp [found, name?]
    | some l =>
      obtain ⟨name, broadcast⟩ := l
      cases broadcast <;> simp [found, name?]

/-- What is heard of effects that come one batch after the other. -/
def hearAll : List (List Effect) → Audience → List (String × String) × Audience
  | [], a => ([], a)
  | effects :: rest, a =>
    let (heard, a) := a.hear effects
    let (more, a) := a.hearAll rest
    (heard ++ more, a)

/-- As long as no batch tells of more than one thing, nothing is lost or changes its place. -/
theorem hearAll_told {a : Audience} (idle : a.IsIdle) {batches : List (List Effect)}
    (single : ∀ effects ∈ batches, ∃ told : Option (ListenerId × String),
      Effect.told effects = told.toList) :
    (a.hearAll batches).1 = (batches.flatMap Effect.told).filterMap fun (id, message) =>
      (a.name? id).map (·, message) := by
  induction batches generalizing a with
  | nil => rfl
  | cons effects rest ih =>
    obtain ⟨⟨told, only⟩, singleRest⟩ := List.forall_mem_cons.mp single
    obtain ⟨heard, keeps⟩ := hear_told idle only
    have more := ih keeps.idle singleRest
    simp only [keeps.name?] at more
    rw [hearAll, List.flatMap_cons, List.filterMap_append, only]
    simp only [heard, more]
    cases told <;> rfl

/-- Listeners that have joined one after the other, each by a broadcast or not. -/
def ofListeners (listeners : List (String × Bool)) : Audience :=
  listeners.foldl (fun a (name, byBroadcast) => (a.join name byBroadcast).2) empty

/-- A listener that joins has missed nothing, and the others keep their places. -/
theorem join_spec {a : Audience} (idle : a.IsIdle) (name : String) (byBroadcast : Bool) :
    (a.join name byBroadcast).2.IsIdle ∧
      (a.join name byBroadcast).2.listeners.map Listener.name =
        a.listeners.map Listener.name ++ [name] := by
  refine ⟨?_, by simp [join]⟩
  intro l inside
  rcases List.mem_append.mp inside with before | new
  · exact idle l before
  · obtain rfl := List.mem_singleton.mp new
    cases byBroadcast with
    | false => exact fun b none => nomatch none
    | true =>
      rintro b ⟨⟩
      exact Broadcast.isRead_subscribe _

theorem foldl_join_spec {a : Audience} (idle : a.IsIdle) (listeners : List (String × Bool)) :
    let joined := listeners.foldl (fun a (name, byBroadcast) => (a.join name byBroadcast).2) a
    joined.IsIdle ∧ joined.listeners.map Listener.name =
      a.listeners.map Listener.name ++ listeners.map Prod.fst := by
  induction listeners generalizing a with
  | nil => exact ⟨idle, (List.append_nil _).symm⟩
  | cons listener rest ih =>
    obtain ⟨name, byBroadcast⟩ := listener
    obtain ⟨idleThen, names⟩ := join_spec idle name byBroadcast
    obtain ⟨idleAll, all⟩ := ih idleThen
    refine ⟨idleAll, ?_⟩
    rw [List.foldl_cons, all, names, List.append_assoc]
    rfl

theorem isIdle_ofListeners (listeners : List (String × Bool)) : (ofListeners listeners).IsIdle :=
  (foldl_join_spec (fun _ inside => absurd inside List.not_mem_nil) listeners).1

/-- A listener is known by the place at which it has joined. -/
theorem name?_ofListeners (listeners : List (String × Bool)) (id : ListenerId) :
    (ofListeners listeners).name? id = listeners[id]?.map Prod.fst := by
  have names := (foldl_join_spec (a := empty)
    (fun _ inside => absurd inside List.not_mem_nil) listeners).2
  rw [name?, ← List.getElem?_map, ofListeners, names, ← List.getElem?_map]
  rfl

end Audience

end SpeechQueue
