import Mathlib.Data.List.Induction
import SpeechQueue.Playback.Player
import SpeechQueue.Proofs.IdentifierText
import SpeechQueue.Proofs.SpokenOnce

/-! # The announcements that a history promises

When the player begins with an utterance it says so in the log, with the rate, the pitch and the volume
of the utterance. What it will say is settled when the utterance is accepted, and can be read off the
history of the desk: from the receipt, or from the last submission before that has set rate and pitch. -/

namespace SpeechQueue

variable {ω : Type}

/-! ## Announcements in the log -/

/-- What the log says when the player begins with an utterance. -/
structure Announcement where
  id : Option UtteranceId
  text : String
  rate : Single
  pitch : Single
  volume : Single

/-- The record of an announcement. -/
def Announcement.record (a : Announcement) : Record where
  level := .info
  target := Playback.target
  message := "Speaking: " ++ a.text
  fields := [("utterance_id", .shown (quotedOption (a.id.map UtteranceId.text))),
    ("rate", .number a.rate), ("pitch", .number a.pitch), ("volume", .number a.volume)]

namespace Record

/-- The record is that of an announcement. -/
def isAnnouncement (r : Record) : Bool := "Speaking: ".toList.isPrefixOf r.message.toList

/-- The record goes by an identifier, or by none. -/
def isUnder (id : Option UtteranceId) (r : Record) : Bool :=
  r.fields.lookup "utterance_id" == some (.shown (quotedOption (id.map UtteranceId.text)))

end Record

theorem Announcement.isUnder_record (a : Announcement) (id : Option UtteranceId) :
    a.record.isUnder id = true ↔ a.id = id := by
  rw [Record.isUnder, record, List.lookup_cons_self, beq_iff_eq, Option.some.injEq,
    FieldValue.shown.injEq, quotedOption_text_inj]

/-- The announcement that an effect is. -/
def Effect.announcement? : Effect → Option Record
  | .background r => if r.isAnnouncement then some r else none
  | _ => none

/-- The announcements among some effects. -/
def Effect.announced (effects : List Effect) : List Record := effects.filterMap announcement?

/-- What was announced, in order. -/
def announced (history : List (Entry ω)) : List Record :=
  history.flatMap fun entry => Effect.announced entry.effects

/-- What was announced under an identifier, or under none. -/
def announcedUnder (id : Option UtteranceId) (history : List (Entry ω)) : List Record :=
  (announced history).filter (Record.isUnder id)

/-! ## What is promised -/

/-- Rate and pitch of an engine. -/
structure Voice where
  rate : Single
  pitch : Single

/-- Rate and pitch of an engine that nobody has set. -/
def Voice.neutral : Voice := ⟨.ofNat 1, .ofNat 1⟩

namespace Entry

/-- The move sets rate and pitch: it submits an utterance that carries parameters, and finds the
controller ready. -/
def setsVoice (entry : Entry ω) : Bool :=
  entry.found.phase = .ready ∧ entry.move.carriesParameters

/-- Rate and pitch that a move leaves the engine with. -/
def voice (entry : Entry ω) : Voice := ⟨entry.leaves.rate, entry.leaves.pitch⟩

/-- Rate and pitch after a move. -/
def voiceAfter (voice : Voice) (entry : Entry ω) : Voice :=
  if entry.setsVoice then entry.voice else voice

end Entry

/-- Rate and pitch that the last submission has set. -/
def lastVoice (history : List (Entry ω)) : Voice :=
  (((history.filter Entry.setsVoice).getLast?).map Entry.voice).getD .neutral

/-- How an utterance with parameters is to be announced: as its receipt says. -/
def Delivery.announcement? (d : Delivery) : Option Announcement :=
  d.receipt.parameters.map fun p =>
    ⟨some d.receipt.id, d.submission.text, p.rate, p.pitch, p.volume⟩

/-- How an utterance is to be announced: without parameters it has no identifier, and is spoken with
rate and pitch as they are. -/
def Delivery.announcement (voice : Voice) (d : Delivery) : Announcement :=
  d.announcement?.getD ⟨none, d.submission.text, voice.rate, voice.pitch, .ofNat 1⟩

/-- The announcement that a move promises. -/
def Entry.promise? (voice : Voice) (entry : Entry ω) : Option Announcement :=
  entry.delivery?.map (Delivery.announcement voice)

/-- The announcements that a history promises, in the order of acceptance. -/
def promised : Voice → List (Entry ω) → List Announcement
  | _, [] => []
  | voice, entry :: rest =>
    (entry.promise? voice).toList ++ promised (entry.voiceAfter voice) rest

section Promises

variable {voice : Voice} {history first second : List (Entry ω)} {entry : Entry ω}

theorem foldl_voiceAfter (history : List (Entry ω)) :
    history.foldl Entry.voiceAfter .neutral = lastVoice history := by
  induction history using List.reverseRecOn with
  | nil => rfl
  | append_singleton history entry ih =>
    rw [List.foldl_append, List.foldl_cons, List.foldl_nil, ih, Entry.voiceAfter]
    cases sets : entry.setsVoice <;> simp [lastVoice, List.filter_append, sets]

theorem promised_append (voice : Voice) (first second : List (Entry ω)) :
    promised voice (first ++ second) =
      promised voice first ++ promised (first.foldl Entry.voiceAfter voice) second := by
  induction first generalizing voice with
  | nil => rfl
  | cons entry rest ih => simp [promised, ih]

/-- Every promise is that of one move, with the voice that the earlier ones have set. -/
theorem mem_promised {a : Announcement} (member : a ∈ promised voice history) :
    ∃ earlier entry later, history = earlier ++ entry :: later ∧
      entry.promise? (earlier.foldl Entry.voiceAfter voice) = some a := by
  induction history generalizing voice with
  | nil => cases member
  | cons entry rest ih =>
    rcases List.mem_append.mp member with now | later
    · exact ⟨[], entry, rest, rfl, Option.mem_toList.mp now⟩
    · obtain ⟨earlier, found, rest, rfl, promise⟩ := ih later
      exact ⟨entry :: earlier, found, rest, rfl, promise⟩

theorem deliveries_cons (entry : Entry ω) (history : List (Entry ω)) :
    deliveries (entry :: history) = entry.delivery?.toList ++ deliveries history := by
  cases delivered : entry.delivery? <;> simp [deliveries, delivered]

/-- An accepted submission is one that was made, with the receipt that was given. -/
theorem Entry.delivery?_eq_some {entry : Entry ω} {d : Delivery} :
    entry.delivery? = some d ↔ entry.move.submission? = some d.submission ∧
      entry.answer = some (.submitted (.ok d.receipt)) := by
  unfold delivery?
  constructor
  · intro delivered
    split at delivered
    · next submits answered =>
      cases delivered
      exact ⟨submits, answered⟩
    · cases delivered
  · rintro ⟨submits, answered⟩
    simp [submits, answered]

theorem Delivery.id_announcement {d : Delivery} {id : UtteranceId}
    (under : (d.announcement voice).id = some id) : d.receipt.id = id := by
  cases parameters : d.receipt.parameters with
  | none => simp [announcement, announcement?, parameters] at under
  | some p => simpa [announcement, announcement?, parameters] using under

/-- Nothing is promised under an identifier that was not accepted. -/
theorem promised_under_of_not_mem {id : UtteranceId}
    (strange : id ∉ (deliveries history).map (·.receipt.id)) :
    (promised voice history).filter (·.id = some id) = [] := by
  refine List.filter_eq_nil_iff.mpr fun a member under => strange ?_
  obtain ⟨earlier, entry, later, rfl, promise⟩ := mem_promised member
  obtain ⟨d, delivered, rfl⟩ := Option.map_eq_some_iff.mp promise
  refine List.mem_map.mpr ⟨d, List.mem_filterMap.mpr ⟨entry, by simp, delivered⟩, ?_⟩
  exact Delivery.id_announcement (of_decide_eq_true under)

/-- When no identifier is used twice, the promise under one is that of its receipt. -/
theorem promised_under {d : Delivery} (distinct : ((deliveries history).map (·.receipt.id)).Nodup)
    (member : d ∈ deliveries history) :
    (promised voice history).filter (·.id = some d.receipt.id) = d.announcement?.toList := by
  induction history generalizing voice with
  | nil => cases member
  | cons entry rest ih =>
    rw [deliveries_cons] at distinct member
    rw [promised, List.filter_append]
    cases delivered : entry.delivery? with
    | none =>
      rw [delivered] at distinct member
      rw [Entry.promise?, delivered, Option.map_none, Option.toList_none, List.filter_nil,
        List.nil_append]
      exact ih distinct member
    | some first =>
      rw [delivered, Option.toList_some, List.singleton_append, List.map_cons,
        List.nodup_cons] at distinct
      rw [delivered] at member
      rw [Entry.promise?, delivered, Option.map_some, Option.toList_some]
      rcases List.mem_cons.mp member with rfl | member
      · rw [promised_under_of_not_mem distinct.1, List.append_nil]
        cases parameters : d.receipt.parameters <;>
          simp [Delivery.announcement, Delivery.announcement?, parameters]
      · have other : first.receipt.id ≠ d.receipt.id := fun same =>
          distinct.1 (same ▸ List.mem_map.mpr ⟨d, member, rfl⟩)
        have silent : [first.announcement voice].filter (·.id = some d.receipt.id) = [] := by
          refine List.filter_eq_nil_iff.mpr fun a single under => other ?_
          obtain rfl := List.mem_singleton.mp single
          exact Delivery.id_announcement (of_decide_eq_true under)
        rw [silent, List.nil_append]
        exact ih distinct.2 member

end Promises

end SpeechQueue
