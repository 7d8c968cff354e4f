import Mathlib.Data.List.Induction
import SpeechQueue.Attributes
import SpeechQueue.Proofs.NumberText

/-! # Attributes after writes

Attributes are written one after another, the volume and the identifier among them as texts. What
counts for a key is the write to it that came last: `get?_written`. So the volume that was set last
is read back exactly, unless its text was written over since, whatever else was written:
`keeps_volume`. -/

namespace SpeechQueue

namespace Attributes

/-! ## One write -/

section Insert

variable {key other value : String}

theorem lookup_insert_self (key value : String) (entries : List (String × String)) :
    (insert key value entries).lookup key = some value := by
  induction entries with
  | nil => simp [insert]
  | cons entry rest ih =>
    simp only [insert]
    split
    · exact List.lookup_cons_self
    · split
      · exact List.lookup_cons_self
      · next different =>
        rw [List.lookup_cons, beq_false_of_ne different]
        exact ih

theorem lookup_insert_of_ne (different : other ≠ key) (entries : List (String × String)) :
    (insert key value entries).lookup other = entries.lookup other := by
  induction entries with
  | nil => simp [insert, List.lookup_cons, beq_false_of_ne different]
  | cons entry rest ih =>
    simp only [insert]
    split
    · rw [List.lookup_cons, beq_false_of_ne different]
    · split
      · next same =>
        rw [List.lookup_cons, List.lookup_cons, ← same, beq_false_of_ne different]
      · rw [List.lookup_cons, List.lookup_cons, ih]

end Insert

/-- A value that is set is found, and every other one stays. -/
theorem get?_set (a : Attributes) (key value other : String) :
    (a.set key value).get? other = if other = key then some value else a.get? other := by
  by_cases same : other = key
  · rw [if_pos same, same]
    exact lookup_insert_self key value a.entries
  · rw [if_neg same]
    exact lookup_insert_of_ne same a.entries

/-- A way to write to attributes. -/
inductive Write where
  | set (key value : String)
  | withVolume (volume : Single)
  | withId (id : UtteranceId)

namespace Write

/-- The key that is written to. -/
def key : Write → String
  | .set key _ => key
  | .withVolume _ => volumeKey
  | .withId _ => idKey

/-- The text that is written. -/
def value : Write → String
  | .set _ value => value
  | .withVolume volume => volume.text
  | .withId id => id.text

end Write

/-- The attributes after a write. -/
def write (a : Attributes) : Write → Attributes
  | .set key value => a.set key value
  | .withVolume volume => a.withVolume volume
  | .withId id => a.withId id

/-- The attributes after writes, beginning with none. -/
def written (writes : List Write) : Attributes := writes.foldl write empty

theorem get?_write (a : Attributes) (w : Write) (key : String) :
    (a.write w).get? key = if key = w.key then some w.value else a.get? key := by
  cases w with
  | set name value => exact get?_set a name value key
  | withVolume volume => exact get?_set a volumeKey volume.text key
  | withId id => exact get?_set a idKey id.text key

/-! ## Writes in turn -/

variable {writes before after : List Write} {w : Write} {key : String}

theorem written_snoc (writes : List Write) (w : Write) :
    written (writes ++ [w]) = (written writes).write w := by
  rw [written, List.foldl_append]
  rfl

/-- What is found under a key is what the last write to it has put there. -/
theorem get?_written (writes : List Write) (key : String) :
    (written writes).get? key = (writes.reverse.find? (·.key = key)).map Write.value := by
  induction writes using List.reverseRecOn with
  | nil => rfl
  | append_singleton writes w ih =>
    rw [written_snoc, get?_write, List.reverse_append, List.reverse_singleton,
      List.singleton_append, List.find?_cons]
    by_cases same : w.key = key
    · simp [same]
    · simp [same, Ne.symm same, ih]

theorem get?_written_append (elsewhere : ∀ w ∈ after, w.key ≠ key) :
    (written (before ++ after)).get? key = (written before).get? key := by
  have nothing : after.reverse.find? (·.key = key) = none := by
    simpa [List.find?_eq_none] using elsewhere
  rw [get?_written, get?_written, List.reverse_append, List.find?_append, nothing, Option.none_or]

/-- A write that no later one overwrites is found. -/
theorem get?_written_of_last (elsewhere : ∀ other ∈ after, other.key ≠ w.key) :
    (written (before ++ w :: after)).get? w.key = some w.value := by
  rw [List.append_cons, get?_written_append elsewhere, written_snoc, get?_write, if_pos rfl]

/-- A write under another key could as well be left out. -/
theorem get?_written_without (elsewhere : w.key ≠ key) :
    (written (before ++ w :: after)).get? key = (written (before ++ after)).get? key := by
  rw [get?_written, get?_written]
  simp [List.find?_append, elsewhere]

/-- What becomes of the volume in the course of writes. -/
structure KeepsVolume (writes : List Write) : Prop where
  /-- The volume set last is read back exactly, whatever it is. -/
  readBack : ∀ before volume after, writes = before ++ .withVolume volume :: after →
    (∀ w ∈ after, w.key ≠ volumeKey) → (written writes).volume? = some volume
  /-- A text that was written in its place since then counts as what it reads as, if it reads. -/
  replaced : ∀ before text after, writes = before ++ .set volumeKey text :: after →
    (∀ w ∈ after, w.key ≠ volumeKey) → (written writes).volume? = Binary.read? text.toList
  /-- Without a write to its key there is none. -/
  missing : (∀ w ∈ writes, w.key ≠ volumeKey) → (written writes).volume? = none
  /-- No write under another key makes a difference, that of the identifier included. -/
  undisturbed : ∀ before w after, writes = before ++ w :: after → w.key ≠ volumeKey →
    (written writes).volume? = (written (before ++ after)).volume?

/-- Whatever is written in whatever order, the volume comes back as it was set last. -/
theorem keeps_volume (writes : List Write) : KeepsVolume writes where
  readBack := by
    rintro before volume after rfl elsewhere
    have found : (written (before ++ .withVolume volume :: after)).get? volumeKey =
        some volume.text := get?_written_of_last elsewhere
    rw [volume?, found, Option.bind_some]
    exact Binary.read?_text (by decide) volume
  replaced := by
    rintro before text after rfl elsewhere
    have found : (written (before ++ .set volumeKey text :: after)).get? volumeKey = some text :=
      get?_written_of_last elsewhere
    rw [volume?, found, Option.bind_some]
  missing := by
    intro elsewhere
    have untouched : (written ([] ++ writes)).get? volumeKey = (written []).get? volumeKey :=
      get?_written_append elsewhere
    rw [volume?, ← List.nil_append writes, untouched]
    rfl
  undisturbed := by
    rintro before w after rfl elsewhere
    rw [volume?, get?_written_without elsewhere, volume?]

end Attributes

end SpeechQueue
