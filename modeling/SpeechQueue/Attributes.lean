import SpeechQueue.Number.Layout
import SpeechQueue.Utterance

/-! # Attributes of an utterance

A map from text to text that goes to the engine with an utterance. Its entries are kept in the
order of their keys, so equal maps have equal entries. -/

namespace SpeechQueue

/-- Named texts, in the order of their names and each name once. -/
structure Attributes where
  entries : List (String × String)
deriving DecidableEq, Repr

namespace Attributes

def empty : Attributes := ⟨[]⟩

def volumeKey : String := "volume"

def idKey : String := "utteranceId"

/-- Puts an entry at its place, in place of one with the same key. -/
def insert (key value : String) : List (String × String) → List (String × String)
  | [] => [(key, value)]
  | (k, v) :: rest =>
    if key < k then (key, value) :: (k, v) :: rest
    else if key = k then (key, value) :: rest
    else (k, v) :: insert key value rest

def set (a : Attributes) (key value : String) : Attributes :=
  ⟨insert key value a.entries⟩

def get? (a : Attributes) (key : String) : Option String :=
  a.entries.lookup key

def withVolume (a : Attributes) (volume : Single) : Attributes :=
  a.set volumeKey volume.text

def withId (a : Attributes) (id : UtteranceId) : Attributes :=
  a.set idKey id.text

/-- The volume, when its text is that of a value. -/
def volume? (a : Attributes) : Option Single :=
  (a.get? volumeKey).bind fun text => Binary.read? text.toList

/-- The attributes given one by one, later ones winning. -/
def ofList (entries : List (String × String)) : Attributes :=
  entries.foldl (fun a (key, value) => a.set key value) empty

end Attributes

end SpeechQueue
