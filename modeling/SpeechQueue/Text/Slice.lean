/-! # Parts of a text by byte positions

Positions count the bytes of a text's UTF-8 form. A text can only be cut between two characters, so
that a position within the bytes of a character gives nothing. Main statement: `cut?_append`, the
part between two texts is cut out by the sizes of what comes before its ends. -/

namespace SpeechQueue

def byteSize : List Char → Nat
  | [] => 0
  | c :: rest => c.utf8Size + byteSize rest

def cutFrom? (start : Nat) : List Char → Option (List Char)
  | [] => if start = 0 then some [] else none
  | c :: rest =>
    if start = 0 then some (c :: rest)
    else if c.utf8Size ≤ start then cutFrom? (start - c.utf8Size) rest
    else none

def cutTo? (stop : Nat) : List Char → Option (List Char)
  | [] => if stop = 0 then some [] else none
  | c :: rest =>
    if stop = 0 then some []
    else if c.utf8Size ≤ stop then (cutTo? (stop - c.utf8Size) rest).map (c :: ·)
    else none

def cut? (start stop : Nat) (text : List Char) : Option (List Char) :=
  (cutFrom? start text).bind (cutTo? (stop - start))

theorem cutFrom?_append (s t : List Char) : cutFrom? (byteSize s) (s ++ t) = some t := by
  induction s with
  | nil => cases t <;> simp [byteSize, cutFrom?]
  | cons c s ih =>
    have : c.utf8Size ≠ 0 := Nat.ne_of_gt c.utf8Size_pos
    simp [byteSize, cutFrom?, this, ih]

theorem cutTo?_append (s t : List Char) : cutTo? (byteSize s) (s ++ t) = some s := by
  induction s with
  | nil => cases t <;> simp [byteSize, cutTo?]
  | cons c s ih =>
    have : c.utf8Size ≠ 0 := Nat.ne_of_gt c.utf8Size_pos
    simp [byteSize, cutTo?, this, ih]

theorem byteSize_append (s t : List Char) : byteSize (s ++ t) = byteSize s + byteSize t := by
  induction s with
  | nil => simp [byteSize]
  | cons c s ih => simp [byteSize, ih, Nat.add_assoc]

/-- A part is cut out by the positions of its two ends. -/
theorem cut?_append (s t u : List Char) :
    cut? (byteSize s) (byteSize (s ++ t)) (s ++ (t ++ u)) = some t := by
  rw [cut?, cutFrom?_append, byteSize_append, Nat.add_sub_cancel_left, Option.bind_some,
    cutTo?_append]

end SpeechQueue
