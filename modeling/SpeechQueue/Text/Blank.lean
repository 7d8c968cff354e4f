/-! # Blank characters and words

The blank characters are those with the Unicode property White_Space. A word is a maximal run of
characters that are not blank. -/

namespace SpeechQueue

/-- The ranges of White_Space, both ends included. -/
def blankRanges : List (Nat × Nat) :=
  [(0x09, 0x0D), (0x20, 0x20), (0x85, 0x85), (0xA0, 0xA0), (0x1680, 0x1680), (0x2000, 0x200A),
   (0x2028, 0x2029), (0x202F, 0x202F), (0x205F, 0x205F), (0x3000, 0x3000)]

def isBlank (c : Char) : Bool :=
  blankRanges.any fun (low, high) => low ≤ c.toNat && c.toNat ≤ high

/-- Whatever core counts as white space is blank. -/
theorem isBlank_of_isWhitespace {c : Char} (h : c.isWhitespace = true) : isBlank c = true := by
  simp only [Char.isWhitespace, Bool.or_eq_true, decide_eq_true_eq] at h
  rcases h with ((rfl | rfl) | rfl) | rfl <;> decide

/-- Puts a character in front of the first word, or makes it a word of its own when what follows
it starts with a blank or is empty. -/
def consWord (c : Char) (rest : List Char) (words : List (List Char)) : List (List Char) :=
  match rest, words with
  | d :: _, word :: more => if isBlank d then [c] :: word :: more else (c :: word) :: more
  | _, words => [c] :: words

def words : List Char → List (List Char)
  | [] => []
  | c :: rest => if isBlank c then words rest else consWord c rest (words rest)

def trimStart (text : List Char) : List Char :=
  text.dropWhile isBlank

def trimEnd (text : List Char) : List Char :=
  (text.reverse.dropWhile isBlank).reverse

def trim (text : List Char) : List Char :=
  trimEnd (trimStart text)

end SpeechQueue
