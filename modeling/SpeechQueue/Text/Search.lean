/-! # Searching for a keyword

The successive occurrences of a keyword, each search resuming where the last match ended, so that
no two of them overlap. -/

namespace SpeechQueue

/-- The positions of the successive occurrences in a text whose first character has the given
position, when the first `skip` characters still belong to the last match. -/
def successive (keyword : List Char) : (position skip : Nat) → List Char → List Nat
  | _, _, [] => []
  | position, skip + 1, _ :: rest => successive keyword (position + 1) skip rest
  | position, 0, c :: rest =>
    if keyword.isPrefixOf (c :: rest) then
      position :: successive keyword (position + 1) (keyword.length - 1) rest
    else successive keyword (position + 1) 0 rest

/-- The positions at which a non-empty keyword is found, left to right without overlaps. -/
def found (keyword text : List Char) : List Nat :=
  successive keyword 0 0 text

end SpeechQueue
