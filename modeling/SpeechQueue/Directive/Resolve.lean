import SpeechQueue.Directive.Basic
import SpeechQueue.Text.Blank
import SpeechQueue.Text.Search

/-! # Resolving the directives of a text

Dials come first, then cues, so a cue always wins over a dial on the same parameter. The text
itself is never changed. -/

namespace SpeechQueue

/-- The word after the first word equal to `keyword`. -/
def wordAfter? (keyword : List Char) : List (List Char) → Option (List Char)
  | [] => none
  | word :: rest => if word = keyword then rest.head? else wordAfter? keyword rest

/-- The value after the first word equal to `keyword`: none when there is no such word, it is the
last one, or the word after it is not a value. -/
def valueAfter? (keyword : List Char) (words : List (List Char)) : Option Single :=
  (wordAfter? keyword words).bind Binary.read?

def shadowing (keyword : List Char) : List (List Char) :=
  (keywords.map String.toList).filter fun other =>
    keyword.length < other.length && !(found keyword other).isEmpty

/-- The occurrence of `keyword` at `start` lies within an occurrence of a longer keyword. -/
def isShadowed (text keyword : List Char) (start : Nat) : Bool :=
  (shadowing keyword).any fun other =>
    (found other text).any fun first =>
      first ≤ start && start + keyword.length ≤ first + other.length

/-- The cue with this keyword is given: the keyword occurs outside every longer one. -/
def isCued (text keyword : List Char) : Bool :=
  (found keyword text).any fun start => !isShadowed text keyword start

/-- A text with the parameters it is to be spoken with and the directives that led to them. -/
structure Resolved where
  text : String
  parameters : Parameters
  applied : List Directive
deriving DecidableEq

def Resolved.dial (words : List (List Char)) (r : Resolved) (d : Dial) : Resolved :=
  match valueAfter? d.keyword.toList words with
  | some v => { r with parameters := d.turn v r.parameters, applied := r.applied ++ [d.report v] }
  | none => r

def Resolved.cue (text : List Char) (r : Resolved) (c : Cue) : Resolved :=
  if isCued text c.keyword.toList then
    { r with parameters := c.apply r.parameters, applied := r.applied ++ [c.report] }
  else r

/-- Resolves the directives of a text against the current parameters. -/
def resolve (text : String) (current : Parameters) : Resolved :=
  let chars := text.toList
  let dialled := dials.foldl (Resolved.dial (words chars)) ⟨text, current, []⟩
  cues.foldl (Resolved.cue chars) dialled

def resolveParameters (text : String) (current : Parameters) : Parameters :=
  (resolve text current).parameters

/-- The parameters after each of a list of texts, every text resolved against the ones before. -/
def resolveAll : List String → Parameters → List Parameters
  | [], _ => []
  | text :: rest, current =>
    let next := resolveParameters text current
    next :: resolveAll rest next

end SpeechQueue
