import SpeechQueue.Number.Numeral
import SpeechQueue.Toml.Value

/-! # Trees of settings

What sources say of the settings, before it is known what kind of value each setting needs. Sources
are merged key by key: a later source wins, except that a section is merged into what is there.
Keys are the same in either case of their letters. -/

namespace SpeechQueue

/-- A value that a source gives. -/
inductive Tree where
  | missing
  | boolean (value : Bool)
  | integer (value : Int)
  | decimal (value : Double)
  | string (value : String)
  | list (items : List Tree)
  | branch (entries : List (String × Tree))

namespace Tree

def entries : Tree → List (String × Tree)
  | .branch entries => entries
  | _ => []

def items : Tree → List Tree
  | .list items => items
  | _ => []

def replace (key : String) (value : Tree) : List (String × Tree) → List (String × Tree)
  | [] => [(key, value)]
  | (k, v) :: rest => if k = key then (k, value) :: rest else (k, v) :: replace key value rest

mutual

/-- Gives a key of a section a value. A section is merged into the value that is there, so that an
empty one changes nothing. What is no section becomes one. -/
def assign (key : String) (value : Tree) (parent : Tree) : Tree :=
  let key := key.toLower
  let held := parent.entries
  match value with
  | .branch entries =>
    let target := (held.lookup key).getD (.branch [])
    .branch (replace key (assignAll entries target) held)
  | value => .branch (replace key value held)

def assignAll : List (String × Tree) → Tree → Tree
  | [], target => target
  | (key, value) :: rest, target => assignAll rest (assign key value target)

end

/-! ## Paths -/

inductive Step where
  | key (name : String)
  | index (position : Int)
deriving DecidableEq, Repr

def isNameChar (c : Char) : Bool := c.isAlphanum || c = ' ' || c = '_' || c = '-'

def isSpace (c : Char) : Bool := c = ' ' || c = '\t'

/-- Reads a position of 64 bits in brackets, blanks around it, and gives what follows. -/
def readPosition? (text : List Char) : Option (Int × List Char) :=
  let text := text.dropWhile isSpace
  let (negative, text) := match text with
    | '-' :: rest => (true, rest)
    | text => (false, text)
  let digits := text.takeWhile Char.isDigit
  let n : Int := Numeral.digitsValue digits
  let position := if negative then -n else n
  match (text.drop digits.length).dropWhile isSpace with
  | ']' :: rest =>
    if digits ≠ [] ∧ -(Nat.pow 2 63 : Int) ≤ position ∧ position < (Nat.pow 2 63 : Int) then
      some (position, rest)
    else none
  | _ => none

/-- Reads the steps after the first. There is fuel for each character. -/
def readSteps? : Nat → List Char → Option (List Step)
  | _, [] => some []
  | 0, _ => none
  | fuel + 1, c :: rest =>
    if c = '.' then
      let name := rest.takeWhile isNameChar
      if name = [] then none
      else (readSteps? fuel (rest.drop name.length)).map (.key (String.ofList name) :: ·)
    else if c = '[' then do
      let (position, rest) ← readPosition? rest
      return .index position :: (← readSteps? fuel rest)
    else none

/-- The path that a key of a source is: names with dots between them, and positions in brackets. A
key that is no path stands for itself. -/
def pathOf (key : String) : List Step :=
  let chars := key.toList
  let name := chars.takeWhile isNameChar
  if name = [] then [.key key]
  else match readSteps? chars.length (chars.drop name.length) with
    | some steps => .key (String.ofList name) :: steps
    | none => [.key key]

/-- How long a list can be made. This is an assumption: a list is made as long as a position asks for,
and where memory ends is up to the machine. -/
def assumedMaxItems : Nat := Nat.pow 2 24

/-- The place in a list of the given length, if there can be one. A negative position counts from
the end and cannot lie before the start. -/
def place? (position : Int) (length : Nat) : Option Nat :=
  match position with
  | .ofNat n => if n < assumedMaxItems then some n else none
  | .negSucc n => if n < length then some (length - (n + 1)) else none

/-- Changes an item of a list, which is made long enough for it. -/
def alterItem? (position : Int) (change : Tree → Option Tree) (t : Tree) : Option Tree := do
  let place ← place? position t.items.length
  let items := t.items ++ List.replicate (place + 1 - t.items.length) Tree.missing
  let item ← change (items[place]?.getD .missing)
  return .list (items.set place item)

/-- Gives a value to what a path leads to, making what is missing on the way. There is no result
if the path leads to a place that a list cannot have. -/
def put? : List Step → Tree → Tree → Option Tree
  | [], _, t => some t
  | [.key name], value, t => some (assign name value t)
  | [.index position], value, t => alterItem? position (fun _ => some value) t
  | .key name :: step :: rest, value, t => do
    let key := name.toLower
    let inner ← put? (step :: rest) value ((t.entries.lookup key).getD .missing)
    return .branch (replace key inner t.entries)
  | .index position :: step :: rest, value, t =>
    alterItem? position (put? (step :: rest) value) t

/-- Merges a source into a tree; its keys are paths. -/
def merge? (source : List (String × Tree)) (t : Tree) : Option Tree :=
  source.foldlM (fun t (key, value) => put? (pathOf key) value t) t

mutual

def ofToml : Toml → Tree
  | .boolean value => .boolean value
  | .integer value => .integer value
  | .decimal value => .decimal value
  | .moment form => .string form
  | .string value => .string value
  | .array items => .list (ofTomlItems items)
  | .table entries => .branch (ofTomlEntries entries)

def ofTomlItems : List Toml → List Tree
  | [] => []
  | item :: rest => ofToml item :: ofTomlItems rest

def ofTomlEntries : List (String × Toml) → List (String × Tree)
  | [] => []
  | (key, value) :: rest => (key, ofToml value) :: ofTomlEntries rest

end

end Tree

end SpeechQueue
