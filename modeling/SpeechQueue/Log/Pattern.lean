import SpeechQueue.Text.Alphanumeric
import SpeechQueue.Text.Hexadecimal

/-! # Patterns

A directive of a filter may give a pattern for the value of a field: a regular expression. What is
decided here is only which texts are patterns. They do without tables of the characters' properties,
so that the classes of digits, letters and blanks, the borders of words and the disregard of case
are there for ASCII alone, where the flag `u` is off. Counted repetitions are no part of patterns,
because a directive ends with the brace that would close one. -/

namespace SpeechQueue

namespace Pattern

structure Flags where
  caseless : Bool
  unicode : Bool
deriving DecidableEq, Repr

def Flags.default : Flags := ⟨false, true⟩

/-- Single characters may stand under the flags, in a class or on their own. -/
def Flags.admitChars (flags : Flags) : Bool := !(flags.caseless && flags.unicode)

/-- Turns a flag on or off. Most flags are of no consequence here. -/
def Flags.turn (flag : Char) (on : Bool) (flags : Flags) : Flags :=
  if flag = 'i' then { flags with caseless := on }
  else if flag = 'u' then { flags with unicode := on }
  else flags

/-! ## Escapes -/

inductive Escape where
  | char (code : Nat)
  /-- One of several characters. -/
  | set
  /-- A place between two characters. -/
  | place
deriving DecidableEq, Repr

def hexWidth? : Char → Option Nat
  | 'x' => some 2
  | 'u' => some 4
  | 'U' => some 8
  | _ => none

def control? : Char → Option Nat
  | 'a' => some 0x07
  | 't' => some 0x09
  | 'n' => some 0x0A
  | 'v' => some 0x0B
  | 'f' => some 0x0C
  | 'r' => some 0x0D
  | _ => none

def special? (flags : Flags) (c : Char) : Option Escape :=
  if c = 'A' ∨ c = 'z' then some .place
  else if flags.unicode then none
  else if ['b', 'B', '<', '>'].contains c then some .place
  else if ['d', 's', 'w'].contains c then some .set
  else none

/-- Reads what follows a backslash. Every other ASCII sign stands for itself. -/
def readEscape? (flags : Flags) : List Char → Option (Escape × List Char)
  | [] => none
  | c :: rest =>
    match hexWidth? c, control? c with
    | some width, _ =>
      let digits := rest.take width
      (hexNumber? digits).bind fun code =>
        if digits.length = width ∧ code.isValidChar then some (.char code, rest.drop width)
        else none
    | _, some code => some (.char code, rest)
    | _, _ =>
      if c.toNat < 0x80 ∧ !c.isAlphanum ∧ c ≠ '<' ∧ c ≠ '>' then some (.char c.toNat, rest)
      else (special? flags c).map (·, rest)

/-! ## Classes -/

def classNames : List String :=
  ["alnum", "alpha", "ascii", "blank", "cntrl", "digit", "graph", "lower", "print", "punct",
   "space", "upper", "word", "xdigit"]

/-- Passes over a class with a name after its opening bracket. -/
def skipNamed? (text : List Char) : Option (List Char) :=
  match text with
  | ':' :: rest =>
    let rest := match rest with
      | '^' :: rest => rest
      | rest => rest
    let name := rest.takeWhile (· ≠ ':')
    match rest.drop name.length with
    | ':' :: ']' :: rest => if classNames.contains (String.ofList name) then some rest else none
    | _ => none
  | _ => none

/-- Passes over the start of a class after its opening bracket: a caret, hyphens, and a closing
bracket that stands for itself. -/
def skipStart? (flags : Flags) (text : List Char) : Option (List Char) :=
  let (negated, text) := match text with
    | '^' :: rest => (true, rest)
    | text => (false, text)
  if negated ∧ !flags.unicode then none
  else match text with
    | ']' :: rest => some rest
    | text => some (text.dropWhile (· = '-'))

/-- Reads a character of a class, or an escape in its place, which may have no single code. -/
def readMember? (flags : Flags) (text : List Char) : Option (Option Nat × List Char) :=
  match text with
  | '\\' :: rest =>
    match readEscape? flags rest with
    | some (.char code, rest) => some (some code, rest)
    | some (.set, rest) => some (none, rest)
    | _ => none
  | c :: rest => some (some c.toNat, rest)
  | [] => none

/-- Passes over a character of a class, or a range that does not fall. -/
def skipRange? (flags : Flags) (text : List Char) : Option (List Char) := do
  let (low, rest) ← readMember? flags text
  match rest with
  | '-' :: c :: more =>
    if c = ']' ∨ c = '-' then some rest
    else
      let (high, more) ← readMember? flags (c :: more)
      match low, high with
      | some low, some high => if low ≤ high then some more else none
      | _, _ => none
  | _ => some rest

/-- Passes over the rest of a class in which `depth` more are open. There is fuel for each
character. -/
def skipClass? (flags : Flags) : Nat → (depth : Nat) → List Char → Option (List Char)
  | 0, _, _ => none
  | fuel + 1, depth, text =>
    match text with
    | ']' :: rest =>
      match depth with
      | 0 => some rest
      | depth + 1 => skipClass? flags fuel depth rest
    | '[' :: rest =>
      match skipNamed? rest with
      | some rest => skipClass? flags fuel depth rest
      | none => (skipStart? flags rest).bind (skipClass? flags fuel (depth + 1))
    | '&' :: '&' :: rest => skipClass? flags fuel depth rest
    | '-' :: '-' :: rest => skipClass? flags fuel depth rest
    | '~' :: '~' :: rest => skipClass? flags fuel depth rest
    | text => (skipRange? flags text).bind (skipClass? flags fuel depth)

/-! ## Groups -/

/-- The letters of flags, and the hyphen before those to be turned off. -/
def flagMarks : List Char := "-imsRUux".toList

/-- Reads flags up to the sign after them. None may be given twice, the last mark may be no hyphen,
and flags that do not open a group may not be missing. -/
def readFlags? (on : Bool) (seen : List Char) (flags : Flags) :
    List Char → Option (Flags × Char × List Char)
  | [] => none
  | c :: rest =>
    if c = ':' ∨ c = ')' then
      if seen.head? = some '-' ∨ (c = ')' ∧ seen = []) then none else some (flags, c, rest)
    else if seen.contains c ∨ !flagMarks.contains c then none
    else readFlags? (on && c ≠ '-') (c :: seen) (flags.turn c on) rest

def isGroupName : List Char → Bool
  | [] => false
  | c :: rest =>
    (c = '_' || (isAlphanumeric c && !c.isDigit)) &&
      rest.all fun d => isAlphanumeric d || ['_', '.', '[', ']'].contains d

def readGroupName? (text : List Char) : Option (List Char × List Char) :=
  let name := text.takeWhile (· ≠ '>')
  match text.drop name.length with
  | '>' :: rest => if isGroupName name then some (name, rest) else none
  | _ => none

/-! ## Whole patterns -/

structure Draft where
  /-- Something stands in front that can be repeated. -/
  repeatable : Bool
  flags : Flags
  /-- The flags outside the open groups, the innermost one first. -/
  outer : List Flags
  names : List (List Char)

def Draft.openGroup? (d : Draft) (text : List Char) : Option (Draft × List Char) :=
  let opened := { d with repeatable := false, outer := d.flags :: d.outer }
  let named (text : List Char) : Option (Draft × List Char) :=
    (readGroupName? text).bind fun (name, rest) =>
      if d.names.contains name then none
      else some ({ opened with names := name :: d.names }, rest)
  match text with
  | '?' :: 'P' :: '<' :: rest => named rest
  | '?' :: '<' :: rest => named rest
  | '?' :: rest =>
    (readFlags? true [] d.flags rest).map fun (flags, mark, rest) =>
      if mark = ')' then ({ d with repeatable := false, flags }, rest)
      else ({ opened with flags }, rest)
  | rest => some (opened, rest)

def Draft.step? (d : Draft) (c : Char) (rest : List Char) : Option (Draft × List Char) :=
  let single : Draft := { d with repeatable := true }
  if c = '(' then d.openGroup? rest
  else if c = ')' then
    match d.outer with
    | [] => none
    | flags :: outer => some ({ single with flags, outer }, rest)
  else if c = '|' then some ({ d with repeatable := false }, rest)
  else if c = '*' ∨ c = '+' ∨ c = '?' then
    if d.repeatable then
      match rest with
      | '?' :: rest => some (d, rest)
      | rest => some (d, rest)
    else none
  else if c = '\x7b' then none
  else if c = '[' then
    if d.flags.admitChars then
      ((skipStart? d.flags rest).bind (skipClass? d.flags (rest.length + 1) 0)).map (single, ·)
    else none
  else if c = '.' then if d.flags.unicode then some (single, rest) else none
  else if c = '^' ∨ c = '$' then some (single, rest)
  else if c = '\\' then
    match readEscape? d.flags rest with
    | some (.char _, rest) => if d.flags.admitChars then some (single, rest) else none
    | some (_, rest) => some (single, rest)
    | none => none
  else if d.flags.admitChars then some (single, rest)
  else none

/-- The rest of a pattern can be read, and closes all groups. There is fuel for each character. -/
def Draft.completes : Nat → Draft → List Char → Bool
  | _, d, [] => d.outer.isEmpty
  | 0, _, _ => false
  | fuel + 1, d, c :: rest =>
    match d.step? c rest with
    | some (d, rest) => d.completes fuel rest
    | none => false

end Pattern

def isPattern (text : List Char) : Bool :=
  Pattern.Draft.completes text.length ⟨false, .default, [], []⟩ text

end SpeechQueue
