import SpeechQueue.Log.Filter
import SpeechQueue.Log.Pattern
import SpeechQueue.Number.Binary
import SpeechQueue.Text.Blank
import SpeechQueue.Text.Slice

/-! # The text of a filter

A filter is written as pieces with commas between them, each of which is a directive: a level, a
target with or without one, and a part in brackets about spans and fields.

The marks of a directive are looked for in the piece without the blanks around it, but its parts are
cut out of the whole piece, at the byte positions they were found at. So blanks at the start of a
piece shift its parts, and where a cut falls into a character, reading breaks off. -/

namespace SpeechQueue

namespace Filter

inductive Fault where
  | unreadable
  /-- A part of the piece cannot be cut out of it. -/
  | broken
deriving DecidableEq, Repr

def levelNames : List String := ["off", "error", "warn", "info", "debug", "trace"]

def level? (word : List Char) : Option Nat :=
  let digits := match word with
    | '+' :: rest => rest
    | word => word
  if digits ≠ [] ∧ digits.all Char.isDigit then
    let n := Numeral.digitsValue digits
    if n ≤ 5 then some n else none
  else levelNames.findIdx? fun name => name.toList = word.map Char.toLower

def part (piece : List Char) (start stop : Nat) : Except Fault (List Char) :=
  match cut? start stop piece with
  | some part => .ok part
  | none => .error .broken

/-- The verbosity that a piece gives from a position on, where nothing stands for everything. -/
def readLevel (piece : List Char) (start : Nat) : Except Fault Nat :=
  match cutFrom? start piece with
  | none => .error .broken
  | some [] => .ok 5
  | some word =>
    match level? word with
    | some verbosity => .ok verbosity
    | none => .error .unreadable

def readEnd (piece : List Char) (start : Nat) (text : List Char) : Except Fault Nat :=
  match text with
  | [] => .ok 5
  | '=' :: _ => readLevel piece (start + 1)
  | _ => .error .unreadable

/-- A value that a field can be compared with: a number or a pattern. Other values are patterns,
too. -/
def isValue (text : List Char) : Bool :=
  (Binary.read? text : Option Double).isSome || isPattern text

/-- Reads a field: its name, and whether it is to have a certain value. What comes after a second
equals sign is of no consequence. -/
def readField (field : List Char) : Except Fault (String × Bool) :=
  let name := field.takeWhile (· ≠ '=')
  match field.drop name.length with
  | [] => if field = [] then .error .unreadable else .ok (String.ofList name, false)
  | _ :: rest =>
    if isValue (rest.takeWhile (· ≠ '=')) then .ok (String.ofList name, true)
    else .error .unreadable

/-- Reads the part of a directive after an opening bracket, which ends at the position `start`. -/
def readScope (piece : List Char) (target : Option String) (start : Nat) (text : List Char) :
    Except Fault Directive :=
  let span := text.takeWhile fun c => c ≠ ']' ∧ c ≠ '\x7b'
  let stop := start + byteSize span
  match text.drop span.length with
  | ']' :: rest => do
    discard (part piece start stop)
    discard (readEnd piece (stop + 1) rest)
    return .scoped
  | '\x7b' :: rest => do
    let span ← part piece start stop
    let inner := rest.takeWhile (· ≠ '\x7d')
    let close := stop + 1 + byteSize inner
    match rest.drop inner.length with
    | [] => .error .unreadable
    | _ :: rest =>
      let (name, hasValue) ← readField (← part piece (stop + 1) close)
      match rest with
      | ']' :: rest =>
        let verbosity ← readEnd piece (close + 2) rest
        if span ≠ [] ∨ hasValue then return .scoped
        else return .rule ⟨target, [name], verbosity⟩
      | _ => .error .unreadable
  | _ => .error .unreadable

def startsTarget (c : Char) : Bool :=
  c = '-' || c = ':' || c = '_' || isAlphanumeric c

/-- Reads a piece without any marks: a level for everything, or else a target. -/
def ofWord (piece : List Char) : Rule :=
  match level? piece with
  | some verbosity => ⟨none, [], verbosity⟩
  | none => ⟨some (String.ofList piece), [], 5⟩

def readDirective (piece : List Char) : Except Fault Directive :=
  let text := trim piece
  match text with
  | [] => .error .unreadable
  | '[' :: rest => readScope piece none 1 rest
  | c :: _ =>
    if startsTarget c then
      let word := text.takeWhile fun c => c ≠ '=' ∧ c ≠ '['
      let stop := byteSize word
      match text.drop word.length with
      | [] => .ok (.rule (ofWord piece))
      | mark :: rest => do
        let target := String.ofList (← part piece 0 stop)
        if mark = '[' then readScope piece (some target) (stop + 1) rest
        else return .rule ⟨some target, [], ← readLevel piece (stop + 1)⟩
    else .error .unreadable

def pieces (text : String) : List (List Char) :=
  (text.toList.splitOn ',').filter (· ≠ [])

/-- The filter of a text in which every piece is a directive, or the fault of the first one that
is none. -/
def ofText (text : String) : Except Fault Filter :=
  ((pieces text).mapM readDirective).map ofDirectives

/-- The directive of a piece, if it is one. There is no answer where reading breaks off. -/
def readable? (piece : List Char) : Option (Option Directive) :=
  match readDirective piece with
  | .ok directive => some (some directive)
  | .error .unreadable => some none
  | .error .broken => none

/-- The filter of those pieces of a text that are directives, unless reading breaks off. -/
def ofReadable? (text : String) : Option Filter :=
  ((pieces text).filterMapM readable?).map ofDirectives

def ofLevel? (level : String) : Option Filter :=
  ofReadable? (level ++ ",voxqueue=" ++ level)

/-- The filter of a text if all of it can be read, or else of a level. -/
def choose? (text : Option String) (level : String) : Option Filter :=
  match text.map ofText with
  | some (.ok filter) => some filter
  | some (.error .broken) => none
  | _ => ofLevel? level

end Filter

end SpeechQueue
