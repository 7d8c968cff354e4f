import SpeechQueue.Number.Layout
import SpeechQueue.Text.Quoted

/-! # Log records

A record has a level, a target, a message and named fields. Fields keep their order, because a line
shows them in it. -/

namespace SpeechQueue

inductive Level where
  | trace
  | debug
  | info
  | warn
  | error
deriving DecidableEq, Repr

namespace Level

/-- How much a log shows that shows this level: all graver records, too. -/
def verbosity : Level → Nat
  | .error => 1
  | .warn => 2
  | .info => 3
  | .debug => 4
  | .trace => 5

def name : Level → String
  | .trace => "TRACE"
  | .debug => "DEBUG"
  | .info => "INFO"
  | .warn => "WARN"
  | .error => "ERROR"

end Level

inductive FieldValue where
  /-- Text that is shown as it is. -/
  | shown (text : String)
  /-- Text that a line shows in quotes. -/
  | label (text : String)
  | number (value : Single)
  | count (n : Nat)
deriving DecidableEq

namespace FieldValue

def text : FieldValue → String
  | .shown text => text
  | .label text => text
  | .number value => value.text
  | .count n => toString n

/-- The value within a line, where numbers are widened to 64 bits. -/
def inLine : FieldValue → String
  | .shown text => text
  | .label text => quoted text
  | .number value => (value.convert : Double).detail
  | .count n => toString n

end FieldValue

structure Record where
  level : Level
  target : String
  message : String
  fields : List (String × FieldValue)
deriving DecidableEq

namespace Record

/-- The control characters below U+0080 that a terminal acts on. -/
def terminalControls : List Char := ['\x07', '\x08', '\x0c', '\x1b', '\x7f']

/-- A character of a message as it stands in a line, where a terminal must not act on it. -/
def harmless (c : Char) : List Char :=
  if terminalControls.contains c then
    '\\' :: 'x' :: Nat.digitChar (c.toNat / 16) :: [Nat.digitChar (c.toNat % 16)]
  else if 0x80 ≤ c.toNat ∧ c.toNat ≤ 0x9F then
    '\\' :: 'u' :: '\x7b' :: Nat.toDigits 16 c.toNat ++ ['\x7d']
  else [c]

def messageInLine (r : Record) : String :=
  String.ofList (r.message.toList.flatMap harmless)

/-- The record as one line, without the time. -/
def line (r : Record) : String :=
  let fields := r.fields.map fun (name, value) => " " ++ name ++ "=" ++ value.inLine
  r.level.name ++ " " ++ r.target ++ ": " ++ r.messageInLine ++ "".intercalate fields

end Record

end SpeechQueue
