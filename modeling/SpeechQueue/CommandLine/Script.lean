import SpeechQueue.Session.Request
import SpeechQueue.Text.Blank

/-! # The script in the input

The input of the program is a sequence of lines, and each line asks for at most one thing. The
script of an input is all that is asked of the session, in order, up to the end of the input or the
line that asks to quit. -/

namespace SpeechQueue

inductive Command where
  | quit
  /-- Speaks a text of the program at once. -/
  | system (text : String)
  /-- Adds what the user said. -/
  | user (text : String)
deriving DecidableEq, Repr

namespace Command

def quitLine : String := "/quit"

def systemMark : String := "/system "

/-- What a line asks for. The blanks around it do not count, and a blank line asks for nothing. -/
def ofLine? (line : String) : Option Command :=
  let text := trim line.toList
  if text = [] then none
  else if text = quitLine.toList then some .quit
  else if systemMark.toList.isPrefixOf text then
    some (.system (String.ofList (text.drop systemMark.length)))
  else some (.user (String.ofList text))

def request : Command → Session.Request
  | .quit => .shutDown
  | .system text => .submitSystem text
  | .user text => .submitUser text .add

end Command

/-- What an input asks of a session. -/
structure Script where
  requests : List Session.Request
  /-- The input was read to its end or to the line that ends it. -/
  complete : Bool

namespace Script

/-- The pieces between the ends of lines. After the last end there is one only if it is not
empty. -/
def pieces {α : Type} (isEnd : α → Bool) : List α → List (List α)
  | [] => []
  | a :: rest =>
    if isEnd a then [] :: pieces isEnd rest
    else match pieces isEnd rest with
      | piece :: more => (a :: piece) :: more
      | [] => [[a]]

def linesOfText (text : String) : List (Option String) :=
  (pieces (· = '\n') text.toList).map fun line => some (String.ofList line)

/-- The lines of some bytes; a line is missing when its bytes are no text. -/
def linesOfBytes (bytes : List UInt8) : List (Option String) :=
  (pieces (· = 10) bytes).map fun line => String.fromUTF8? ⟨line.toArray⟩

/-- The script of some lines. At its end the session is shut down, unless there is a line that is
no text. -/
def ofLines : List (Option String) → Script
  | [] => ⟨[Command.quit.request], true⟩
  | none :: _ => ⟨[], false⟩
  | some line :: rest =>
    match Command.ofLine? line with
    | none => ofLines rest
    | some .quit => ⟨[Command.quit.request], true⟩
    | some command =>
      let script := ofLines rest
      { script with requests := command.request :: script.requests }

end Script

end SpeechQueue
