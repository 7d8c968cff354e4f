import SpeechQueue.Text.Hexadecimal

/-! # Texts in TOML

The four kinds of quoted texts. Each reader starts after the opening quotes, and gives what follows
the closing ones. -/

namespace SpeechQueue

namespace Toml

/-- The characters that may stand anywhere: tabs and whatever is not a control. -/
def isPlain (c : Char) : Bool :=
  c = '\t' || (0x20 ≤ c.toNat && c.toNat ≠ 0x7F)

def codePoint? (digits : List Char) : Option Char := do
  let n ← hexNumber? digits
  if n.isValidChar then some (Char.ofNat n) else none

def escape? : Char → Option Char
  | 'b' => some '\x08'
  | 't' => some '\t'
  | 'n' => some '\n'
  | 'f' => some '\x0c'
  | 'r' => some '\r'
  | '"' => some '"'
  | '\\' => some '\\'
  | _ => none

/-- Reads what follows a backslash, and gives what follows that. -/
def readEscape? : List Char → Option (Char × List Char)
  | 'u' :: rest =>
    if 4 ≤ rest.length then (codePoint? (rest.take 4)).map (·, rest.drop 4) else none
  | 'U' :: rest =>
    if 8 ≤ rest.length then (codePoint? (rest.take 8)).map (·, rest.drop 8) else none
  | c :: rest => (escape? c).map (·, rest)
  | [] => none

/-- Reads a text with escapes on one line. There is fuel for each character. -/
def readBasic? : Nat → List Char → Option (List Char × List Char)
  | 0, _ => none
  | fuel + 1, text =>
    match text with
    | [] => none
    | '"' :: rest => some ([], rest)
    | '\\' :: rest => do
      let (c, rest) ← readEscape? rest
      let (cs, rest) ← readBasic? fuel rest
      return (c :: cs, rest)
    | c :: rest =>
      if isPlain c then do
        let (cs, rest) ← readBasic? fuel rest
        return (c :: cs, rest)
      else none

def readLiteral? : List Char → Option (List Char × List Char)
  | [] => none
  | '\'' :: rest => some ([], rest)
  | c :: rest =>
    if isPlain c then (readLiteral? rest).map fun (cs, rest) => (c :: cs, rest) else none

/-- The end of a line, if the text starts with one. -/
def newline? : List Char → Option (List Char)
  | '\n' :: rest => some rest
  | '\r' :: '\n' :: rest => some rest
  | _ => none

def skipNewline (text : List Char) : List Char := (newline? text).getD text

def isBlankOnLine (c : Char) : Bool := c = ' ' || c = '\t'

/-- What stands after three closing quotes: up to two more of them belong to the text. -/
def closeQuotes (quote : Char) : List Char → List Char × List Char
  | a :: b :: rest =>
    if a = quote then
      if b = quote then ([a, b], rest) else ([a], b :: rest)
    else ([], a :: b :: rest)
  | [a] => if a = quote then ([a], []) else ([], [a])
  | [] => ([], [])

/-- What follows a backslash at the end of a line: the next character that is not blank. -/
def continueLine? (text : List Char) : Option (List Char) :=
  (newline? (text.dropWhile isBlankOnLine)).map (skipLines text.length)
where
  /-- Passes over blanks and line ends. There is fuel for each character. -/
  skipLines : Nat → List Char → List Char
    | 0, text => text
    | fuel + 1, text =>
      match text with
      | c :: rest =>
        if isBlankOnLine c then skipLines fuel rest
        else match newline? text with
          | some rest => skipLines fuel rest
          | none => text
      | [] => []

/-- Reads a text on several lines, with escapes if its quotes are double. Line ends are read as line
feeds. There is fuel for each character. -/
def readLines? (quote : Char) : Nat → List Char → Option (List Char × List Char)
  | 0, _ => none
  | fuel + 1, text =>
    if [quote, quote, quote].isPrefixOf text then some (closeQuotes quote (text.drop 3))
    else match newline? text with
      | some rest => (readLines? quote fuel rest).map fun (cs, rest) => ('\n' :: cs, rest)
      | none =>
        match text with
        | [] => none
        | c :: rest =>
          if c = '\\' ∧ quote = '"' then
            match continueLine? rest with
            | some rest => readLines? quote fuel rest
            | none => do
              let (c, rest) ← readEscape? rest
              let (cs, rest) ← readLines? quote fuel rest
              return (c :: cs, rest)
          else if isPlain c then
            (readLines? quote fuel rest).map fun (cs, rest) => (c :: cs, rest)
          else none

/-- Reads a quoted text of any kind. A line end right after three opening quotes is not part of
it. -/
def readText? (text : List Char) : Option (String × List Char) :=
  let found := match text with
    | '"' :: '"' :: '"' :: rest => readLines? '"' (rest.length + 1) (skipNewline rest)
    | '\'' :: '\'' :: '\'' :: rest => readLines? '\'' (rest.length + 1) (skipNewline rest)
    | '"' :: rest => readBasic? (rest.length + 1) rest
    | '\'' :: rest => readLiteral? rest
    | _ => none
  found.map fun (cs, rest) => (String.ofList cs, rest)

end Toml

end SpeechQueue
