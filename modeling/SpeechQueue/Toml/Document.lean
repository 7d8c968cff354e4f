import SpeechQueue.Toml.Moment

/-! # TOML documents

A document is a list of lines, each of which is blank, opens a table, or gives a key a value. -/

namespace SpeechQueue

namespace Toml

def skipBlanks (text : List Char) : List Char := text.dropWhile isBlankOnLine

/-- Passes over a comment, if there is one, up to the end of the line. -/
def skipComment? (text : List Char) : Option (List Char) :=
  match text with
  | '#' :: rest =>
    let rest := rest.dropWhile isPlain
    if rest = [] ∨ (newline? rest).isSome then some rest else none
  | _ => some text

/-- Passes over the rest of a line, on which only a comment may stand. -/
def endLine? (text : List Char) : Option (List Char) := do
  match ← skipComment? (skipBlanks text) with
  | [] => some []
  | rest => newline? rest

/-- Passes over blanks, comments and line ends. There is fuel for each character. -/
def skipLines? : Nat → List Char → Option (List Char)
  | 0, text => some text
  | fuel + 1, text => do
    let rest ← skipComment? (skipBlanks text)
    match newline? rest with
    | some rest => skipLines? fuel rest
    | none => some rest

def isBareKey (c : Char) : Bool := c.isAlphanum || c = '_' || c = '-'

def readSimpleKey? (text : List Char) : Option (String × List Char) :=
  match text with
  | '"' :: rest =>
    (readBasic? (rest.length + 1) rest).map fun (cs, rest) => (String.ofList cs, rest)
  | '\'' :: rest => (readLiteral? rest).map fun (cs, rest) => (String.ofList cs, rest)
  | _ =>
    let key := text.takeWhile isBareKey
    if key = [] then none else some (String.ofList key, text.drop key.length)

/-- How deep arrays and tables may lie within one another, and how many keys a path may have. -/
def maxDepth : Nat := 79

/-- Reads a path of at most `count` keys, with blanks around them. -/
def readPath? : (count : Nat) → List Char → Option (List String × List Char)
  | 0, _ => none
  | count + 1, text => do
    let (key, rest) ← readSimpleKey? (skipBlanks text)
    match skipBlanks rest with
    | '.' :: rest =>
      let (keys, rest) ← readPath? count rest
      return (key :: keys, rest)
    | rest => some ([key], rest)

/-- Reads a path and divides it into the tables on the way and the last key. -/
def readKey? (text : List Char) : Option (List String × String × List Char) := do
  let (keys, rest) ← readPath? maxDepth text
  let last ← keys.getLast?
  return (keys.dropLast, last, rest)

/-- Reads the items of an array after its opening bracket; there may be a comma after the last
one. There is fuel for each character. -/
def readItems? (readValue? : List Char → Option (Toml × List Char)) :
    Nat → List Char → Option (List Toml × List Char)
  | 0, _ => none
  | fuel + 1, text => do
    match ← skipLines? text.length text with
    | ']' :: rest => some ([], rest)
    | rest =>
      let (item, rest) ← readValue? rest
      match ← skipLines? rest.length rest with
      | ',' :: rest =>
        let (items, rest) ← readItems? readValue? fuel rest
        return (item :: items, rest)
      | ']' :: rest => some ([item], rest)
      | _ => none

def readPair (readValue? : List Char → Option (Toml × List Char)) (text : List Char) :
    Option ((List String × String × Toml) × List Char) := do
  let (path, key, rest) ← readKey? text
  let rest ← skip? '=' rest
  let (value, rest) ← readValue? (skipBlanks rest)
  return ((path, key, value), rest)

/-- Reads the pairs of a table on one line, of which there is at least one, adding them to those
before. There is fuel for each character. -/
def readPairs? (readValue? : List Char → Option (Toml × List Char)) :
    Nat → Entries → List Char → Option (Entries × List Char)
  | 0, _, _ => none
  | fuel + 1, entries, text => do
    let ((path, key, value), rest) ← readPair readValue? text
    let entries ← entries.assign path key value
    match skipBlanks rest with
    | ',' :: rest => readPairs? readValue? fuel entries rest
    | '\x7d' :: rest => some (entries, rest)
    | _ => none

/-- Reads a value in which arrays and tables lie no deeper than `depth` within one another. -/
def readValue? : Nat → List Char → Option (Toml × List Char)
  | depth, text =>
    match text with
    | '[' :: rest =>
      match depth with
      | 0 => none
      | depth + 1 =>
        (readItems? (readValue? depth) (rest.length + 1) rest).map fun (items, rest) =>
          (.array items, rest)
    | '\x7b' :: rest =>
      match depth with
      | 0 => none
      | depth + 1 =>
        match skipBlanks rest with
        | '\x7d' :: rest => some (.table [], rest)
        | _ =>
          (readPairs? (readValue? depth) (rest.length + 1) [] rest).map fun (entries, rest) =>
            (.table (entriesToml entries), rest)
    | '"' :: _ => (readText? text).map fun (s, rest) => (.string s, rest)
    | '\'' :: _ => (readText? text).map fun (s, rest) => (.string s, rest)
    | _ => readBare? text

inductive Line where
  | openTable (path : List String) (key : String)
  | addTable (path : List String) (key : String)
  | assign (path : List String) (key : String) (value : Toml)

def readLine? (text : List Char) : Option (Line × List Char) :=
  match text with
  | '[' :: '[' :: rest => do
    let (path, key, rest) ← readKey? rest
    let rest ← endLine? (← skip? ']' (← skip? ']' rest))
    return (.addTable path key, rest)
  | '[' :: rest => do
    let (path, key, rest) ← readKey? rest
    let rest ← endLine? (← skip? ']' rest)
    return (.openTable path key, rest)
  | _ => do
    let ((path, key, value), rest) ← readPair (readValue? maxDepth) text
    return (.assign path key value, ← endLine? rest)

/-- Reads the lines of a document. There is fuel for each character. -/
def readLines : Nat → List Char → Option (List Line)
  | 0, _ => some []
  | fuel + 1, text => do
    match ← skipLines? text.length text with
    | [] => some []
    | rest =>
      let (line, rest) ← readLine? rest
      return line :: (← readLines fuel rest)

/-- What has been read of a document: its entries, and the path to the table that is open. -/
structure Draft where
  entries : Entries
  current : List String

def Draft.add (draft : Draft) : Line → Option Draft
  | .openTable path key => do
    return ⟨← draft.entries.openTable path key, path ++ [key]⟩
  | .addTable path key => do
    return ⟨← draft.entries.addTable path key, path ++ [key]⟩
  | .assign path key value => do
    let entries ← Entries.alter false (fun _ inner => inner.assign path key value) draft.current
      .header draft.entries
    return { draft with entries := entries }

/-- Reads a document; a byte order mark may stand at its start. -/
def read? (text : String) : Option (List (String × Toml)) := do
  let chars := match text.toList with
    | '\uFEFF' :: rest => rest
    | chars => chars
  let lines ← readLines (chars.length + 1) chars
  let draft ← lines.foldlM Draft.add ⟨[], []⟩
  match ← withMoments? (.table (entriesToml draft.entries)) with
  | .table entries => some entries
  | _ => none

end Toml

end SpeechQueue
