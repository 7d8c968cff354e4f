import SpeechQueue.Json.Number
import SpeechQueue.Text.Hexadecimal

/-! # JSON values

Values as they are written: numbers keep their digits, objects keep their members in order and
repeated ones too. A text is missing when it names half of a surrogate pair; that is an error only
where the text is wanted. -/

namespace SpeechQueue

inductive JsonValue where
  | null
  | bool (value : Bool)
  | number (value : JsonNumber)
  | string (value : Option String)
  | array (items : List JsonValue)
  | object (members : List (Option String × JsonValue))

namespace JsonValue

inductive Token where
  | mark (c : Char)
  | null
  | bool (value : Bool)
  | number (value : JsonNumber)
  | string (value : Option String)

def isSpace (c : Char) : Bool := c = ' ' || c = '\t' || c = '\n' || c = '\r'

/-- Reads the part of a number after its sign, and gives what follows it. -/
def readNumber? (negative : Bool) (text : List Char) : Option (JsonNumber × List Char) :=
  let whole := match text with
    | '0' :: _ => ['0']
    | _ => text.takeWhile Char.isDigit
  let rest := text.drop whole.length
  let (fraction, pointed, rest) := match rest with
    | '.' :: tail => (tail.takeWhile Char.isDigit, true, tail.dropWhile Char.isDigit)
    | _ => ([], false, rest)
  let (exponent, rest) := match rest with
    | mark :: tail =>
      if mark = 'e' ∨ mark = 'E' then
        let (sign, digits) := Numeral.splitSign tail
        (some (sign, digits.takeWhile Char.isDigit), digits.dropWhile Char.isDigit)
      else (none, rest)
    | [] => (none, rest)
  let complete := whole ≠ [] ∧ (pointed → fraction ≠ []) ∧ exponent.all fun e => e.2 ≠ []
  if complete then some (⟨negative, whole, fraction, exponent⟩, rest) else none

/-- The value of four hexadecimal digits, and what follows them. -/
def readHex? (text : List Char) : Option (Nat × List Char) :=
  match text with
  | a :: b :: c :: d :: rest =>
    (hexNumber? [a, b, c, d]).map (·, rest)
  | _ => none

def escape? : Char → Option Char
  | '"' => some '"'
  | '\\' => some '\\'
  | '/' => some '/'
  | 'b' => some '\x08'
  | 'f' => some '\x0c'
  | 'n' => some '\n'
  | 'r' => some '\r'
  | 't' => some '\t'
  | _ => none

/-- A code unit of a text: a character, or a number of 16 bits. -/
inductive Unit16 where
  | char (c : Char)
  | unit (n : Nat)

/-- Reads the units of a text up to the closing quote, and gives what follows it. There is fuel for
each character. -/
def readUnits? : Nat → List Char → Option (List Unit16 × List Char)
  | 0, _ => none
  | fuel + 1, text =>
    match text with
    | [] => none
    | '"' :: rest => some ([], rest)
    | '\\' :: 'u' :: rest => do
      let (n, rest) ← readHex? rest
      let (units, rest) ← readUnits? fuel rest
      return (.unit n :: units, rest)
    | '\\' :: c :: rest => do
      let c ← escape? c
      let (units, rest) ← readUnits? fuel rest
      return (.char c :: units, rest)
    | c :: rest =>
      if c.toNat < 0x20 ∨ c = '\\' then none
      else do
        let (units, rest) ← readUnits? fuel rest
        return (.char c :: units, rest)

/-- The characters of some units; none when half of a surrogate pair stands alone. -/
def joinUnits? : List Unit16 → Option (List Char)
  | [] => some []
  | .char c :: rest => (joinUnits? rest).map (c :: ·)
  | .unit high :: .unit low :: rest =>
    if 0xD800 ≤ high ∧ high < 0xDC00 then
      if 0xDC00 ≤ low ∧ low < 0xE000 then
        let code := 0x10000 + (high - 0xD800) * 0x400 + (low - 0xDC00)
        (joinUnits? rest).map (Char.ofNat code :: ·)
      else none
    else if 0xDC00 ≤ high ∧ high < 0xE000 then none
    else (joinUnits? (.unit low :: rest)).map (Char.ofNat high :: ·)
  | .unit n :: rest =>
    if 0xD800 ≤ n ∧ n < 0xE000 then none else (joinUnits? rest).map (Char.ofNat n :: ·)

def literals : List (String × Token) :=
  [("null", .null), ("true", .bool true), ("false", .bool false)]

def readToken? (c : Char) (rest : List Char) : Option (Token × List Char) :=
  if c ∈ ['\x7b', '\x7d', '[', ']', ':', ','] then some (.mark c, rest)
  else if c = '"' then
    (readUnits? (rest.length + 1) rest).map fun (units, rest) =>
      (.string ((joinUnits? units).map String.ofList), rest)
  else if c = '-' then (readNumber? true rest).map fun (n, rest) => (.number n, rest)
  else if c.isDigit then (readNumber? false (c :: rest)).map fun (n, rest) => (.number n, rest)
  else literals.findSome? fun (word, token) =>
    if word.toList.isPrefixOf (c :: rest) then some (token, (c :: rest).drop word.length) else none

/-- The tokens of a text. There is fuel for each character. -/
def tokens? : Nat → List Char → Option (List Token)
  | _, [] => some []
  | 0, _ => none
  | fuel + 1, c :: rest =>
    if isSpace c then tokens? fuel rest
    else do
      let (token, rest) ← readToken? c rest
      return token :: (← tokens? fuel rest)

mutual

def readValue? : Nat → List Token → Option (JsonValue × List Token)
  | 0, _ => none
  | fuel + 1, tokens =>
    match tokens with
    | .null :: rest => some (.null, rest)
    | .bool b :: rest => some (.bool b, rest)
    | .number n :: rest => some (.number n, rest)
    | .string t :: rest => some (.string t, rest)
    | .mark '[' :: .mark ']' :: rest => some (.array [], rest)
    | .mark '[' :: rest => (readItems? fuel rest).map fun (items, rest) => (.array items, rest)
    | .mark '\x7b' :: .mark '\x7d' :: rest => some (.object [], rest)
    | .mark '\x7b' :: rest =>
      (readMembers? fuel rest).map fun (members, rest) => (.object members, rest)
    | _ => none

def readItems? : Nat → List Token → Option (List JsonValue × List Token)
  | 0, _ => none
  | fuel + 1, tokens =>
    match readValue? fuel tokens with
    | some (item, .mark ']' :: rest) => some ([item], rest)
    | some (item, .mark ',' :: rest) =>
      (readItems? fuel rest).map fun (items, rest) => (item :: items, rest)
    | _ => none

def readMembers? : Nat → List Token → Option (List (Option String × JsonValue) × List Token)
  | 0, _ => none
  | fuel + 1, tokens =>
    match tokens with
    | .string key :: .mark ':' :: rest =>
      match readValue? fuel rest with
      | some (value, .mark '\x7d' :: rest) => some ([(key, value)], rest)
      | some (value, .mark ',' :: rest) =>
        (readMembers? fuel rest).map fun (members, rest) => ((key, value) :: members, rest)
      | _ => none
    | _ => none

end

/-- Reads a text that holds one value and nothing else. -/
def read? (text : String) : Option JsonValue := do
  let chars := text.toList
  let tokens ← tokens? chars.length chars
  match ← readValue? (2 * tokens.length + 1) tokens with
  | (value, []) => some value
  | _ => none

mutual

/-- Every number can be read, every text is complete, and no more than `depth` arrays and objects
lie within one another. -/
def isSound (depth : Nat) : JsonValue → Bool
  | .number n => n.reading?.isSome
  | .string t => t.isSome
  | .array items => 0 < depth && areSound (depth - 1) items
  | .object members => 0 < depth && areSoundMembers (depth - 1) members
  | _ => true

def areSound (depth : Nat) : List JsonValue → Bool
  | [] => true
  | value :: rest => isSound depth value && areSound depth rest

def areSoundMembers (depth : Nat) : List (Option String × JsonValue) → Bool
  | [] => true
  | (key, value) :: rest => key.isSome && isSound depth value && areSoundMembers depth rest

end

end JsonValue

end SpeechQueue
