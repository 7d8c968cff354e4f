import SpeechQueue.Text.Hexadecimal

/-! # Utterances

Where an utterance comes from, how it joins the queue, and the identifier it goes by. -/

namespace SpeechQueue

inductive Source where
  /-- Typed by the user, and searched for directives. -/
  | user
  /-- Produced by the program, and spoken as it is. -/
  | system
deriving DecidableEq, Repr

namespace Source

def name : Source → String
  | .user => "user"
  | .system => "system"

def ofName? (name : String) : Option Source :=
  [user, system].find? fun source => source.name = name

end Source

inductive Mode where
  /-- Cancels the current and all waiting utterances and starts at once. -/
  | flush
  /-- Goes to the end of the queue. -/
  | add
deriving DecidableEq, Repr

namespace Mode

def default : Mode := .add

def name : Mode → String
  | .flush => "flush"
  | .add => "add"

def ofName? (name : String) : Option Mode :=
  [flush, add].find? fun mode => mode.name = name

end Mode

structure UtteranceId where
  bits : BitVec 128
deriving DecidableEq, Repr

namespace UtteranceId

/-- The `count` lowest hexadecimal digits of a number, highest first. -/
def hexDigits (count n : Nat) : List Char :=
  (List.range count).reverse.map fun k => Nat.digitChar (n / Nat.pow 16 k % 16)

def groups : List Nat := [8, 4, 4, 4, 12]

/-- Cuts a list into pieces of the given lengths and joins them with hyphens. -/
def hyphenate : List Nat → List Char → List Char
  | [], _ => []
  | [count], digits => digits.take count
  | count :: rest, digits => digits.take count ++ '-' :: hyphenate rest (digits.drop count)

/-- The written form: 32 lower-case digits in five groups. -/
def text (id : UtteranceId) : String :=
  String.ofList (hyphenate groups (hexDigits 32 id.bits.toNat))

def ofDigits? (digits : List Char) : Option UtteranceId :=
  if digits.length = 32 then
    (hexNumber? digits).map fun n => ⟨BitVec.ofNat 128 n⟩
  else none

/-- Takes the hyphens out of a text that has them just between the groups. -/
def unhyphenate? : List Nat → List Char → Option (List Char)
  | [], _ => none
  | [count], text => if text.length = count then some text else none
  | count :: rest, text =>
    match text.drop count with
    | '-' :: more =>
      if (text.take count).length = count then
        (unhyphenate? rest more).map (text.take count ++ ·)
      else none
    | _ => none

def ofHyphenated? (text : List Char) : Option UtteranceId :=
  (unhyphenate? groups text).bind ofDigits?

def announcement : List Char := "urn:uuid:".toList

/-- Reads an identifier: 32 digits, or the hyphenated form alone, in braces or announced by name.
Digits may be of either case. -/
def read? (text : String) : Option UtteranceId :=
  let chars := text.toList
  match ofDigits? chars, ofHyphenated? chars with
  | some id, _ => some id
  | none, some id => some id
  | none, none =>
    match chars with
    | '\x7b' :: inner =>
      if inner.getLast? = some '\x7d' then ofHyphenated? inner.dropLast else none
    | _ =>
      if (chars.take announcement.length).map Char.toLower = announcement then
        ofHyphenated? (chars.drop announcement.length)
      else none

/-- The identifier of random form with the given 122 free bits: the version is 4 and the variant
the standard one. -/
def ofSeed (seed : BitVec 122) : UtteranceId :=
  ⟨seed.extractLsb' 74 48 ++ (4#4) ++ seed.extractLsb' 62 12 ++ (2#2) ++ seed.extractLsb' 0 62⟩

def version (id : UtteranceId) : BitVec 4 :=
  id.bits.extractLsb' 76 4

/-- The `n`-th identifier of a supply that never repeats one within 2 ^ 122. -/
def supply (n : Nat) : UtteranceId :=
  .ofSeed (.ofNat 122 n)

end UtteranceId

end SpeechQueue
