import SpeechQueue.Parameters

/-! # Directives

A directive is an instruction found in a text that changes the speech parameters. Dials take the
value that follows them; cues stand for a fixed change. -/

namespace SpeechQueue

inductive Directive where
  | speed (value : Single)
  | pitch (value : Single)
  | toot (value : Single)
  | normal
  | quickly
  | slowly
  | low
  | high
  | soft
  | loud
deriving DecidableEq

namespace Directive

def keyword : Directive → String
  | .speed _ => "speed"
  | .pitch _ => "pitch"
  | .toot _ => "toot"
  | .normal => "normal"
  | .quickly => "quickly"
  | .slowly => "slowly"
  | .low => "low"
  | .high => "high"
  | .soft => "soft"
  | .loud => "loud"

def value? : Directive → Option Single
  | .speed v => some v
  | .pitch v => some v
  | .toot v => some v
  | _ => none

/-- The directive as it is named in the log. -/
def detail : Directive → String
  | .speed v => "Speed(" ++ v.detail ++ ")"
  | .pitch v => "Pitch(" ++ v.detail ++ ")"
  | .toot v => "Toot(" ++ v.detail ++ ")"
  | .normal => "Normal"
  | .quickly => "Quickly"
  | .slowly => "Slowly"
  | .low => "Low"
  | .high => "High"
  | .soft => "Soft"
  | .loud => "Loud"

def details (directives : List Directive) : String :=
  "[" ++ ", ".intercalate (directives.map detail) ++ "]"

end Directive

/-- A whole word that is followed by a value. -/
structure Dial where
  keyword : String
  report : Single → Directive
  turn : Single → Parameters → Parameters

/-- Letters that have their effect wherever they stand, also within a word. -/
structure Cue where
  keyword : String
  report : Directive
  apply : Parameters → Parameters

def dials : List Dial :=
  [⟨"speed", .speed, fun v p => { p with rate := v }⟩,
   ⟨"pitch", .pitch, fun v p => { p with pitch := v }⟩,
   ⟨"toot", .toot, fun v p => { p with volume := v }⟩]

/-- The cues in the order in which they are applied, so that a later one wins. -/
def cues : List Cue :=
  [⟨"normal", .normal, fun _ => .default⟩,
   ⟨"quickly", .quickly, fun p => { p with rate := .ofNat 3 }⟩,
   ⟨"slowly", .slowly, fun p => { p with rate := .ofRatio false 1 2 }⟩,
   ⟨"low", .low, fun p => { p with pitch := .ofRatio false 1 2 }⟩,
   ⟨"high", .high, fun p => { p with pitch := .ofNat 3 }⟩,
   ⟨"soft", .soft, fun p => { p with volume := .ofRatio false 1 10 }⟩,
   ⟨"loud", .loud, fun p => { p with volume := .ofNat 1 }⟩]

def keywords : List String :=
  dials.map Dial.keyword ++ cues.map Cue.keyword

end SpeechQueue
