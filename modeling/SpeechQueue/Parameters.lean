import SpeechQueue.Number.Layout

/-! # Speech parameters

Rate, pitch and volume of an utterance. Only configured defaults are checked; values that a
directive sets are taken as they are. -/

namespace SpeechQueue

structure Parameters where
  rate : Single
  pitch : Single
  volume : Single
deriving DecidableEq

namespace Parameters

def defaultRate : Single := .ofNat 1

def defaultPitch : Single := .ofNat 1

def defaultVolume : Single := .ofRatio false 1 2

def default : Parameters := ⟨defaultRate, defaultPitch, defaultVolume⟩

instance : Inhabited Parameters := ⟨default⟩

inductive Flaw where
  | rate
  | pitch
  | volume
deriving DecidableEq, Repr

def Flaw.message : Flaw → String
  | .rate => "rate must be greater than 0"
  | .pitch => "pitch must be greater than 0"
  | .volume => "volume must be between 0.0 and 1.0"

/-- The value is above zero; neither zero is, nor what is not a number. -/
def positive (x : Single) : Bool :=
  x.isNumber && !x.le (.zero false)

def withinUnit (x : Single) : Bool :=
  Binary.le (.zero false) x && x.le (.ofNat 1)

def flaw? (p : Parameters) : Option Flaw :=
  if !positive p.rate then some .rate
  else if !positive p.pitch then some .pitch
  else if !withinUnit p.volume then some .volume
  else none

end Parameters

end SpeechQueue
