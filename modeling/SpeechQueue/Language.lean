/-! # Language support

What an engine says of a language it is asked to speak. -/

namespace SpeechQueue

inductive LanguageStatus where
  | ok
  | missingData
  | notSupported
deriving DecidableEq, Repr

namespace LanguageStatus

def isUsable : LanguageStatus → Bool
  | .ok => true
  | _ => false

def name : LanguageStatus → String
  | .ok => "Ok"
  | .missingData => "MissingData"
  | .notSupported => "NotSupported"

def ofName? (name : String) : Option LanguageStatus :=
  [ok, missingData, notSupported].find? fun status => status.name = name

end LanguageStatus

end SpeechQueue
