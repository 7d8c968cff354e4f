/-! # Errors

What an engine can answer instead of doing what it was asked, and what a submitter is told. -/

namespace SpeechQueue

inductive EngineError where
  | initFailed (reason : String)
  | unavailable (reason : String)
  | rejected (reason : String)
deriving DecidableEq, Repr

def EngineError.message : EngineError → String
  | .initFailed reason => "Initialization failed: " ++ reason
  | .unavailable reason => "Engine unavailable: " ++ reason
  | .rejected reason => "Speak rejected: " ++ reason

inductive QueueError where
  | notReady
  | initFailed (reason : String)
  | unsupportedLanguage (locale : String)
  | closed
  | speakFailed (reason : String)
deriving DecidableEq, Repr

namespace QueueError

def message : QueueError → String
  | .notReady => "TTS Not Initialized"
  | .initFailed reason => "Initialization Failed! " ++ reason
  | .unsupportedLanguage locale => "This Language is not supported: " ++ locale
  | .closed => "TTS engine has been shut down"
  | .speakFailed reason => "Speak failed: " ++ reason

/-- An unsupported language is only warned of; every other error is fatal to its operation. -/
def isFatal : QueueError → Bool
  | .unsupportedLanguage _ => false
  | _ => true

/-- An engine's refusal to speak, as the queue reports it. -/
def ofSpeak : EngineError → QueueError
  | .initFailed reason => .initFailed reason
  | other => .speakFailed other.message

def ofInit : EngineError → QueueError
  | .initFailed reason => .initFailed reason
  | other => .initFailed other.message

end QueueError

end SpeechQueue
