import SpeechQueue.Engine.Basic

/-! # An engine with fixed answers

It keeps nothing and answers every request of a kind alike. -/

namespace SpeechQueue

structure Scripted where
  initError : Option EngineError
  speakError : Option EngineError
  language : LanguageStatus
deriving DecidableEq, Repr

namespace Scripted

/-- The result that a possible error stands for. -/
def result : Option EngineError → Except EngineError Unit
  | none => .ok ()
  | some error => .error error

def engine : Engine Scripted where
  start s := (.answered (result s.initError), s, [])
  finishStart s := (some (result s.initError), s, [])
  setLanguage _ s := (s.language, s)
  setRate _ s := s
  setPitch _ s := s
  speak _ s := (result s.speakError, s, [])
  shutDown s := (s, [])

end Scripted

end SpeechQueue
