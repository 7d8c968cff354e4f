import SpeechQueue.Controller
import SpeechQueue.Engine.Console
import SpeechQueue.Text.Blank

/-! # Settings

All that can be configured, the defaults, and which settings can be used. -/

namespace SpeechQueue

structure EngineSettings where
  locale : String
  supportedLocales : List String
  /-- How long starting takes, in milliseconds. -/
  initDelay : Nat
  wordsPerMinute : Nat
  queueCapacity : Nat
deriving DecidableEq, Repr

structure LogSettings where
  /-- The level from which on records are written. -/
  level : String
  json : Bool
deriving DecidableEq, Repr

structure Settings where
  engine : EngineSettings
  speech : Parameters
  log : LogSettings
deriving DecidableEq

namespace Settings

/-- The largest whole number that a setting can have. -/
def maxWhole : Nat := Nat.pow 2 64 - 1

/-- The largest speed in words per minute. -/
def maxSpeed : Nat := Nat.pow 2 32 - 1

def defaultEngine : EngineSettings := ⟨Controller.defaultLocale, ["en-US", "en-GB"], 100, 180, 256⟩

def defaultLog : LogSettings := ⟨"info", false⟩

def default : Settings := ⟨defaultEngine, .default, defaultLog⟩

def controller (s : Settings) : Controller.Setup := ⟨s.engine.locale, s.speech⟩

def console (s : Settings) : Console.Setup :=
  ⟨s.engine.wordsPerMinute, s.engine.supportedLocales, .ofMilliseconds s.engine.initDelay,
    s.engine.queueCapacity⟩

inductive Flaw where
  | emptyLocale
  | noSpeed
  | noCapacity
  | speech (flaw : Parameters.Flaw)
deriving DecidableEq, Repr

def Flaw.message : Flaw → String
  | .emptyLocale => "Engine locale cannot be empty"
  | .noSpeed => "Words per minute cannot be 0"
  | .noCapacity => "Queue capacity cannot be 0"
  | .speech flaw => "Invalid speech defaults: " ++ flaw.message

def flaw? (s : Settings) : Option Flaw :=
  if (trim s.engine.locale.toList).isEmpty then some .emptyLocale
  else if s.engine.wordsPerMinute = 0 then some .noSpeed
  else if s.engine.queueCapacity = 0 then some .noCapacity
  else s.speech.flaw?.map .speech

/-- The lines that announce the settings. -/
def banner (s : Settings) : List String :=
  ["=== Application Configuration ===",
   "Locale: " ++ s.engine.locale,
   "Supported Locales: " ++ quotedList s.engine.supportedLocales,
   "Init Delay: " ++ toString s.engine.initDelay ++ "ms",
   "Words Per Minute: " ++ toString s.engine.wordsPerMinute,
   "Speech Defaults: rate=" ++ s.speech.rate.text ++ " pitch=" ++ s.speech.pitch.text
    ++ " volume=" ++ s.speech.volume.text,
   "Log Level: " ++ s.log.level,
   "================================="]

def bannerRecords (s : Settings) : List Record :=
  s.banner.map fun line => ⟨.info, "voxqueue::config::loader", line, []⟩

end Settings

end SpeechQueue
