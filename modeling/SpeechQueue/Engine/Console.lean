import SpeechQueue.Engine.Basic
import SpeechQueue.Playback.Player

/-! # The console engine

It speaks by writing to the log and letting the time pass that speaking would take. Starting it
installs a player with a channel of bounded capacity; starting it again, while an earlier start is
awaited, installs another one, and the earlier player goes on until its channel is empty. -/

namespace SpeechQueue

open Playback

namespace Console

structure Setup where
  /-- Its speed at the neutral rate. -/
  wordsPerMinute : Nat
  /-- The languages it speaks, compared without regard to ASCII case. -/
  supportedLocales : List String
  initDelay : Duration
  /-- How many utterances can wait; at least one can. -/
  queueCapacity : Nat
deriving DecidableEq, Repr

def Setup.default : Setup := ⟨180, ["en-US", "en-GB"], .ofMilliseconds 100, 256⟩

def defaultVolume : Single := .ofNat 1

end Console

structure Console where
  setup : Console.Setup
  rate : Single
  pitch : Single
  /-- Goes up with every flush and every shutdown. -/
  generation : Nat
  /-- The player that utterances go to. -/
  installed : Option Player
  /-- Players that get no more utterances, the earliest first. -/
  detached : List Player
  played : Nat
deriving DecidableEq

namespace Console

def new (setup : Setup) : Console := ⟨setup, .ofNat 1, .ofNat 1, 0, none, [], 0⟩

def sameIgnoringCase (s t : String) : Bool :=
  s.toList.map Char.toLower = t.toList.map Char.toLower

def languageStatus (setup : Setup) (locale : String) : LanguageStatus :=
  if setup.supportedLocales.any fun l => sameIgnoringCase l locale then .ok else .notSupported

/-- A running engine is started already; one without speed cannot be. -/
def start (c : Console) : Start × Console × List Record :=
  if c.installed.isSome then (.answered (.ok ()), c, [])
  else if c.setup.wordsPerMinute = 0 then
    (.answered (.error (.initFailed "words_per_minute cannot be 0")), c, [])
  else (.awaited c.setup.initDelay, c, [])

def capacity (c : Console) : Nat := max 1 c.setup.queueCapacity

/-- How many utterances a channel can have room for. -/
def maxCapacity : Nat := Nat.pow 2 61 - 1

/-- Installs a player, in place of one that may be there by now. The engine breaks down if it is
to have more room than a channel can have. -/
def finishStart (c : Console) : Option (Except EngineError Unit) × Console × List Record :=
  if maxCapacity < c.capacity then (none, c, [])
  else
    (some (.ok ()),
      { c with
        detached := c.detached ++ c.installed.toList
        installed := some (.new c.generation) },
      [⟨.info, Playback.target, "ConsoleSpeechEngine initialized",
        [("words_per_minute", .count c.setup.wordsPerMinute)]⟩])

def item (c : Console) (speech : Speech) : Item where
  text := speech.text
  generation := c.generation
  rate := c.rate
  pitch := c.pitch
  volume := (speech.attributes.bind Attributes.volume?).getD defaultVolume
  id := speech.attributes.bind fun a => a.get? Attributes.idKey

/-- Puts an utterance into the channel, if there is one and it is not full. A flush counts as one
even when there is no room for its utterance. -/
def speak (speech : Speech) (c : Console) : Except EngineError Unit × Console × List Record :=
  match c.installed with
  | none => (.error (.unavailable "engine not running"), c, [])
  | some player =>
    let c := match speech.mode with
      | .flush => { c with generation := c.generation + 1 }
      | .add => c
    -- Nobody finds the channel closed: its player stays as long as the engine holds the other end.
    if c.capacity ≤ player.waiting.length then
      (.error (.rejected "playback queue full"), c, [])
    else
      let player := { player with waiting := player.waiting ++ [c.item speech] }
      (.ok (), { c with installed := some player }, [])

/-- Lets go of the player and cancels all that was accepted. -/
def shutDown (c : Console) : Console × List Record :=
  ({ c with
      detached := c.detached ++ c.installed.toList
      installed := none
      generation := c.generation + 1 },
    [⟨.info, Playback.target, "ConsoleSpeechEngine shut down", []⟩])

def players (c : Console) : List Player := c.detached ++ c.installed.toList

/-- Lets every player do what it can at a time: a fresh player first, and then the others, the
earliest first. -/
def play (now : Nat) (c : Console) : Console × List Event :=
  let detached := c.detached.map (Player.settle c.setup.wordsPerMinute c.generation now false)
  let installed := c.installed.map (Player.settle c.setup.wordsPerMinute c.generation now true)
  let before := detached.flatMap (·.2)
  let latest := installed.toList.flatMap (·.2)
  let isFresh := c.installed.any (·.stage = .fresh)
  let events := if isFresh then latest ++ before else before ++ latest
  ({ c with
      detached := (detached.map (·.1)).filter (·.stage ≠ .stopped)
      installed := installed.map (·.1)
      played := c.played + events.countP Event.isCompletion },
    events)

def due (c : Console) : Option Nat :=
  (c.players.filterMap Player.due).min?

/-- How many utterances can still end. -/
def backlog (c : Console) : Nat :=
  c.players.foldr (fun p n => p.backlog + n) 0

def engine : Engine Console where
  start := start
  finishStart := finishStart
  setLanguage locale c := (languageStatus c.setup locale, c)
  setRate rate c := { c with rate := rate }
  setPitch pitch c := { c with pitch := pitch }
  speak := speak
  shutDown := shutDown
  due := due
  backlog := backlog
  settle now c :=
    let (c, events) := c.play now
    (c, events.filterMap Event.record?)

end Console

end SpeechQueue
