import SpeechQueue.Number.Binary
import SpeechQueue.Text.Blank

/-! # How long an utterance takes

The time grows with the number of words and shrinks with the rate. Seconds are computed in 64-bit
values, each operation rounded once, and then rounded to whole nanoseconds. Whoever waits for such a
time to pass waits for a timer, and timers only go off on whole milliseconds. -/

namespace SpeechQueue

structure Duration where
  nanoseconds : Nat
deriving DecidableEq, Repr

namespace Duration

def zero : Duration := ⟨0⟩

def perSecond : Nat := 1000000000

def ofMilliseconds (n : Nat) : Duration := ⟨n * 1000000⟩

def milliseconds (d : Duration) : Nat := d.nanoseconds / 1000000

def seconds (d : Duration) : Nat := d.nanoseconds / perSecond

def subsecond (d : Duration) : Nat := d.nanoseconds % perSecond

/-- The whole nanoseconds nearest to a number of seconds, ties to even. Only finite values that are
not negative are spans of time; any other gives no time. -/
def ofSeconds : Double → Duration
  | .finite false quanta _ => ⟨nearestEven (quanta * perSecond) (Nat.pow 2 Format.double.scale)⟩
  | _ => .zero

/-- A number of seconds is a span of time: it is finite and not below zero, and its whole seconds
fit 64 bits. -/
def isSpan (x : Double) : Bool :=
  x.isFinite && Binary.le (.zero false) x && Binary.lt x (.ofNat (Nat.pow 2 64))

def ofSeconds? (x : Double) : Option Duration :=
  if isSpan x then some (ofSeconds x) else none

end Duration

/-- When timers go off, by the times in nanoseconds that they are set to. None goes off early, and none
before one that is set to an earlier time. -/
structure Timer where
  ring : Nat → Nat
  le_ring (time : Nat) : time ≤ ring time
  mono {early late : Nat} : early ≤ late → ring early ≤ ring late

namespace Timer

/-- Timers that go off at the very time that they are set to. -/
def exact : Timer := ⟨id, Nat.le_refl, id⟩

/-- Timers that go off at the first whole millisecond from then on, as those of the runtime do. -/
def milliseconds : Timer where
  -- The constants stand in front, where unfolding does not count them down.
  ring time := 1000000 * ((999999 + time) / 1000000)
  le_ring time := by omega
  mono order := Nat.mul_le_mul_left _ (Nat.div_le_div_right (Nat.add_le_add_left order _))

/-- When a wait is over that begins at a time. -/
def after (timer : Timer) (now : Nat) (span : Duration) : Nat := timer.ring (now + span.nanoseconds)

theorem le_after (timer : Timer) (now : Nat) (span : Duration) : now ≤ timer.after now span :=
  Nat.le_trans (Nat.le_add_right _ _) (timer.le_ring _)

theorem after_mono (timer : Timer) {early late : Nat} (order : early ≤ late) (span : Duration) :
    timer.after early span ≤ timer.after late span :=
  timer.mono (Nat.add_le_add_right order _)

end Timer

namespace Playback

def slowest : Single := .ofRatio false 1 4

/-- The rate used for timing: never below the slowest, and neutral in place of an infinity or of
what is not a number. -/
def effectiveRate (rate : Single) : Single :=
  if rate.isFinite then Binary.max rate slowest else .ofNat 1

/-- The seconds that `words` words take: sixty per word, over the words per minute at this rate. -/
def seconds (words wordsPerMinute : Nat) (rate : Single) : Double :=
  Binary.ofNat words * Binary.ofNat 60
    / (Binary.ofNat wordsPerMinute * (effectiveRate rate).convert)

/-- How long a text takes to speak. Without words, or without a speed, it takes no time. -/
def duration (text : String) (wordsPerMinute : Nat) (rate : Single) : Duration :=
  let count := (words text.toList).length
  if count = 0 ∨ wordsPerMinute = 0 then .zero
  else .ofSeconds (seconds count wordsPerMinute rate)

/-- How long a text takes to speak, if its seconds are a span of time. -/
def duration? (text : String) (wordsPerMinute : Nat) (rate : Single) : Option Duration :=
  let count := (words text.toList).length
  if count = 0 ∨ wordsPerMinute = 0 then some .zero
  else Duration.ofSeconds? (seconds count wordsPerMinute rate)

end Playback

end SpeechQueue
