import SpeechQueue.CommandLine.Program

/-! # The command line

Reads the settings from the current folder and the environment, makes the requests of the standard
input at the times they come, and writes the log to the standard output. Errors that are reported to
the listener go to the error output. -/

namespace SpeechQueue

namespace Main

/-- The files of the current folder that settings are read from. -/
def readFolder : IO Settings.Folder := do
  let names := Settings.fileNames.flatMap fun name => [name, name ++ ".toml"]
  names.filterMapM fun (name : String) => do
    try
      return some (name, ← IO.FS.readFile name)
    catch _ => return none

/-- A variable as the environment lists it: its name, an equals sign and its value. -/
def namedValue? (entry : List UInt8) : Option (String × String) := do
  let name := entry.takeWhile (· ≠ 61)
  return (← String.fromUTF8? ⟨name.toArray⟩,
    ← String.fromUTF8? ⟨(entry.drop (name.length + 1)).toArray⟩)

/-- The variables that are looked up by name where the environment cannot be listed. -/
def variableNames : List String :=
  Program.filterVariable ::
    (Settings.builtIn.map fun (key, _) =>
      "VOXQUEUE_" ++ (key.toUpper.replace "." "__"))

def readEnvironment : IO (List (String × String)) := do
  try
    let listed ← IO.FS.readBinFile "/proc/self/environ"
    return (Script.pieces (· = 0) listed.toList).filterMap namedValue?
  catch _ =>
    variableNames.filterMapM fun name => do
      return (← IO.getEnv name).map fun value => (name, value)

/-- Writes the records among some effects, and what the listener is told. -/
def emit (p : Program) (effects : List Effect) : IO Unit := do
  for record in p.written (Effect.records effects) do
    IO.println (p.form record)
  for effect in effects do
    if let .tell _ message := effect then
      IO.eprintln ("! " ++ message)
  (← IO.getStdout).flush

/-- Waits until so many nanoseconds have passed since the session began. -/
partial def sleepUntil (began time : Nat) : IO Unit := do
  if (← IO.monoNanosNow) - began < time then
    IO.sleep 1
    sleepUntil began time

/-- Reads bytes up to the end of a line. There are none at the end of the input. -/
partial def readLine (input : IO.FS.Stream) (line : ByteArray) : IO ByteArray := do
  let next ← input.read 1
  if next.isEmpty || next.toList.contains 10 then return line ++ next
  readLine input (line ++ next)

/-- Lets the session go on until a line of the input is there. -/
partial def awaitLine (began : Nat) (line : Task (Except IO.Error ByteArray)) (p : Program) :
    IO Program := do
  let finished ← IO.hasFinished line
  let (p, effects) := p.advanceTo ((← IO.monoNanosNow) - began)
  emit p effects
  if finished then return p
  IO.sleep 10
  awaitLine began line p

def fail (failure : Program.Failure) : IO UInt32 := do
  IO.eprintln failure.message
  return failure.exitCode.toUInt32

def obey (command : Command) (p : Program) : IO Program := do
  let (_, p, effects) := p.ask command.request
  emit p effects
  return p

partial def serve (began : Nat) (input : IO.FS.Stream) (p : Program) : IO UInt32 := do
  let line ← IO.asTask (readLine input .empty)
  let p ← awaitLine began line p
  match Script.linesOfBytes (← IO.ofExcept line.get).toList with
  | [] =>
    discard (obey .quit p)
    return 0
  | none :: _ => fail .input
  | some line :: _ =>
    match Command.ofLine? line with
    | none => serve began input p
    | some command =>
      let p ← obey command p
      if command = .quit then return 0
      serve began input p

end Main

end SpeechQueue

open SpeechQueue

def main : IO UInt32 := do
  let environment ← Main.readEnvironment
  match Settings.load (← Main.readFolder) none environment with
  | .error fault => Main.fail (.settings fault)
  | .ok settings =>
    match Program.filterOf? environment settings with
    | none => Main.fail .filter
    | some filter =>
      let p := Program.new settings filter
      Main.emit p (p.opening.map .record)
      let began ← IO.monoNanosNow
      let (goesOn, p, effects) := p.ask .init
      Main.sleepUntil began p.session.now
      Main.emit p effects
      if goesOn then Main.serve began (← IO.getStdin) p else Main.fail .engine
