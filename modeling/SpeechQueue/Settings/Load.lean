import SpeechQueue.Settings.Coerce
import SpeechQueue.Toml.Document

/-! # Loading the settings

Settings come from built-in values, from files and from environment variables; what comes later
wins, key by key. Without a path there are two files, either of which may be missing; a file that is
asked for by its path has to be there. -/

namespace SpeechQueue

namespace Settings

inductive Fault where
  /-- A file is missing or cannot be read. -/
  | unreadable
  /-- A key leads to a place that a list cannot have, over which loading breaks off. -/
  | noPlace
  | unfit
  | invalid (flaw : Flaw)
deriving DecidableEq, Repr

/-- The wording of a fault, without what the readers of files and values add to it. -/
def Fault.message : Fault → String
  | .unreadable => "Failed to load configuration"
  | .noPlace => "No such place"
  | .unfit => "Failed to parse configuration"
  | .invalid flaw => "Configuration validation failed: " ++ flaw.message

def builtIn : List (String × Tree) :=
  [("engine.locale", .string Controller.defaultLocale),
   ("engine.supported_locales", .list [.string "en-US", .string "en-GB"]),
   ("engine.init_delay_ms", .integer 100),
   ("engine.words_per_minute", .integer 180),
   ("engine.queue_capacity", .integer 256),
   ("speech.rate", .decimal (.ofNat 1)),
   ("speech.pitch", .decimal (.ofNat 1)),
   ("speech.volume", .decimal (.ofRatio false 1 2)),
   ("log.level", .string "info"),
   ("log.json", .boolean false)]

/-! ## The environment -/

/-- What the names of the variables begin with, in either case. -/
def variableStart : List Char := "voxqueue_".toList

/-- The key that a name stands for: two underscores stand for a dot. -/
def dotted : List Char → List Char
  | '_' :: '_' :: rest => '.' :: dotted rest
  | c :: rest => c :: dotted rest
  | [] => []

def keyOfVariable? (name : String) : Option String :=
  let chars := name.toList.map Char.toLower
  if variableStart.isPrefixOf chars then
    some (String.ofList (dotted (chars.drop variableStart.length)))
  else none

/-- The value of a variable: a truth value, a whole number, a decimal number, or else a text. -/
def valueOfVariable (value : String) : Tree :=
  if value.toLower = "true" then .boolean true
  else if value.toLower = "false" then .boolean false
  else match Tree.readSigned? value with
    | some n => .integer n
    | none =>
      match (Binary.read? value.toList : Option Double) with
      | some x => .decimal x
      | none => .string value

def ofEnvironment (environment : List (String × String)) : List (String × Tree) :=
  environment.filterMap fun (name, value) =>
    (keyOfVariable? name).map fun key => (key, valueOfVariable value)

/-! ## Files -/

/-- The files of a folder, with their contents. -/
abbrev Folder := List (String × String)

/-- The files that are read without being asked for, by their names without the last part. -/
def fileNames : List String := ["voxqueue", "voxqueue.local"]

/-- The name has the ending of a file that can be read, and something before it. -/
def isReadable (name : String) : Bool :=
  let last := name.toList.reverse.takeWhile (· ≠ '/')
  "lmot.".toList.isPrefixOf last && 5 < last.length

/-- The names that a path leads through, from the folder on, and whether it has to end with a
folder. A path that starts elsewhere, or goes up, leads to no file of the folder. -/
def namesOf? (path : String) : Option (List String × Bool) :=
  let parts := (path.toList.splitOn '/').map String.ofList
  let names := parts.filter fun part => part ≠ "" ∧ part ≠ "."
  if path.toList.head? = some '/' ∨ names = [] ∨ names.contains ".." then none
  else some (names, parts.getLast? ≠ names.getLast?)

/-- The content of the file that a path stands for: the file with just this name, which then has to
be one that can be read, or the file with the ending added. -/
def contentOf? (folder : Folder) (path : String) : Option String := do
  let (names, isFolder) ← namesOf? path
  let name := "/".intercalate names
  match if isFolder then none else folder.lookup name with
  | some content => if isReadable name then some content else none
  | none => folder.lookup (name ++ ".toml")

def ofContent (content : String) : Except Fault (List (String × Tree)) :=
  match Toml.read? content with
  | some entries => .ok (Tree.ofTomlEntries entries)
  | none => .error .unreadable

def contents (folder : Folder) : Option String → Except Fault (List String)
  | some path =>
    match contentOf? folder path with
    | some content => .ok [content]
    | none => .error .unreadable
  | none => .ok (fileNames.filterMap (contentOf? folder))

/-! ## Everything together -/

def add (source : List (String × Tree)) (t : Tree) : Except Fault Tree :=
  match Tree.merge? source t with
  | some t => .ok t
  | none => .error .noPlace

/-- What all sources say together. The files and the environment are merged with one another before
they are merged into the built-in values, and each file is merged before the next one is read. -/
def sources (folder : Folder) (path : Option String) (environment : List (String × String)) :
    Except Fault Tree := do
  let files ← (← contents folder path).foldlM
    (fun t content => do add (← ofContent content) t) (Tree.branch [])
  let given ← add (ofEnvironment environment) files
  add given.entries (← add builtIn (Tree.branch []))

def load (folder : Folder) (path : Option String) (environment : List (String × String)) :
    Except Fault Settings := do
  match ofTree? (← sources folder path environment) with
  | none => .error .unfit
  | some settings =>
    match settings.flaw? with
    | some flaw => .error (.invalid flaw)
    | none => .ok settings

end Settings

end SpeechQueue
