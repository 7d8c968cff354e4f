import SpeechQueue.Number.Binary

/-! # TOML values

The values that a TOML document can hold, and the tables it is built of while it is read. A table
remembers how it came to be, because only some tables may be added to later. -/

namespace SpeechQueue

/-- A TOML value. A date or a time is kept in its written form. -/
inductive Toml where
  | boolean (value : Bool)
  | integer (value : Int)
  | decimal (value : Double)
  | moment (form : String)
  | string (value : String)
  | array (items : List Toml)
  | table (entries : List (String × Toml))

namespace Toml

inductive Origin where
  /-- By a header of its own, or as the table of the document. -/
  | header
  /-- By a header of a table within it. -/
  | implied
  /-- By a dotted key. -/
  | dotted
deriving DecidableEq, Repr

inductive Node where
  | value (value : Toml)
  | table (origin : Origin) (entries : List (String × Node))
  /-- An array of tables, to whose last one is added; the last one comes first. -/
  | tables (latest : List (String × Node)) (earlier : List (List (String × Node)))

/-- The entries of a table that is being read, in the order of their keys' first mention. -/
abbrev Entries := List (String × Node)

namespace Entries

def replace (key : String) (node : Node) : Entries → Entries
  | [] => []
  | (k, n) :: rest => if k = key then (k, node) :: rest else (k, n) :: replace key node rest

/-- Changes the table that a path leads to, making the tables on the way that do not exist. A path
of a dotted key may not lead through a table that has a header of its own. -/
def alter (dotted : Bool) (change : Origin → Entries → Option Entries) :
    List String → Origin → Entries → Option Entries
  | [], origin, entries => change origin entries
  | key :: rest, _, entries =>
    match entries.lookup key with
    | none => do
      let origin := if dotted then Origin.dotted else Origin.implied
      let inner ← alter dotted change rest origin []
      return entries ++ [(key, .table origin inner)]
    | some (.table origin inner) =>
      if dotted ∧ origin = .header then none
      else do
        let inner ← alter dotted change rest origin inner
        return replace key (.table origin inner) entries
    | some (.tables latest earlier) => do
      let latest ← alter dotted change rest .header latest
      return replace key (.tables latest earlier) entries
    | some (.value _) => none

/-- Adds a value under a key path. Keys may not be repeated, and the tables that a dotted path names
must have come to be by dotted keys. -/
def assign (path : List String) (key : String) (value : Toml) (entries : Entries) :
    Option Entries :=
  alter true (fun origin inner =>
    if path ≠ [] ∧ origin ≠ .dotted then none
    else match inner.lookup key with
      | none => some (inner ++ [(key, .value value)])
      | some _ => none) path .header entries

/-- Opens the table with a header. It may exist only as one that was implied so far, which then
leaves its place and becomes the last one. -/
def openTable (path : List String) (key : String) (entries : Entries) : Option Entries :=
  alter false (fun _ inner =>
    match inner.lookup key with
    | none => some (inner ++ [(key, .table .header [])])
    | some (.table .implied held) =>
      some (inner.filter (·.1 ≠ key) ++ [(key, .table .header held)])
    | some _ => none) path .header entries

def addTable (path : List String) (key : String) (entries : Entries) : Option Entries :=
  alter false (fun _ inner =>
    match inner.lookup key with
    | none => some (inner ++ [(key, .tables [] [])])
    | some (.tables latest earlier) => some (replace key (.tables [] (latest :: earlier)) inner)
    | some _ => none) path .header entries

end Entries

mutual

def Node.toml : Node → Toml
  | .value value => value
  | .table _ entries => .table (entriesToml entries)
  | .tables latest earlier => .array (tablesToml earlier [.table (entriesToml latest)])

def entriesToml : List (String × Node) → List (String × Toml)
  | [] => []
  | (key, node) :: rest => (key, node.toml) :: entriesToml rest

/-- The values of some tables, of which the last comes first, before those that follow them. -/
def tablesToml : List (List (String × Node)) → List Toml → List Toml
  | [], later => later
  | entries :: rest, later => tablesToml rest (.table (entriesToml entries) :: later)

end

end Toml

end SpeechQueue
