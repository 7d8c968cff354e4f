import SpeechQueue.Log.Record

/-! # Which records are written

A filter is a list of directives. Each gives a level to the records of the targets that start with
its own, and the most specific directive that applies to a record decides. -/

namespace SpeechQueue

/-- How much is shown of the targets that start with a text, or of all targets. -/
structure Filter.Rule where
  target : Option String
  /-- Only records with all of these fields are meant. -/
  fields : List String
  /-- From nothing, at zero, to everything, at five. -/
  verbosity : Nat
deriving DecidableEq, Repr

/-- The rules of a filter, the most specific first. -/
structure Filter where
  rules : List Filter.Rule
deriving DecidableEq, Repr

namespace Filter

/-- What a directive says. A directive about a part of the program that is entered and left, or
about the values of fields, is of no consequence for single records. -/
inductive Directive where
  | rule (rule : Rule)
  | scoped
deriving DecidableEq, Repr

/-- How specific a rule is: by the length of its target, if it has one, and then by its fields. -/
def Rule.rank (r : Rule) : Nat × Nat :=
  (match r.target with | none => 0 | some t => t.utf8ByteSize + 1, r.fields.length)

/-- The first rule comes before the second: it is more specific, or as specific and later in the
order of texts. -/
def Rule.before (r s : Rule) : Bool :=
  let (a, b) := r.rank
  let (c, d) := s.rank
  c < a || (c = a && (d < b || (d = b && (s.target.getD "" < r.target.getD "" ||
    (s.target = r.target && s.fields < r.fields)))))

def insertRule (rule : Rule) : List Rule → List Rule
  | [] => [rule]
  | r :: rest =>
    if r.target = rule.target ∧ r.fields = rule.fields then rule :: rest
    else if rule.before r then rule :: r :: rest
    else r :: insertRule rule rest

/-- The filter of some directives. Without any, only errors are shown. -/
def ofDirectives (directives : List Directive) : Filter :=
  if directives = [] then ⟨[⟨none, [], 1⟩]⟩
  else ⟨directives.foldl (fun rules d =>
    match d with
    | .rule rule => insertRule rule rules
    | .scoped => rules) []⟩

def messageField : String := "message"

def Rule.appliesTo (rule : Rule) (record : Record) : Bool :=
  (match rule.target with
    | none => true
    | some target => target.toList.isPrefixOf record.target.toList) &&
  rule.fields.all fun name =>
    name = messageField || record.fields.any fun field => field.1 = name

def passes (f : Filter) (record : Record) : Bool :=
  match f.rules.find? fun rule => rule.appliesTo record with
  | some rule => record.level.verbosity ≤ rule.verbosity
  | none => false

end Filter

end SpeechQueue
