import SpeechQueue.Proofs.MergedTrees
import SpeechQueue.Toml.Document

/-! # The keys of a document

While a document is read, no table is given a key that it has: a line that repeats one is refused, and a
table that is opened late leaves its old place. So a document that can be read has no table, at any
depth, that names a key twice. Main statement: `read?_distinct`. -/

namespace SpeechQueue

namespace Toml

/-- No table in the value names a key twice. -/
inductive Distinct : Toml → Prop
  | boolean (value : Bool) : Distinct (.boolean value)
  | integer (value : Int) : Distinct (.integer value)
  | decimal (value : Double) : Distinct (.decimal value)
  | moment (form : String) : Distinct (.moment form)
  | string (value : String) : Distinct (.string value)
  | array {items : List Toml} : (∀ item ∈ items, Distinct item) → Distinct (.array items)
  | table {entries : List (String × Toml)} : (entries.map Prod.fst).Nodup →
      (∀ entry ∈ entries, Distinct entry.2) → Distinct (.table entries)

theorem Distinct.keys {entries : List (String × Toml)} (distinct : Distinct (.table entries)) :
    (entries.map Prod.fst).Nodup := by
  cases distinct with
  | table once => exact once

theorem Distinct.entry {entries : List (String × Toml)} (distinct : Distinct (.table entries))
    {entry : String × Toml} (member : entry ∈ entries) : entry.2.Distinct := by
  cases distinct with
  | table _ held => exact held entry member

/-! ## Tables that are being read -/

theorem entriesToml_eq (entries : Entries) :
    entriesToml entries = entries.map fun entry => (entry.1, entry.2.toml) := by
  induction entries with
  | nil => rw [entriesToml, List.map_nil]
  | cons entry entries ih => rw [entriesToml, ih, List.map_cons]

theorem tablesToml_eq (earlier : List Entries) (later : List Toml) : tablesToml earlier later =
    (earlier.map fun entries => Toml.table (entriesToml entries)).reverse ++ later := by
  induction earlier generalizing later with
  | nil => rw [tablesToml, List.map_nil, List.reverse_nil, List.nil_append]
  | cons entries earlier ih => simp [tablesToml, ih]

namespace Entries

/-- The table names every key once, and so do the tables in it. -/
structure Distinct (entries : Entries) : Prop where
  once : (entries.map Prod.fst).Nodup
  held : ∀ entry ∈ entries, entry.2.toml.Distinct

theorem distinct_table_iff {entries : Entries} :
    (Toml.table (entriesToml entries)).Distinct ↔ entries.Distinct := by
  have keys : (entriesToml entries).map Prod.fst = entries.map Prod.fst := by
    rw [entriesToml_eq, List.map_map]
    rfl
  constructor
  · intro distinct
    refine ⟨keys ▸ distinct.keys, fun entry member => ?_⟩
    have inside : (entry.1, entry.2.toml) ∈ entriesToml entries := by
      rw [entriesToml_eq]
      exact List.mem_map_of_mem member
    exact distinct.entry inside
  · intro distinct
    refine .table (keys ▸ distinct.once) fun entry member => ?_
    rw [entriesToml_eq] at member
    obtain ⟨entry, inside, rfl⟩ := List.mem_map.mp member
    exact distinct.held entry inside

theorem distinct_tables_iff {latest : Entries} {earlier : List Entries} :
    (Node.tables latest earlier).toml.Distinct ↔
      ∀ entries ∈ latest :: earlier, entries.Distinct := by
  rw [Node.toml, tablesToml_eq]
  constructor
  · intro distinct entries member
    rw [← distinct_table_iff]
    cases distinct with
    | array items =>
      refine items _ ?_
      rcases List.mem_cons.mp member with rfl | member
      · simp
      · exact List.mem_append_left _ (List.mem_reverse.mpr (List.mem_map_of_mem member))
  · intro distinct
    refine .array fun item member => ?_
    rcases List.mem_append.mp member with member | member
    · obtain ⟨entries, inside, rfl⟩ := List.mem_map.mp (List.mem_reverse.mp member)
      exact distinct_table_iff.mpr (distinct entries (List.mem_cons_of_mem _ inside))
    · rw [List.mem_singleton.mp member]
      exact distinct_table_iff.mpr (distinct latest List.mem_cons_self)

variable {entries inner : Entries} {key : String} {node : Node} {value : Toml}

theorem Distinct.empty : Distinct [] := ⟨List.nodup_nil, by simp⟩

theorem keys_replace : (replace key node entries).map Prod.fst = entries.map Prod.fst := by
  induction entries with
  | nil => rfl
  | cons entry entries ih =>
    rw [replace]
    split
    · rfl
    · simp only [List.map_cons, ih]

theorem mem_replace {entry : String × Node} (member : entry ∈ replace key node entries) :
    entry ∈ entries ∨ entry.2 = node := by
  induction entries with
  | nil => cases member
  | cons first entries ih =>
    rw [replace] at member
    split at member
    · rcases List.mem_cons.mp member with rfl | member
      · exact .inr rfl
      · exact .inl (List.mem_cons_of_mem _ member)
    · rcases List.mem_cons.mp member with rfl | member
      · exact .inl List.mem_cons_self
      · exact (ih member).imp_left (List.mem_cons_of_mem _)

/-- A key may get another node. -/
theorem Distinct.replace (distinct : entries.Distinct) (fits : node.toml.Distinct) :
    (replace key node entries).Distinct where
  once := by
    rw [keys_replace]
    exact distinct.once
  held entry member := by
    rcases mem_replace member with old | rfl
    · exact distinct.held entry old
    · exact fits

theorem Distinct.lookup (distinct : entries.Distinct) (found : entries.lookup key = some node) :
    node.toml.Distinct :=
  distinct.held _ (Tree.mem_of_lookup found)

/-- A key may be added that the table does not have. -/
theorem Distinct.append (distinct : entries.Distinct) (fresh : key ∉ entries.map Prod.fst)
    (fits : node.toml.Distinct) : (entries ++ [(key, node)]).Distinct where
  once := by
    rw [List.map_append]
    exact List.concat_eq_append ▸ List.Nodup.concat fresh distinct.once
  held entry member := by
    rcases List.mem_append.mp member with old | last
    · exact distinct.held entry old
    · rw [List.mem_singleton.mp last]
      exact fits

/-- A key may leave its place. -/
theorem Distinct.filter (distinct : entries.Distinct) (keep : String × Node → Bool) :
    Distinct (List.filter keep entries) where
  once := distinct.once.sublist (List.filter_sublist.map _)
  held entry member := distinct.held entry (List.mem_of_mem_filter member)

/-- Whatever keeps tables free of repeated keys may be done where a path leads to. -/
theorem Distinct.alter {dotted : Bool} {change : Origin → Entries → Option Entries}
    (keeps : ∀ {origin inner inner'}, Distinct inner → change origin inner = some inner' →
      Distinct inner')
    {path : List String} {origin : Origin} {altered : Entries} (distinct : entries.Distinct)
    (done : alter dotted change path origin entries = some altered) : altered.Distinct := by
  induction path generalizing origin entries altered with
  | nil => exact keeps distinct done
  | cons key path ih =>
    -- A table on the way is made under a fresh key, or takes the place that it had.
    rw [alter] at done
    split at done
    case h_1 absent =>
      obtain ⟨inner, deeper, added⟩ := Option.bind_eq_some_iff.mp done
      cases added
      exact distinct.append (Tree.lookup_eq_none_iff.mp absent)
        (distinct_table_iff.mpr (ih .empty deeper))
    case h_2 origin inner found =>
      split at done
      · cases done
      · obtain ⟨inner', deeper, changed⟩ := Option.bind_eq_some_iff.mp done
        cases changed
        have before : Distinct inner := distinct_table_iff.mp (distinct.lookup found)
        exact distinct.replace (distinct_table_iff.mpr (ih before deeper))
    case h_3 latest earlier found =>
      obtain ⟨latest', deeper, changed⟩ := Option.bind_eq_some_iff.mp done
      cases changed
      have before := distinct_tables_iff.mp (distinct.lookup found)
      refine distinct.replace (distinct_tables_iff.mpr ?_)
      refine List.forall_mem_cons.mpr ⟨ih (before latest List.mem_cons_self) deeper, ?_⟩
      exact fun entries member => before entries (List.mem_cons_of_mem _ member)
    case h_4 => cases done

theorem Distinct.assign {path : List String} {assigned : Entries} (distinct : entries.Distinct)
    (fits : value.Distinct) (done : assign path key value entries = some assigned) :
    assigned.Distinct := by
  refine distinct.alter (fun {origin inner inner'} before changed => ?_) done
  split at changed
  · cases changed
  · split at changed
    · next absent =>
      cases changed
      exact before.append (Tree.lookup_eq_none_iff.mp absent) fits
    · cases changed

theorem Distinct.openTable {path : List String} {opened : Entries} (distinct : entries.Distinct)
    (done : openTable path key entries = some opened) : opened.Distinct := by
  refine distinct.alter (fun {origin inner inner'} before changed => ?_) done
  split at changed
  · next absent =>
    cases changed
    exact before.append (Tree.lookup_eq_none_iff.mp absent) (distinct_table_iff.mpr .empty)
  · next held found =>
    cases changed
    -- What was implied so far has moved to the end, so that its key is there once.
    have inner : Distinct held := distinct_table_iff.mp (before.lookup found)
    refine (before.filter _).append ?_ (distinct_table_iff.mpr inner)
    simp
  · cases changed

theorem Distinct.addTable {path : List String} {added : Entries} (distinct : entries.Distinct)
    (done : addTable path key entries = some added) : added.Distinct := by
  refine distinct.alter (fun {origin inner inner'} before changed => ?_) done
  split at changed
  · next absent =>
    cases changed
    refine before.append (Tree.lookup_eq_none_iff.mp absent) (distinct_tables_iff.mpr ?_)
    simpa using .empty
  · next latest earlier found =>
    cases changed
    have held := distinct_tables_iff.mp (before.lookup found)
    exact before.replace (distinct_tables_iff.mpr (List.forall_mem_cons.mpr ⟨.empty, held⟩))
  · cases changed

end Entries

/-! ## Values -/

/-- What a reader gives has no table that names a key twice. -/
def ReadsDistinct (read : List Char → Option (Toml × List Char)) : Prop :=
  ∀ {text value rest}, read text = some (value, rest) → value.Distinct

theorem integer_distinct {n : Int} {text rest : List Char} {value : Toml}
    (done : (if inRange n then some (Toml.integer n, text) else none) = some (value, rest)) :
    value.Distinct := by
  obtain ⟨-, same⟩ := Option.ite_none_right_eq_some.mp done
  cases same
  exact .integer n

theorem readBased?_distinct (base : Nat) : ReadsDistinct (readBased? base) := by
  intro text value rest done
  obtain ⟨⟨digits, after⟩, -, done⟩ := Option.bind_eq_some_iff.mp done
  exact integer_distinct done

theorem finiteReal?_distinct {n : Numeral} {value : Toml} (done : finiteReal? n = some value) :
    value.Distinct := by
  rw [finiteReal?] at done
  split at done
  · cases done
  · cases done
    exact .decimal _

theorem readDecimal?_distinct (negative : Bool) : ReadsDistinct (readDecimal? negative) := by
  intro text value rest done
  obtain ⟨⟨whole, afterWhole⟩, -, done⟩ := Option.bind_eq_some_iff.mp done
  dsimp only at done
  -- What follows is the same with and without a fraction.
  split at done
  all_goals
    obtain ⟨⟨fraction, afterFraction⟩, -, done⟩ := Option.bind_eq_some_iff.mp done
    obtain ⟨⟨power, afterPower⟩, -, done⟩ := Option.bind_eq_some_iff.mp done
    dsimp only at done
    split at done
    · exact integer_distinct done
    · obtain ⟨real, finite, same⟩ := Option.bind_eq_some_iff.mp done
      cases same
      exact finiteReal?_distinct finite

theorem readNumber?_distinct : ReadsDistinct readNumber? := by
  intro text value rest done
  rw [readNumber?.eq_def] at done
  split at done
  iterate 3 exact readBased?_distinct _ done
  dsimp only at done
  split at done
  · cases done
    exact .decimal _
  · cases done
    exact .decimal _
  · exact readDecimal?_distinct _ done

theorem readMoment?_distinct : ReadsDistinct readMoment? := by
  intro text value rest done
  rw [readMoment?] at done
  split at done
  · obtain ⟨⟨time, after⟩, -, same⟩ := Option.map_eq_some_iff.mp done
    cases same
    exact .moment _
  · obtain ⟨⟨date, after⟩, -, done⟩ := Option.bind_eq_some_iff.mp done
    dsimp only at done
    split at done
    · split at done
      · obtain ⟨⟨time, afterTime⟩, -, done⟩ := Option.bind_eq_some_iff.mp done
        obtain ⟨⟨offset, afterOffset⟩, -, same⟩ := Option.bind_eq_some_iff.mp done
        cases same
        exact .moment _
      · cases done
        exact .moment _
    · cases done
      exact .moment _

theorem readBare?_distinct : ReadsDistinct readBare? := by
  intro text value rest done
  rw [readBare?.eq_def] at done
  split at done
  · cases done
    exact .boolean true
  · cases done
    exact .boolean false
  · split at done
    · exact readMoment?_distinct done
    · exact readNumber?_distinct done

variable {read : List Char → Option (Toml × List Char)}

theorem readItems?_distinct (sound : ReadsDistinct read) {fuel : Nat} {text rest : List Char}
    {items : List Toml} (done : readItems? read fuel text = some (items, rest)) :
    ∀ item ∈ items, item.Distinct := by
  induction fuel generalizing text items rest with
  | zero => cases done
  | succ fuel ih =>
    obtain ⟨start, -, done⟩ := Option.bind_eq_some_iff.mp done
    split at done
    · cases done
      nofun
    · obtain ⟨⟨item, afterItem⟩, first, done⟩ := Option.bind_eq_some_iff.mp done
      obtain ⟨next, -, done⟩ := Option.bind_eq_some_iff.mp done
      split at done
      · obtain ⟨⟨later, afterAll⟩, more, same⟩ := Option.bind_eq_some_iff.mp done
        cases same
        exact List.forall_mem_cons.mpr ⟨sound first, ih more⟩
      · cases done
        exact List.forall_mem_singleton.mpr (sound first)
      · cases done

theorem readPair_distinct (sound : ReadsDistinct read) {text rest : List Char}
    {path : List String} {key : String} {value : Toml}
    (done : readPair read text = some ((path, key, value), rest)) : value.Distinct := by
  obtain ⟨⟨path, key, afterKey⟩, -, done⟩ := Option.bind_eq_some_iff.mp done
  obtain ⟨afterSign, -, done⟩ := Option.bind_eq_some_iff.mp done
  obtain ⟨⟨value, afterValue⟩, given, same⟩ := Option.bind_eq_some_iff.mp done
  cases same
  exact sound given

theorem readPairs?_distinct (sound : ReadsDistinct read) {fuel : Nat} {text rest : List Char}
    {entries held : Entries} (distinct : entries.Distinct)
    (done : readPairs? read fuel entries text = some (held, rest)) : held.Distinct := by
  induction fuel generalizing text entries with
  | zero => cases done
  | succ fuel ih =>
    obtain ⟨⟨⟨path, key, value⟩, afterPair⟩, pair, done⟩ := Option.bind_eq_some_iff.mp done
    obtain ⟨assigned, assign, done⟩ := Option.bind_eq_some_iff.mp done
    have kept : assigned.Distinct := distinct.assign (readPair_distinct sound pair) assign
    split at done
    · exact ih kept done
    · cases done
      exact kept
    · cases done

theorem quoted_distinct {text rest : List Char} {value : Toml}
    (done : ((readText? text).map fun (s, rest) => (Toml.string s, rest)) = some (value, rest)) :
    value.Distinct := by
  obtain ⟨⟨s, after⟩, -, same⟩ := Option.map_eq_some_iff.mp done
  cases same
  exact .string s

/-- However deep a value goes, no table in it names a key twice. -/
theorem readValue?_distinct (depth : Nat) : ReadsDistinct (readValue? depth) := by
  induction depth using Nat.strong_induction_on with
  | _ depth ih =>
    intro text value rest done
    rw [readValue?.eq_def] at done
    dsimp only at done
    split at done
    case h_1 =>
      split at done
      · cases done
      · obtain ⟨⟨items, after⟩, inside, same⟩ := Option.map_eq_some_iff.mp done
        cases same
        exact .array (readItems?_distinct (ih _ (Nat.lt_succ_self _)) inside)
    case h_2 =>
      split at done
      · cases done
      · split at done
        · cases done
          exact .table List.nodup_nil nofun
        · obtain ⟨⟨entries, after⟩, inside, same⟩ := Option.map_eq_some_iff.mp done
          cases same
          exact Entries.distinct_table_iff.mpr
            (readPairs?_distinct (ih _ (Nat.lt_succ_self _)) .empty inside)
    case h_3 => exact quoted_distinct done
    case h_4 => exact quoted_distinct done
    case h_5 => exact readBare?_distinct done

/-! ## Documents -/

/-- No table in the value of a line names a key twice. -/
def Line.Distinct : Line → Prop
  | .openTable _ _ | .addTable _ _ => True
  | .assign _ _ value => value.Distinct

theorem readLine?_distinct {text rest : List Char} {line : Line}
    (done : readLine? text = some (line, rest)) : line.Distinct := by
  rw [readLine?.eq_def] at done
  split at done
  · obtain ⟨⟨path, key, afterKey⟩, -, done⟩ := Option.bind_eq_some_iff.mp done
    obtain ⟨_, -, done⟩ := Option.bind_eq_some_iff.mp done
    obtain ⟨_, -, done⟩ := Option.bind_eq_some_iff.mp done
    obtain ⟨_, -, same⟩ := Option.bind_eq_some_iff.mp done
    cases same
    trivial
  · obtain ⟨⟨path, key, afterKey⟩, -, done⟩ := Option.bind_eq_some_iff.mp done
    obtain ⟨_, -, done⟩ := Option.bind_eq_some_iff.mp done
    obtain ⟨_, -, same⟩ := Option.bind_eq_some_iff.mp done
    cases same
    trivial
  · obtain ⟨⟨⟨path, key, value⟩, afterPair⟩, pair, done⟩ := Option.bind_eq_some_iff.mp done
    obtain ⟨_, -, same⟩ := Option.bind_eq_some_iff.mp done
    cases same
    exact readPair_distinct (readValue?_distinct maxDepth) pair

theorem readLines_distinct {fuel : Nat} {text : List Char} {lines : List Line}
    (done : readLines fuel text = some lines) : ∀ line ∈ lines, line.Distinct := by
  induction fuel generalizing text lines with
  | zero =>
    cases done
    nofun
  | succ fuel ih =>
    obtain ⟨start, -, done⟩ := Option.bind_eq_some_iff.mp done
    split at done
    · cases done
      nofun
    · obtain ⟨⟨line, afterLine⟩, first, done⟩ := Option.bind_eq_some_iff.mp done
      obtain ⟨later, more, same⟩ := Option.bind_eq_some_iff.mp done
      cases same
      exact List.forall_mem_cons.mpr ⟨readLine?_distinct first, ih more⟩

/-- A line adds no key to a table that has it. -/
theorem Draft.add_distinct {draft next : Draft} {line : Line} (fits : line.Distinct)
    (distinct : draft.entries.Distinct) (done : draft.add line = some next) :
    next.entries.Distinct := by
  cases line with
  | openTable path key =>
    obtain ⟨opened, table, same⟩ := Option.bind_eq_some_iff.mp done
    cases same
    exact distinct.openTable table
  | addTable path key =>
    obtain ⟨added, table, same⟩ := Option.bind_eq_some_iff.mp done
    cases same
    exact distinct.addTable table
  | assign path key value =>
    obtain ⟨altered, table, same⟩ := Option.bind_eq_some_iff.mp done
    cases same
    exact distinct.alter (fun before assigned => before.assign fits assigned) table

theorem foldlM_add_distinct {lines : List Line} (fits : ∀ line ∈ lines, line.Distinct)
    {draft last : Draft} (distinct : draft.entries.Distinct)
    (done : lines.foldlM Draft.add draft = some last) : last.entries.Distinct := by
  induction lines generalizing draft with
  | nil =>
    cases done
    exact distinct
  | cons line lines ih =>
    obtain ⟨fitsFirst, fitsLater⟩ := List.forall_mem_cons.mp fits
    rw [List.foldlM_cons] at done
    obtain ⟨next, first, later⟩ := Option.bind_eq_some_iff.mp done
    exact ih fitsLater (Draft.add_distinct fitsFirst distinct first) later

mutual

/-- Dates and times take the place of tables, and no key is added. -/
theorem withMoments?_distinct {value result : Toml} (distinct : value.Distinct)
    (done : withMoments? value = some result) : result.Distinct := by
  cases value with
  | boolean | integer | decimal | moment | string =>
    rw [withMoments?.eq_def] at done
    cases done
    exact distinct
  | array items =>
    rw [withMoments?] at done
    obtain ⟨results, inside, same⟩ := Option.map_eq_some_iff.mp done
    cases same
    cases distinct with
    | array held => exact .array (itemsWithMoments?_distinct held inside)
  | table entries =>
    rw [withMoments?] at done
    split at done
    · obtain ⟨form, -, same⟩ := Option.map_eq_some_iff.mp done
      cases same
      exact .moment form
    · cases done
    · obtain ⟨results, inside, same⟩ := Option.map_eq_some_iff.mp done
      cases same
      obtain ⟨keys, held⟩ := entriesWithMoments?_distinct (fun entry => distinct.entry) inside
      exact .table (keys ▸ distinct.keys) held

theorem itemsWithMoments?_distinct {items results : List Toml}
    (distinct : ∀ item ∈ items, item.Distinct) (done : itemsWithMoments? items = some results) :
    ∀ item ∈ results, item.Distinct := by
  cases items with
  | nil =>
    cases done
    nofun
  | cons item items =>
    obtain ⟨first, one, done⟩ := Option.bind_eq_some_iff.mp done
    obtain ⟨later, more, same⟩ := Option.bind_eq_some_iff.mp done
    cases same
    obtain ⟨fitsFirst, fitsLater⟩ := List.forall_mem_cons.mp distinct
    exact List.forall_mem_cons.mpr
      ⟨withMoments?_distinct fitsFirst one, itemsWithMoments?_distinct fitsLater more⟩

theorem entriesWithMoments?_distinct {entries results : List (String × Toml)}
    (distinct : ∀ entry ∈ entries, entry.2.Distinct)
    (done : entriesWithMoments? entries = some results) :
    results.map Prod.fst = entries.map Prod.fst ∧ ∀ entry ∈ results, entry.2.Distinct := by
  cases entries with
  | nil =>
    cases done
    exact ⟨rfl, nofun⟩
  | cons entry entries =>
    obtain ⟨key, value⟩ := entry
    obtain ⟨first, one, done⟩ := Option.bind_eq_some_iff.mp done
    obtain ⟨later, more, same⟩ := Option.bind_eq_some_iff.mp done
    cases same
    obtain ⟨fitsFirst, fitsLater⟩ := List.forall_mem_cons.mp distinct
    obtain ⟨keys, held⟩ := entriesWithMoments?_distinct fitsLater more
    exact ⟨congrArg (key :: ·) keys,
      List.forall_mem_cons.mpr ⟨withMoments?_distinct fitsFirst one, held⟩⟩

end

/-- No table of a document that can be read, at any depth, names a key twice. -/
theorem read?_distinct {text : String} {entries : List (String × Toml)}
    (done : read? text = some entries) : (Toml.table entries).Distinct := by
  obtain ⟨lines, parsed, done⟩ := Option.bind_eq_some_iff.mp done
  obtain ⟨draft, added, done⟩ := Option.bind_eq_some_iff.mp done
  obtain ⟨whole, dated, done⟩ := Option.bind_eq_some_iff.mp done
  have kept : draft.entries.Distinct :=
    foldlM_add_distinct (readLines_distinct parsed) .empty added
  have distinct : whole.Distinct :=
    withMoments?_distinct (Entries.distinct_table_iff.mpr kept) dated
  split at done
  · cases done
    exact distinct
  · cases done

end Toml

end SpeechQueue
