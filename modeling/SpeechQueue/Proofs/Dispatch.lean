import Mathlib.Data.List.Forall2
import Mathlib.Data.List.Induction
import Mathlib.Data.List.TakeWhile
import SpeechQueue.CommandLine.Program
import SpeechQueue.Proofs.Words

/-! # What an input asks for

The lines of an input are asked one by one, up to its end or to the line that quits, and then the
session is shut down. Main statement: `dispatches`, for every text: which requests the session is given
in a run of the program, and that its records are those of what they lead to. A line counts by its
content alone, so blanks around it and blank lines between do not matter, and what comes after the line
that quits is never looked at. -/

namespace SpeechQueue

namespace Script

/-! ## Lines and their contents -/

/-- The contents of the lines that count: the nonblank ones before the line that quits. -/
def contents (lines : List (List Char)) : List (List Char) :=
  ((lines.map trim).takeWhile (· ≠ Command.quitLine.toList)).filter (· ≠ [])

/-- What a line asks for by its content. -/
inductive Asks : List Char → Session.Request → Prop
  | system (said : List Char) :
      Asks (Command.systemMark.toList ++ said) (.submitSystem (String.ofList said))
  | user {content : List Char} : ¬ Command.systemMark.toList <+: content →
      Asks content (.submitUser (String.ofList content) .add)

/-- A content asks for one thing only. -/
theorem Asks.unique {content : List Char} {first second : Session.Request}
    (left : Asks content first) (right : Asks content second) : first = second := by
  generalize same : content = other at right
  cases left with
  | system said =>
    cases right with
    | system more => rw [List.append_cancel_left same]
    | user plain => exact absurd ⟨said, same⟩ plain
  | user plain =>
    cases right with
    | system more => exact absurd ⟨more, same.symm⟩ plain
    | user => rw [same]

variable {line : List Char} {lines others : List (List Char)}

theorem contents_quit (quits : trim line = Command.quitLine.toList) : contents (line :: lines) = [] := by
  simp [contents, quits]

theorem contents_blank (blank : trim line = []) : contents (line :: lines) = contents lines := by
  have goesOn : trim line ≠ Command.quitLine.toList := by
    rw [blank]
    decide
  rw [contents, List.map_cons, List.takeWhile_cons_of_pos (by simpa using goesOn),
    List.filter_cons_of_neg (by simp [blank])]
  rfl

theorem contents_cons (filled : trim line ≠ []) (goesOn : trim line ≠ Command.quitLine.toList) :
    contents (line :: lines) = trim line :: contents lines := by
  rw [contents, List.map_cons, List.takeWhile_cons_of_pos (by simpa using goesOn),
    List.filter_cons_of_pos (by simpa using filled)]
  rfl

/-- What comes after the line that quits does not count. -/
theorem contents_append_quit (before after : List (List Char))
    (quits : trim line = Command.quitLine.toList) :
    contents (before ++ line :: after) = contents before := by
  induction before with
  | nil => exact contents_quit quits
  | cons first rest ih =>
    rw [List.cons_append]
    by_cases stops : trim first = Command.quitLine.toList
    · rw [contents_quit stops, contents_quit stops]
    · by_cases blank : trim first = []
      · rw [contents_blank blank, contents_blank blank, ih]
      · rw [contents_cons blank stops, contents_cons blank stops, ih]

/-- What counts is nonblank. -/
theorem exists_of_mem_contents {content : List Char} (counts : content ∈ contents lines) :
    content ≠ [] ∧ ∃ line, content = trim line := by
  obtain ⟨before, filled⟩ := List.mem_filter.mp counts
  obtain ⟨line, -, rfl⟩ := List.mem_map.mp (List.takeWhile_subset _ before)
  exact ⟨by simpa using filled, line, rfl⟩

/-- Lines with blank ones put in between, and with blanks around each. -/
inductive Respaced : List (List Char) → List (List Char) → Prop
  | nil : Respaced [] []
  | insert {lines others : List (List Char)} {gap : List Char} : (∀ c ∈ gap, isBlank c = true) →
      Respaced lines others → Respaced lines (gap :: others)
  | pad {lines others : List (List Char)} {before after : List Char} (line : List Char) :
      (∀ c ∈ before, isBlank c = true) → (∀ c ∈ after, isBlank c = true) →
      Respaced lines others → Respaced (line :: lines) ((before ++ line ++ after) :: others)

/-- The contents stay the same. -/
theorem Respaced.contents (respaced : Respaced lines others) : contents others = contents lines := by
  induction respaced with
  | nil => rfl
  | insert blank _ ih => rw [contents_blank (trim_eq_nil_iff.mpr blank), ih]
  | pad line before after _ ih =>
    have same := trim_pad line before after
    by_cases quits : trim line = Command.quitLine.toList
    · rw [contents_quit quits, contents_quit (same.trans quits)]
    · by_cases blank : trim line = []
      · rw [contents_blank blank, contents_blank (same.trans blank), ih]
      · rw [contents_cons blank quits, contents_cons (same ▸ blank) (same ▸ quits), same, ih]

/-! ## The script -/

theorem ofLine?_blank (blank : trim line = []) : Command.ofLine? (String.ofList line) = none := by
  simp [Command.ofLine?, blank]

theorem ofLine?_quit (quits : trim line = Command.quitLine.toList) :
    Command.ofLine? (String.ofList line) = some .quit := by
  rw [Command.ofLine?, String.toList_ofList, quits, if_neg (by decide), if_pos rfl]

/-- Any other line asks for what its content asks for. -/
theorem ofLine?_asks (filled : trim line ≠ []) (goesOn : trim line ≠ Command.quitLine.toList) :
    ∃ command, Command.ofLine? (String.ofList line) = some command ∧ command ≠ .quit ∧
      Asks (trim line) command.request := by
  simp only [Command.ofLine?, String.toList_ofList, if_neg filled, if_neg goesOn]
  split
  · next marked =>
    obtain ⟨said, content⟩ := List.isPrefixOf_iff_prefix.mp marked
    refine ⟨_, rfl, nofun, ?_⟩
    rw [← content, String.length, List.drop_left]
    exact .system said
  · next plain =>
    refine ⟨_, rfl, nofun, .user fun marked => plain ?_⟩
    exact List.isPrefixOf_iff_prefix.mpr marked

/-- Some lines as an input of text. -/
def given (lines : List (List Char)) : List (Option String) :=
  lines.map fun line => some (String.ofList line)

/-- The script asks for what the contents ask for, and then for a shutdown. -/
theorem ofLines_given (lines : List (List Char)) : ∃ asked,
    List.Forall₂ Asks (contents lines) asked ∧
      ofLines (given lines) = ⟨asked ++ [.shutDown], true⟩ := by
  induction lines with
  | nil => exact ⟨[], .nil, rfl⟩
  | cons line rest ih =>
    obtain ⟨asked, asks, script⟩ := ih
    rw [given, List.map_cons, ← given]
    by_cases quits : trim line = Command.quitLine.toList
    · refine ⟨[], contents_quit quits ▸ .nil, ?_⟩
      rw [ofLines, ofLine?_quit quits]
      rfl
    by_cases blank : trim line = []
    · rw [contents_blank blank, ofLines, ofLine?_blank blank]
      exact ⟨asked, asks, script⟩
    · obtain ⟨command, read, goesOn, first⟩ := ofLine?_asks blank quits
      rw [contents_cons blank quits, ofLines, read, script]
      refine ⟨command.request :: asked, .cons first asks, ?_⟩
      cases command with
      | quit => exact absurd rfl goesOn
      | system | user => rfl

/-- The contents decide what is asked. -/
theorem ofLines_of_contents (same : contents others = contents lines) :
    ofLines (given others) = ofLines (given lines) := by
  obtain ⟨asked, asks, script⟩ := ofLines_given lines
  obtain ⟨more, alike, other⟩ := ofLines_given others
  rw [same] at alike
  have unique : more = asked :=
    List.right_unique_forall₂' (fun _ _ _ left right => left.unique right) alike asks
  rw [script, other, unique]

/-! ## Texts -/

/-- The lines of a text: what stands between the ends of lines, be it empty or not. -/
def textLines (text : String) : List (List Char) := text.toList.splitOnP (· = '\n')

/-- The same text with a carriage return before every end of a line. -/
def withReturns (text : String) : String :=
  String.ofList (text.toList.flatMap fun c => if c = '\n' then ['\r', c] else [c])

/-- The pieces of an input are its lines, but for an empty one after the last end. -/
theorem splitOnP_eq_pieces {α : Type} (isEnd : α → Bool) (l : List α) :
    ∃ extra, (extra = [] ∨ extra = [[]]) ∧ l.splitOnP isEnd = pieces isEnd l ++ extra := by
  induction l with
  | nil => exact ⟨[[]], .inr rfl, rfl⟩
  | cons a rest ih =>
    obtain ⟨extra, none_or_empty, split⟩ := ih
    rw [List.splitOnP_cons_eq_if_modifyHead, pieces, split]
    cases isEnd a with
    | true => exact ⟨extra, none_or_empty, rfl⟩
    | false =>
      simp only [Bool.false_eq_true, if_false]
      cases found : pieces isEnd rest with
      | cons piece more => exact ⟨extra, none_or_empty, rfl⟩
      | nil =>
        -- A line is never missing, so here it is the empty one that begins with `a` now.
        have nonempty := List.splitOnP_ne_nil isEnd rest
        rw [split, found, List.nil_append] at nonempty
        obtain rfl := none_or_empty.resolve_left nonempty
        exact ⟨[], .inl rfl, rfl⟩

theorem contents_append_empty (lines : List (List Char)) :
    contents (lines ++ [[]]) = contents lines := by
  refine Respaced.contents ?_
  induction lines with
  | nil => exact .insert (by simp) .nil
  | cons line rest ih =>
    have none_blank : ∀ c ∈ ([] : List Char), isBlank c = true := by simp
    have padded := Respaced.pad line none_blank none_blank ih
    rwa [List.nil_append, List.append_nil] at padded

/-- The lines of an input count as those of the text. -/
theorem contents_pieces (text : String) :
    contents (pieces (· = '\n') text.toList) = contents (textLines text) := by
  obtain ⟨extra, rfl | rfl, split⟩ := splitOnP_eq_pieces (· = '\n') text.toList
  · rw [textLines, split, List.append_nil]
  · rw [textLines, split, contents_append_empty]

theorem ofLines_linesOfText (text : String) : ∃ asked,
    List.Forall₂ Asks (contents (textLines text)) asked ∧
      ofLines (linesOfText text) = ⟨asked ++ [.shutDown], true⟩ := by
  rw [← contents_pieces]
  exact ofLines_given _

theorem ofLines_linesOfText_of_contents {text other : String}
    (same : contents (textLines other) = contents (textLines text)) :
    ofLines (linesOfText other) = ofLines (linesOfText text) := by
  rw [← contents_pieces, ← contents_pieces] at same
  exact ofLines_of_contents same

/-- Carriage returns only make lines longer by a blank. -/
theorem splitOnP_withReturns (text : List Char) :
    List.Forall₂ (fun line other => ∃ after, (∀ c ∈ after, isBlank c = true) ∧ other = line ++ after)
      (text.splitOnP (· = '\n'))
      ((text.flatMap fun c => if c = '\n' then ['\r', c] else [c]).splitOnP (· = '\n')) := by
  induction text with
  | nil => exact .cons ⟨[], by simp, rfl⟩ .nil
  | cons c rest ih =>
    rw [List.flatMap_cons, List.splitOnP_cons_eq_if_modifyHead]
    by_cases ends : c = '\n'
    · simp only [ends, if_true, decide_true, List.cons_append, List.nil_append,
        List.splitOnP_cons_eq_if_modifyHead, show ('\r' = '\n') = False by decide, decide_false,
        Bool.false_eq_true, if_false, List.modifyHead_cons]
      refine .cons ⟨['\r'], ?_, rfl⟩ ih
      intro c member
      rw [List.mem_singleton.mp member]
      rfl
    · simp only [ends, if_false, decide_false, Bool.false_eq_true, List.singleton_append,
        List.splitOnP_cons_eq_if_modifyHead]
      revert ih
      generalize rest.splitOnP (· = '\n') = lines
      generalize List.splitOnP _ _ = others
      intro ih
      cases ih with
      | nil => exact .nil
      | cons first more =>
        obtain ⟨after, blank, rfl⟩ := first
        exact .cons ⟨after, blank, rfl⟩ more

theorem respaced_withReturns (text : String) :
    Respaced (textLines text) (textLines (withReturns text)) := by
  have longer := splitOnP_withReturns text.toList
  rw [textLines, textLines, withReturns, String.toList_ofList]
  revert longer
  generalize List.splitOnP _ _ = lines
  generalize List.splitOnP _ _ = others
  intro longer
  induction longer with
  | nil => exact .nil
  | cons first _ ih =>
    obtain ⟨after, blank, rfl⟩ := first
    have none_blank : ∀ c ∈ ([] : List Char), isBlank c = true := by simp
    exact .pad _ none_blank blank ih

end Script

/-! ## The program -/

namespace Session.Request

/-- The text that is submitted. -/
def said? : Request → Option String
  | .submitUser text _ => some text
  | .submitSystem text => some text
  | _ => none

end Session.Request

/-- No blank text is asked for. -/
theorem Script.Asks.nonblank {line : List Char} {request : Session.Request} {text : String}
    (asks : Asks (trim line) request) (filled : trim line ≠ []) (said : request.said? = some text) :
    ∃ c ∈ text.toList, isBlank c = false := by
  obtain ⟨front, c, content⟩ := List.eq_nil_or_concat' (trim line) |>.resolve_left filled
  have letter : isBlank c = false := trim_getLast? (by rw [content, List.getLast?_concat])
  generalize trim line = whole at asks content
  cases asks with
  | user =>
    cases said
    exact ⟨c, by simp [content], letter⟩
  | system rest =>
    cases said
    refine ⟨c, ?_, letter⟩
    rw [String.toList_ofList]
    -- The mark itself ends in a blank, so the last character is behind it.
    cases rest using List.reverseRecOn with
    | nil =>
      have last := congrArg List.getLast? content
      rw [List.getLast?_concat] at last
      cases Option.some.inj last
      cases letter
    | append_singleton rest d =>
      rw [← List.append_assoc] at content
      simp [(List.append_inj' content rfl).2]

namespace Program

/-- A session is given requests and nothing else: each one is handled where the one before it has left
the session. Its effects are followed by what the program remarks on the reply. -/
inductive Given : List Session.Request → Session Console → Session Console → List Effect → Prop
  | nil (s : Session Console) : Given [] s s []
  | cons {request : Session.Request} {rest : List Session.Request} {s next last : Session Console}
      {reply : Session.Reply} {effects more : List Effect} :
      s.handle Console.engine request = (reply, next, effects) → Given rest next last more →
      Given (request :: rest) s last (effects ++ (remarks request reply).map .record ++ more)

/-- What a line asks for never makes the engine break down; only a start can. -/
theorem not_isBreakdown_of_asks {content : List Char} {request : Session.Request}
    (asks : Script.Asks content request) (s : Session Console) :
    isBreakdown (s.handle Console.engine request).1 = false := by
  cases asks <;> rfl

variable {requests : List Session.Request} {p : Program}

theorem askAll_cons {request : Session.Request} {reply : Session.Reply} {next : Session Console}
    {effects : List Effect}
    (handled : p.session.handle Console.engine request = (reply, next, effects)) :
    p.askAll (request :: requests) =
      let begun := effects ++ (remarks request reply).map .record
      if isBreakdown reply then (false, { p with session := next }, begun)
      else
        let (goesOn, q, more) := askAll requests { p with session := next }
        (goesOn, q, begun ++ more) := by
  simp only [askAll, ask, handled]
  cases isBreakdown reply <;> rfl

/-- Requests over which the engine does not break down are all given to the session. -/
theorem askAll_given
    (goOn : ∀ request ∈ requests, ∀ s : Session Console,
      isBreakdown (s.handle Console.engine request).1 = false) (p : Program) :
    ∃ last effects, Given requests p.session last effects ∧
      p.askAll requests = (true, { p with session := last }, effects) := by
  induction requests generalizing p with
  | nil => exact ⟨p.session, [], .nil _, rfl⟩
  | cons request rest ih =>
    have goesOn := goOn request List.mem_cons_self p.session
    rcases handled : p.session.handle Console.engine request with ⟨reply, next, effects⟩
    obtain ⟨last, more, given, asked⟩ :=
      ih (fun other member => goOn other (List.mem_cons_of_mem _ member)) { p with session := next }
    rw [handled] at goesOn
    refine ⟨last, _, .cons handled given, ?_⟩
    simp only [askAll_cons handled, goesOn, Bool.false_eq_true, if_false, asked]

/-- When a start is the first of such requests, only a breakdown over it keeps the others from the
session. -/
theorem askAll_init_given
    (goOn : ∀ request ∈ requests, ∀ s : Session Console,
      isBreakdown (s.handle Console.engine request).1 = false) (p : Program) :
    let breaks := isBreakdown (p.session.handle Console.engine .init).1
    ∃ last effects, Given (if breaks then [.init] else .init :: requests) p.session last effects ∧
      p.askAll (.init :: requests) = (!breaks, { p with session := last }, effects) := by
  rcases handled : p.session.handle Console.engine .init with ⟨reply, next, effects⟩
  rw [askAll_cons handled]
  cases breaks : isBreakdown reply with
  | true =>
    refine ⟨next, _, .cons handled (.nil next), ?_⟩
    simp only [if_true, Bool.not_true, List.append_nil]
  | false =>
    obtain ⟨last, more, given, asked⟩ := askAll_given goOn { p with session := next }
    refine ⟨last, _, .cons handled given, ?_⟩
    simp only [Bool.false_eq_true, if_false, asked, Bool.not_false]

/-- Everything that is asked for is asked for by a line that counts. -/
theorem exists_of_mem_asked {contents : List (List Char)} {asked : List Session.Request}
    (asks : List.Forall₂ Script.Asks contents asked) {request : Session.Request}
    (member : request ∈ asked) : ∃ content ∈ contents, Script.Asks content request := by
  induction asks with
  | nil => cases member
  | cons first _ ih =>
    rcases List.mem_cons.mp member with rfl | later
    · exact ⟨_, List.mem_cons_self, first⟩
    · obtain ⟨content, counts, second⟩ := ih later
      exact ⟨content, List.mem_cons_of_mem _ counts, second⟩

/-- What the program makes of a text in its input, of which the lines ask for some requests. -/
structure Dispatches (text : String) (asked : List Session.Request) : Prop where
  /-- Each line that counts asks for one thing, in their order. -/
  asks : List.Forall₂ Script.Asks (Script.contents (Script.textLines text)) asked
  script : Script.ofLines (Script.linesOfText text) = ⟨asked ++ [.shutDown], true⟩
  /-- A session is given the start and, unless the engine breaks down over it, what the lines ask for and
  one shutdown, whatever the replies are. -/
  given : ∀ p : Program,
    let breaks := isBreakdown (p.session.handle Console.engine .init).1
    ∃ last effects,
      Given (if breaks then [.init] else .init :: (asked ++ [.shutDown])) p.session last effects ∧
        p.askAll (.init :: (Script.ofLines (Script.linesOfText text)).requests) =
          (!breaks, { p with session := last }, effects)
  /-- So it is in a run of the program, and the records are those of what the requests lead to. -/
  runs : ∀ folder environment settings filter,
    Settings.load folder none environment = .ok settings →
    filterOf? environment settings = some filter →
      let p := new settings filter
      let breaks := isBreakdown (p.session.handle Console.engine .init).1
      ∃ last effects,
        Given (if breaks then [.init] else .init :: (asked ++ [.shutDown])) p.session last effects ∧
          run folder environment (Script.linesOfText text) = {
            json := settings.log.json
            records := p.written (p.opening ++ Effect.foreground effects)
            failure := if breaks then some .engine else none }
  /-- No blank text is submitted. -/
  nonblank : ∀ request ∈ asked, ∀ said, request.said? = some said →
    ∃ c ∈ said.toList, isBlank c = false
  /-- What comes after a line that quits has no effect. -/
  quits : ∀ (other : String) before line after rest,
    Script.textLines text = before ++ line :: after → trim line = Command.quitLine.toList →
      Script.textLines other = before ++ line :: rest → ∀ folder environment,
        run folder environment (Script.linesOfText other) =
          run folder environment (Script.linesOfText text)
  /-- Neither blank lines nor blanks around a line have an effect. -/
  respaced : ∀ other : String,
    Script.Respaced (Script.textLines text) (Script.textLines other) → ∀ folder environment,
      run folder environment (Script.linesOfText other) =
        run folder environment (Script.linesOfText text)
  /-- Lines may end with a carriage return. -/
  returns : ∀ folder environment,
    run folder environment (Script.linesOfText (Script.withReturns text)) =
      run folder environment (Script.linesOfText text)

/-- The contents of the lines decide what the program does. -/
theorem run_of_contents {text other : String}
    (same : Script.contents (Script.textLines other) = Script.contents (Script.textLines text))
    (folder : Settings.Folder) (environment : List (String × String)) :
    run folder environment (Script.linesOfText other) =
      run folder environment (Script.linesOfText text) := by
  simp only [run, Script.ofLines_linesOfText_of_contents same]

/-- Every text is dispatched line by line. -/
theorem dispatches (text : String) : ∃ asked, Dispatches text asked := by
  obtain ⟨asked, asks, script⟩ := Script.ofLines_linesOfText text
  have each : ∀ request ∈ asked, ∃ content ∈ Script.contents (Script.textLines text),
      Script.Asks content request := fun _ => exists_of_mem_asked asks
  have goOn : ∀ request ∈ asked ++ [.shutDown], ∀ s : Session Console,
      isBreakdown (s.handle Console.engine request).1 = false := by
    intro request member s
    rcases List.mem_append.mp member with line | last
    · obtain ⟨content, -, first⟩ := each request line
      exact not_isBreakdown_of_asks first s
    · rw [List.mem_singleton.mp last]
      rfl
  refine ⟨asked, asks, script, ?_, ?_, ?_, ?_, ?_, ?_⟩
  · rw [script]
    exact askAll_init_given goOn
  · intro folder environment settings filter loaded chosen p breaks
    obtain ⟨last, effects, given, all⟩ := askAll_init_given goOn p
    refine ⟨last, effects, given, ?_⟩
    simp only [run, loaded, chosen, script, all, if_true, Bool.not_not, p, breaks]
  · intro request member said same
    obtain ⟨content, counts, first⟩ := each request member
    obtain ⟨filled, whole, rfl⟩ := Script.exists_of_mem_contents counts
    exact first.nonblank filled same
  · intro other before line after rest lines quits otherLines
    refine run_of_contents ?_
    rw [lines, otherLines, Script.contents_append_quit _ _ quits,
      Script.contents_append_quit _ _ quits]
  · intro other respaced
    exact run_of_contents respaced.contents
  · exact run_of_contents (Script.respaced_withReturns text).contents

/-- A line of the user, a blank one, one of the program, the one that quits and one that is not heard.
After the start both texts are submitted, and the queue is shut down. -/
theorem dispatches_until_quit :
    let text := "  slowly hello\n \n/system stop\r\n/quit\nunheard\n"
    let asked : List Session.Request := [.submitUser "slowly hello" .add, .submitSystem "stop"]
    let environment := [(filterVariable, "debug")]
    let records := (run [] environment (Script.linesOfText text)).records
    Dispatches text asked ∧
      (∃ filter last effects,
        Given (.init :: (asked ++ [.shutDown])) (new .default filter).session last effects ∧
          records = (new .default filter).written
            ((new .default filter).opening ++ Effect.foreground effects)) ∧
      (records.map (·.message)).drop 12 = ["Speech queue ready", "Speech directives resolved",
        "Utterance enqueued", "Utterance accepted", "System utterance flushed", "Utterance accepted",
        "ConsoleSpeechEngine shut down", "Speech engine shut down", "Shutdown complete"] := by
  intro text asked environment records
  obtain ⟨others, dispatched⟩ := dispatches text
  have counts : Script.contents (Script.textLines text) =
      ["slowly hello".toList, Command.systemMark.toList ++ "stop".toList] := by decide +kernel
  have asks : List.Forall₂ Script.Asks (Script.contents (Script.textLines text)) asked := by
    rw [counts]
    exact .cons (.user (by decide)) (.cons (.system _) .nil)
  obtain rfl : others = asked :=
    List.right_unique_forall₂' (fun _ _ _ left right => left.unique right) dispatched.asks asks
  have loaded : Settings.load [] none environment = .ok .default := by decide +kernel
  have readable : (filterOf? environment .default).isSome = true := by decide +kernel
  obtain ⟨filter, chosen⟩ := Option.isSome_iff_exists.mp readable
  obtain ⟨last, effects, given, made⟩ := dispatched.runs [] environment .default filter loaded chosen
  -- Whatever the filter is, the engine does not break down.
  have goesOn : isBreakdown ((new .default ⟨[]⟩).session.handle Console.engine .init).1 = false := by
    decide +kernel
  rw [show isBreakdown ((new .default filter).session.handle Console.engine .init).1 = false
    from goesOn] at given
  exact ⟨dispatched, ⟨filter, last, effects, given, congrArg Run.records made⟩, by decide +kernel⟩

end Program

end SpeechQueue
