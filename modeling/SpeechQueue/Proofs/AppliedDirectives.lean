import SpeechQueue.Proofs.LastWriter
import SpeechQueue.Proofs.Wordwise

/-! # What the applied directives tell

The tables of dials and cues hold a report and an effect side by side. Here a directive has an effect
of its own, by what it says, and the two agree: carrying out the reported directives does to any
parameters what the text does to them. Main statement: `applied_tells`. -/

namespace SpeechQueue

namespace Directive

/-- What a directive says is to be done to the parameters. -/
def perform : Directive → Parameters → Parameters
  | .speed v, p => { p with rate := v }
  | .pitch v, p => { p with pitch := v }
  | .toot v, p => { p with volume := v }
  | .normal, _ => .default
  | .quickly, p => { p with rate := .ofNat 3 }
  | .slowly, p => { p with rate := .ofRatio false 1 2 }
  | .low, p => { p with pitch := .ofRatio false 1 2 }
  | .high, p => { p with pitch := .ofNat 3 }
  | .soft, p => { p with volume := .ofRatio false 1 10 }
  | .loud, p => { p with volume := .ofNat 1 }

/-- Carries out directives one after the other. -/
def replay (directives : List Directive) (start : Parameters) : Parameters :=
  directives.foldl (fun p directive => directive.perform p) start

/-- The keywords in the order in which their directives take effect. -/
def order : List String :=
  ["speed", "pitch", "toot", "normal", "quickly", "slowly", "low", "high", "soft", "loud"]

/-- The place of a directive in the order of effect. -/
def rank (directive : Directive) : Nat :=
  order.idxOf directive.keyword

theorem replay_append (first later : List Directive) (start : Parameters) :
    replay (first ++ later) start = replay later (replay first start) :=
  List.foldl_append

/-- Whatever a directive is, it gives some field a value that does not depend on what was there. -/
theorem exists_field_perform (directive : Directive) :
    ∃ (field : Parameters.Field) (value : Single), ∀ p, field.of (directive.perform p) = value := by
  cases directive with
  | speed v => exact ⟨.rate, v, fun _ => rfl⟩
  | pitch v => exact ⟨.pitch, v, fun _ => rfl⟩
  | toot v => exact ⟨.volume, v, fun _ => rfl⟩
  | normal => exact ⟨.rate, Parameters.default.rate, fun _ => rfl⟩
  | quickly => exact ⟨.rate, .ofNat 3, fun _ => by rw [perform, Parameters.Field.of]⟩
  | slowly => exact ⟨.rate, .ofRatio false 1 2, fun _ => by rw [perform, Parameters.Field.of]⟩
  | low => exact ⟨.pitch, .ofRatio false 1 2, fun _ => by rw [perform, Parameters.Field.of]⟩
  | high => exact ⟨.pitch, .ofNat 3, fun _ => by rw [perform, Parameters.Field.of]⟩
  | soft => exact ⟨.volume, .ofRatio false 1 10, fun _ => by rw [perform, Parameters.Field.of]⟩
  | loud => exact ⟨.volume, .ofNat 1, fun _ => by rw [perform, Parameters.Field.of]⟩

/-- Directives that leave every start as it is are none: the last one of them gives some field one
value, from whatever start. -/
theorem replay_eq_self_iff (directives : List Directive) :
    (∀ start, replay directives start = start) ↔ directives = [] := by
  constructor
  · intro idle
    rcases List.eq_nil_or_concat' directives with none | ⟨earlier, last, rfl⟩
    · exact none
    · obtain ⟨field, value, sets⟩ := last.exists_field_perform
      obtain ⟨p, q, differ⟩ := field.exists_ne
      have fixed (start : Parameters) : field.of start = value := by
        have same := idle start
        rw [replay_append] at same
        calc field.of start
            = field.of (last.perform (replay earlier start)) := congrArg field.of same.symm
          _ = value := sets _
      exact absurd ((fixed p).trans (fixed q).symm) differ
  · rintro rfl start
    rfl

end Directive

/-! ## The tables -/

/-- A dial does what it reports. -/
theorem dial_turn : ∀ d ∈ dials, ∀ value p, d.turn value p = (d.report value).perform p := by
  simp [dials, Directive.perform]

/-- A cue does what it reports. -/
theorem cue_apply : ∀ cue ∈ cues, ∀ p, cue.apply p = cue.report.perform p := by
  simp [cues, Directive.perform]

/-! ## Reports and effects -/

namespace Resolved

/-- The parameters are what the reported directives make of the start. -/
def Tells (start : Parameters) (r : Resolved) : Prop :=
  r.parameters = Directive.replay r.applied start

variable {start : Parameters} {r : Resolved}

theorem Tells.dial (tells : r.Tells start) (words : List (List Char)) {d : Dial}
    (member : d ∈ dials) : (r.dial words d).Tells start := by
  unfold Resolved.dial
  split
  · next value _ =>
    rw [Tells, Directive.replay_append, ← tells]
    exact dial_turn d member value r.parameters
  · exact tells

theorem Tells.cue (tells : r.Tells start) (text : List Char) {c : Cue} (member : c ∈ cues) :
    (r.cue text c).Tells start := by
  unfold Resolved.cue
  split
  · rw [Tells, Directive.replay_append, ← tells]
    exact cue_apply c member r.parameters
  · exact tells

end Resolved

/-- A run of the resolution reports all that it does. -/
theorem resolve_tells (text : String) (current : Parameters) :
    (resolve text current).Tells current := by
  rw [resolve]
  apply List.foldlRecOn (motive := Resolved.Tells current) cues
  · apply List.foldlRecOn (motive := Resolved.Tells current) dials
    · exact rfl
    · exact fun r tells d member => tells.dial _ member
  · exact fun r tells c member => tells.cue _ member

/-- What is reported is in the text alone. -/
theorem applied_eq_applied (text : String) (current other : Parameters) :
    (resolve text current).applied = (resolve text other).applied := by
  rw [resolve_applied, resolve_applied]

/-! ## The order of the reports -/

/-- Of the dials those that read a value are reported, in their order. -/
theorem turned_sublist (words : List (List Char)) {some : List Dial}
    (known : ∀ d ∈ some, d ∈ dials) :
    ((some.filterMap fun d => (valueAfter? d.keyword.toList words).map d.report).map
      Directive.keyword).Sublist (some.map Dial.keyword) := by
  induction some with
  | nil => exact .slnil
  | cons d rest ih =>
    have later := ih fun other member => known other (List.mem_cons_of_mem d member)
    rw [List.filterMap_cons, List.map_cons]
    cases valueAfter? d.keyword.toList words with
    | none => exact later.cons d.keyword
    | some value =>
      have own := dial_report_keyword d (known d List.mem_cons_self) value
      rw [Option.map_some, List.map_cons, own]
      exact later.cons_cons d.keyword

/-- Of the cues those that are given are reported, in their order. -/
theorem given_sublist (text : List Char) :
    (((cues.filter fun c => isCued text c.keyword.toList).map Cue.report).map
      Directive.keyword).Sublist (cues.map Cue.keyword) := by
  have own : cues.map Cue.keyword = (cues.map Cue.report).map Directive.keyword := by
    rw [List.map_map]
    exact List.map_congr_left fun cue member => (cue_report cue member).2.symm
  rw [own]
  exact (List.filter_sublist.map Cue.report).map Directive.keyword

/-- The order of effect is that of the tables. -/
theorem order_eq : Directive.order = dials.map Dial.keyword ++ cues.map Cue.keyword := by
  simp only [Directive.order, dials, cues, List.map_cons, List.map_nil, List.cons_append,
    List.nil_append]

/-- What is reported stands in the order of effect. -/
theorem applied_sublist (text : String) (current : Parameters) :
    ((resolve text current).applied.map Directive.keyword).Sublist Directive.order := by
  rw [resolve_applied, List.map_append, order_eq]
  exact (turned_sublist (words text.toList) fun _ member => member).append
    (given_sublist text.toList)

/-- In the order of effect every place is before the next one. -/
theorem order_pairwise :
    Directive.order.Pairwise fun first second =>
      Directive.order.idxOf first < Directive.order.idxOf second := by
  decide

/-- The list of applied directives is strictly in the order of effect, so that none is in it twice.
It is in the text alone, and carrying it out does to any parameters what the text does to them; so it
is empty exactly when the text leaves all parameters as they are. -/
theorem applied_tells (text : String) (current : Parameters) :
    ((resolve text current).applied.Pairwise fun first second => first.rank < second.rank) ∧
    ((resolve text current).applied.map Directive.keyword).Nodup ∧
    (∀ other, (resolve text other).applied = (resolve text current).applied) ∧
    (∀ start, Directive.replay (resolve text current).applied start =
      resolveParameters text start) ∧
    ((resolve text current).applied = [] ↔ ∀ start, resolveParameters text start = start) := by
  have ordered := applied_sublist text current
  have places := order_pairwise.sublist ordered
  have replayed (start : Parameters) :
      Directive.replay (resolve text current).applied start = resolveParameters text start := by
    rw [applied_eq_applied text current start]
    exact (resolve_tells text start).symm
  refine ⟨?_, ?_, ?_, replayed, ?_⟩
  · rwa [List.pairwise_map] at places
  · exact ordered.nodup (by decide)
  · exact fun other => applied_eq_applied text other current
  · rw [← Directive.replay_eq_self_iff]
    exact forall_congr' fun start => by rw [replayed]

/-- What is said last takes effect first, and the rate it sets does not last. -/
example : (resolve "loud and slowly speed 2" .default).applied = [.speed (.ofNat 2), .slowly, .loud] ∧
    resolveParameters "loud and slowly speed 2" .default = ⟨.ofRatio false 1 2, .ofNat 1, .ofNat 1⟩ := by
  decide +kernel

end SpeechQueue
