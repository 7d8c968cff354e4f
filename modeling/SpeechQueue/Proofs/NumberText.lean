import SpeechQueue.Number.Layout
import SpeechQueue.Proofs.Rounding

/-! # Reading what is written

A value is written with as few digits as read back, and with a point and zeros where they belong.
Main statement: `read?_text`, the plain text of a value reads as this value, whatever it is. -/

namespace SpeechQueue

/-! ## The digits chosen -/

namespace Neighbourhood

theorem contains_of_onGrid? {n : Neighbourhood} {k point : Nat} (found : n.onGrid? k = some point) :
    n.contains (4 * (point * 10 ^ k)) = true := by
  have quarters : 4 * (point * 10 ^ k) = point * (4 * 10 ^ k) := Nat.mul_left_comm ..
  simp only [onGrid?, Nat.pow_eq] at found
  rw [quarters]
  split at found
  · next below above =>
    split at found <;> cases Option.some.inj found <;> assumption
  · cases Option.some.inj found
    assumption
  · cases Option.some.inj found
    assumption
  · cases found

/-- The search ends at a point of the neighbourhood, for the centre is one. -/
theorem contains_coarsest {n : Neighbourhood} (whole : n.centre = 4 * (n.centre / 4))
    (centred : n.contains n.centre = true) (k : Nat) :
    n.contains (4 * ((n.coarsest k).1 * 10 ^ (n.coarsest k).2)) = true := by
  induction k with
  | zero =>
    rw [coarsest, Nat.pow_zero, Nat.mul_one, ← whole]
    exact centred
  | succ k ih =>
    rw [coarsest]
    split
    · next found => exact contains_of_onGrid? found
    · exact ih

end Neighbourhood

namespace Format

variable {f : Format} {quanta : Nat}

/-- A magnitude that is not zero is at least one step. -/
theorem Holds.step_le (held : f.Holds quanta) (nonzero : quanta ≠ 0) :
    2 ^ f.place quanta ≤ quanta :=
  Nat.le_of_dvd (Nat.pos_of_ne_zero nonzero) (Nat.dvd_of_mod_eq_zero held.2)

theorem reach_bounds (held : f.Holds quanta) (nonzero : quanta ≠ 0) :
    0 < f.reach quanta ∧ f.reach quanta < 4 * quanta := by
  have step := held.step_le nonzero
  have positive := Nat.two_pow_pos (f.place quanta)
  unfold reach
  split <;> omega

/-- A magnitude lies in its own neighbourhood, and zero does not. -/
theorem neighbourhood_centred (held : f.Holds quanta) (nonzero : quanta ≠ 0) :
    (f.neighbourhood quanta).contains (f.neighbourhood quanta).centre = true ∧
      (f.neighbourhood quanta).contains 0 = false := by
  obtain ⟨positive, short⟩ := reach_bounds held nonzero
  have unit : 0 < 5 ^ f.scale := Nat.pow_pos (by decide)
  have step := Nat.two_pow_pos (f.place quanta)
  have lower : (4 * quanta - f.reach quanta) * 5 ^ f.scale < 4 * quanta * 5 ^ f.scale :=
    Nat.mul_lt_mul_of_pos_right (by omega) unit
  have upper : 4 * quanta * 5 ^ f.scale < (4 * quanta + 2 * 2 ^ f.place quanta) * 5 ^ f.scale :=
    Nat.mul_lt_mul_of_pos_right (by omega) unit
  have beyond : 0 < (4 * quanta - f.reach quanta) * 5 ^ f.scale :=
    Nat.mul_pos (by omega) unit
  rw [neighbourhood_eq]
  constructor
  · simp [Neighbourhood.contains, Nat.le_of_lt lower, Nat.le_of_lt upper, lower, upper]
  · simp only [Neighbourhood.contains]
    split
    · rw [decide_eq_false (Nat.not_le_of_lt beyond), Bool.false_and]
    · rw [decide_eq_false (Nat.not_lt_zero _), Bool.false_and]

/-- The shortest numeral of a magnitude is not zero, and lies in its neighbourhood. -/
theorem shortest_cases (held : f.Holds quanta) (nonzero : quanta ≠ 0) (negative : Bool) :
    ∃ coefficient grid : Nat,
      f.shortest negative quanta = ⟨negative, coefficient, (grid : Int) - f.scale⟩ ∧
      coefficient ≠ 0 ∧
      (f.neighbourhood quanta).contains (4 * (coefficient * 10 ^ grid)) = true := by
  obtain ⟨centred, notZero⟩ := neighbourhood_centred held nonzero
  have whole : (f.neighbourhood quanta).centre = 4 * ((f.neighbourhood quanta).centre / 4) := by
    rw [neighbourhood_eq, Nat.mul_assoc, Nat.mul_div_cancel_left _ (by decide)]
  have inside := Neighbourhood.contains_coarsest whole centred
    (Nat.toDigits 10 ((f.neighbourhood quanta).centre / 4)).length
  refine ⟨_, _, rfl, fun zero => ?_, inside⟩
  rw [zero, Nat.zero_mul, Nat.mul_zero, notZero] at inside
  cases inside

end Format

namespace Binary

variable {f : Format} {quanta : Nat}

/-- A quotient that lies in the neighbourhood of a magnitude gives that value. -/
theorem ofRatio_eq (held : f.Holds quanta) (kept : 0 < f.precision) (negative : Bool)
    {num den point : Nat} (positive : 0 < den) (ratio : num * 10 ^ f.scale = point * den)
    (inside : (f.neighbourhood quanta).contains (4 * point) = true) :
    Binary.ofRatio negative num den = .finite negative quanta held := by
  have units : num * 2 ^ f.scale * 5 ^ f.scale = point * den := by
    rw [Nat.mul_assoc, ← Nat.mul_pow, ratio]
  rw [ofRatio, Nat.pow_eq, Format.round_eq_of_contains held kept positive units inside, ofQuanta,
    dif_pos held]

/-- A whole numeral of the neighbourhood reads as the value. -/
theorem ofNumeral_whole (held : f.Holds quanta) (kept : 0 < f.precision) (negative : Bool)
    {coefficient zeros : Nat} (nonzero : coefficient ≠ 0)
    (inside : (f.neighbourhood quanta).contains
      (4 * (coefficient * 10 ^ (f.scale + zeros))) = true) :
    Binary.ofNumeral ⟨negative, coefficient * 10 ^ zeros, 0⟩ = .finite negative quanta held := by
  have positive : coefficient * 10 ^ zeros ≠ 0 :=
    Nat.mul_ne_zero nonzero (Nat.ne_of_gt (Nat.pow_pos (by decide)))
  have ratio : coefficient * 10 ^ zeros * Nat.pow 10 0 * 10 ^ f.scale =
      coefficient * 10 ^ (f.scale + zeros) * 1 := by
    rw [Nat.pow_eq, Nat.pow_zero, Nat.mul_one, Nat.mul_one, Nat.mul_assoc, ← Nat.pow_add,
      Nat.add_comm]
  rw [ofNumeral, if_neg positive]
  exact ofRatio_eq held kept negative Nat.one_pos ratio inside

/-- A numeral of the neighbourhood with decimal places reads as the value. -/
theorem ofNumeral_fraction (held : f.Holds quanta) (kept : 0 < f.precision) (negative : Bool)
    {coefficient grid places : Nat} (nonzero : coefficient ≠ 0)
    (fine : grid + (places + 1) = f.scale)
    (inside : (f.neighbourhood quanta).contains (4 * (coefficient * 10 ^ grid)) = true) :
    Binary.ofNumeral ⟨negative, coefficient, .negSucc places⟩ = .finite negative quanta held := by
  have ratio : coefficient * 10 ^ f.scale = coefficient * 10 ^ grid * Nat.pow 10 (places + 1) := by
    rw [← fine, Nat.pow_add, Nat.pow_eq, Nat.mul_assoc]
  rw [ofNumeral, if_neg nonzero]
  dsimp only
  rw [if_neg (by omega)]
  exact ofRatio_eq held kept negative (Nat.pow_pos (by decide)) ratio inside

end Binary

/-! ## The digits laid out -/

namespace Numeral

theorem digitsValue_eq (digits : List Char) :
    digitsValue digits = Nat.ofDigitChars 10 digits 0 :=
  rfl

theorem isDigit_of_mem_digits (n : Nat) : ∀ c ∈ Nat.toDigits 10 n, c.isDigit = true :=
  fun _ member => Nat.isDigit_of_mem_toDigits (by decide) (by decide) member

/-- Zeros in front of digits change nothing. -/
theorem digitsValue_zeros_append (count : Nat) (digits : List Char) :
    digitsValue (List.replicate count '0' ++ digits) = digitsValue digits := by
  rw [digitsValue_eq, Nat.ofDigitChars_append, Nat.ofDigitChars_replicate_zero, Nat.mul_zero,
    digitsValue_eq]

/-- Zeros behind digits multiply by as many tens. -/
theorem digitsValue_append_zeros (digits : List Char) (count : Nat) :
    digitsValue (digits ++ List.replicate count '0') = digitsValue digits * 10 ^ count := by
  rw [digitsValue_eq, Nat.ofDigitChars_append, Nat.ofDigitChars_replicate_zero, Nat.mul_comm,
    digitsValue_eq]

/-- A run of digits ends where something else begins. -/
theorem span_digits {digits : List Char} (all : ∀ c ∈ digits, c.isDigit = true)
    (rest : List Char) (ends : ∀ c ∈ rest.head?, c.isDigit = false) :
    (digits ++ rest).takeWhile Char.isDigit = digits ∧
      (digits ++ rest).dropWhile Char.isDigit = rest := by
  rw [List.takeWhile_append_of_pos all, List.dropWhile_append_of_pos all]
  cases rest with
  | nil => simp
  | cons c rest =>
    have other := ends c rfl
    simp [other]

/-- Digits alone are a whole numeral. -/
theorem readMagnitude?_digits (negative : Bool) {digits : List Char} (nonempty : digits ≠ [])
    (all : ∀ c ∈ digits, c.isDigit = true) :
    readMagnitude? negative digits = some ⟨negative, digitsValue digits, 0⟩ := by
  obtain ⟨whole, rest⟩ := span_digits all [] (by simp)
  rw [List.append_nil] at whole rest
  simp [readMagnitude?, whole, rest, nonempty, readExponent?]

/-- Digits with a point among them are a numeral with decimal places. -/
theorem readMagnitude?_point (negative : Bool) {whole fraction : List Char} (nonempty : whole ≠ [])
    (wholeDigits : ∀ c ∈ whole, c.isDigit = true)
    (fractionDigits : ∀ c ∈ fraction, c.isDigit = true) :
    readMagnitude? negative (whole ++ '.' :: fraction) =
      some ⟨negative, digitsValue (whole ++ fraction), -(fraction.length : Int)⟩ := by
  obtain ⟨front, back⟩ := span_digits wholeDigits ('.' :: fraction) (by simp)
  obtain ⟨places, rest⟩ := span_digits fractionDigits [] (by simp)
  rw [List.append_nil] at places rest
  simp [readMagnitude?, front, back, places, rest, nonempty, readExponent?]

end Numeral

namespace Layout

variable {digits : List Char}

/-- Whatever the power of ten, the digits are laid out from a digit on. -/
theorem positional_eq_cons (all : ∀ c ∈ digits, c.isDigit = true) (nonempty : digits ≠ [])
    (exponent : Int) :
    ∃ c rest, positional false digits exponent = c :: rest ∧ c.isDigit = true := by
  obtain ⟨first, others, rfl⟩ := List.exists_cons_of_ne_nil nonempty
  have digit := all first List.mem_cons_self
  cases exponent with
  | ofNat zeros => exact ⟨first, _, rfl, digit⟩
  | negSucc places =>
    simp only [positional]
    split
    · next inside =>
      obtain ⟨whole, length⟩ : ∃ whole, (first :: others).length - (places + 1) = whole + 1 :=
        ⟨(first :: others).length - (places + 1) - 1, by omega⟩
      rw [length, List.take_succ_cons]
      exact ⟨first, _, rfl, digit⟩
    · exact ⟨'0', _, rfl, by decide⟩

theorem readMagnitude?_positional_ofNat (all : ∀ c ∈ digits, c.isDigit = true)
    (nonempty : digits ≠ []) (negative : Bool) (zeros : Nat) :
    Numeral.readMagnitude? negative (positional false digits (.ofNat zeros)) =
      some ⟨negative, Numeral.digitsValue digits * 10 ^ zeros, 0⟩ := by
  have laid : positional false digits (.ofNat zeros) = digits ++ List.replicate zeros '0' :=
    List.append_nil _
  rw [laid, Numeral.readMagnitude?_digits negative, Numeral.digitsValue_append_zeros]
  · exact List.append_ne_nil_of_left_ne_nil nonempty _
  · intro c member
    rcases List.mem_append.mp member with member | member
    · exact all c member
    · rw [List.eq_of_mem_replicate member]
      decide

theorem readMagnitude?_positional_negSucc (all : ∀ c ∈ digits, c.isDigit = true)
    (negative : Bool) (places : Nat) :
    Numeral.readMagnitude? negative (positional false digits (.negSucc places)) =
      some ⟨negative, Numeral.digitsValue digits, .negSucc places⟩ := by
  simp only [positional]
  split
  · next inside =>
    rw [Numeral.readMagnitude?_point negative, List.take_append_drop, List.length_drop,
      show digits.length - (digits.length - (places + 1)) = places + 1 by omega]
    · rfl
    · rw [← List.length_pos_iff, List.length_take]
      omega
    · exact fun c member => all c (List.mem_of_mem_take member)
    · exact fun c member => all c (List.mem_of_mem_drop member)
  · next outside =>
    have zeros : ['0'] ++ (List.replicate (places + 1 - digits.length) '0' ++ digits) =
        List.replicate (places + 1 - digits.length + 1) '0' ++ digits := by
      rw [List.replicate_succ]
      rfl
    have length : (List.replicate (places + 1 - digits.length) '0' ++ digits).length =
        places + 1 := by
      rw [List.length_append, List.length_replicate]
      omega
    have zero : ∀ c ∈ ['0'], c.isDigit = true := by simp
    have fraction : ∀ c ∈ List.replicate (places + 1 - digits.length) '0' ++ digits,
        c.isDigit = true := by
      intro c member
      rcases List.mem_append.mp member with member | member
      · rw [List.eq_of_mem_replicate member]
        decide
      · exact all c member
    have point := Numeral.readMagnitude?_point negative (List.cons_ne_nil '0' []) zero fraction
    rwa [zeros, Numeral.digitsValue_zeros_append, length] at point

end Layout

/-! ## Reading the text -/

/-- A digit has no other case. -/
theorem toLower_of_isDigit {c : Char} (digit : c.isDigit = true) : c.toLower = c := by
  have bounds : '0'.val ≤ c.val ∧ c.val ≤ '9'.val := by
    simpa [Char.isDigit] using digit
  have small : ¬ (c.val ≥ 'A'.val ∧ c.val ≤ 'Z'.val) := fun upper =>
    absurd (UInt32.le_trans upper.1 bounds.2) (by decide)
  exact dif_neg small

theorem ne_of_isDigit {c d : Char} (digit : c.isDigit = true) (other : d.isDigit = false) :
    c ≠ d := by
  rintro rfl
  rw [digit] at other
  cases other

namespace Binary

variable {f : Format}

/-- No word begins with a digit. -/
theorem word_ne_of_isDigit {c d : Char} (digit : c.isDigit = true) (rest : List Char)
    {word : String} {letters : List Char} (spelt : word.toList = d :: letters)
    (other : d.isDigit = false) : String.ofList ((c :: rest).map Char.toLower) ≠ word := by
  intro same
  have first := congrArg String.toList same
  rw [String.toList_ofList, List.map_cons, toLower_of_isDigit digit, spelt] at first
  exact ne_of_isDigit digit other (List.cons.inj first).1

/-- What begins with a digit, or with a minus sign and a digit, is read as a magnitude. -/
theorem read?_of_isDigit {c : Char} (digit : c.isDigit = true) (rest : List Char) :
    (read? (c :: rest) : Option (Binary f)) =
        (Numeral.readMagnitude? false (c :: rest)).map .ofNumeral ∧
      (read? ('-' :: c :: rest) : Option (Binary f)) =
        (Numeral.readMagnitude? true (c :: rest)).map .ofNumeral := by
  have nan : String.ofList ((c :: rest).map Char.toLower) ≠ "nan" :=
    word_ne_of_isDigit digit rest rfl (by decide)
  have inf : String.ofList ((c :: rest).map Char.toLower) ≠ "inf" :=
    word_ne_of_isDigit digit rest rfl (by decide)
  have infinity : String.ofList ((c :: rest).map Char.toLower) ≠ "infinity" :=
    word_ne_of_isDigit digit rest rfl (by decide)
  have unsigned : Numeral.splitSign (c :: rest) = (false, c :: rest) := by
    unfold Numeral.splitSign
    split
    · next same => exact absurd (List.cons.inj same).1 (ne_of_isDigit digit (by decide))
    · next same => exact absurd (List.cons.inj same).1 (ne_of_isDigit digit (by decide))
    · rfl
  have signed : Numeral.splitSign ('-' :: c :: rest) = (true, c :: rest) := rfl
  constructor
  · simp only [read?, unsigned, nan, inf, infinity, or_self, if_false]
  · simp only [read?, signed, nan, inf, infinity, or_self, if_false]

/-- The plain text of a numeral is read as the magnitude that is laid out, with its sign. -/
theorem read?_plain (n : Numeral) : (read? (Layout.plain.write n) : Option (Binary f)) =
    (Numeral.readMagnitude? n.negative
      (Layout.positional false (Nat.toDigits 10 n.coefficient) n.exponent)).map .ofNumeral := by
  obtain ⟨c, rest, laid, digit⟩ :=
    Layout.positional_eq_cons (Numeral.isDigit_of_mem_digits n.coefficient) Nat.toDigits_ne_nil n.exponent
  obtain ⟨unsigned, signed⟩ := read?_of_isDigit (f := f) digit rest
  cases sign : n.negative with
  | false => simp [Layout.write, Layout.plain, sign, laid, unsigned]
  | true => simp [Layout.write, Layout.plain, sign, laid, signed]

/-- The shortest numeral of a magnitude, laid out, reads as the value. -/
theorem read?_shortest (kept : 0 < f.precision) {quanta : Nat} (held : f.Holds quanta)
    (nonzero : quanta ≠ 0) (negative : Bool) :
    read? (Layout.plain.write (f.shortest negative quanta)) =
      some (.finite negative quanta held) := by
  obtain ⟨coefficient, grid, shortest, positive, inside⟩ :=
    Format.shortest_cases held nonzero negative
  have all := Numeral.isDigit_of_mem_digits coefficient
  have value : Numeral.digitsValue (Nat.toDigits 10 coefficient) = coefficient :=
    Nat.ofDigitChars_toDigits (by decide) (by decide)
  rw [read?_plain, shortest]
  by_cases coarse : f.scale ≤ grid
  · obtain ⟨zeros, rfl⟩ := Nat.exists_eq_add_of_le coarse
    have exponent : ((f.scale + zeros : Nat) : Int) - f.scale = .ofNat zeros := by
      rw [Int.ofNat_eq_natCast]
      omega
    rw [exponent,
      Layout.readMagnitude?_positional_ofNat all Nat.toDigits_ne_nil, value, Option.map_some,
      ofNumeral_whole held kept negative positive inside]
  · obtain ⟨places, fine⟩ : ∃ places, grid + (places + 1) = f.scale :=
      ⟨f.scale - grid - 1, by omega⟩
    rw [show (grid : Int) - f.scale = .negSucc places by omega,
      Layout.readMagnitude?_positional_negSucc all, value, Option.map_some,
      ofNumeral_fraction held kept negative positive fine inside]

/-- A value reads back from its plain text, an infinity, a zero of either sign and what is not a
number included. -/
theorem read?_write_plain (kept : 0 < f.precision) (x : Binary f) :
    read? (x.write .plain) = some x := by
  cases x with
  | nan => rfl
  | infinite negative => cases negative <;> rfl
  | finite negative quanta held =>
    cases quanta with
    | zero => cases negative <;> rfl
    | succ less => exact read?_shortest kept held (Nat.succ_ne_zero less) negative

theorem read?_text (kept : 0 < f.precision) (x : Binary f) : read? x.text.toList = some x := by
  rw [text, String.toList_ofList]
  exact read?_write_plain kept x

end Binary

end SpeechQueue
