import Mathlib.Data.List.TakeDrop
import PageBlocks.Json.Reader

/-!
Reading a number. The digits in front of its point have no zero before them, and the reader ends each row
of digits where the next part of the number begins, or where the text of the value around it goes on or
stops. So each part is read with what it is written with.
-/
namespace PageBlocks.Json

/-- Texts that may follow a value. -/
def Delimited : List Char → Prop
  | [] => True
  | c :: _ => c = ',' ∨ c = ']' ∨ c = '\x7d'

theorem digits_head {n : Nat} (h : 0 < n) : (Nat.toDigits 10 n).head? ≠ some '0' := by
  induction n using Nat.strongRecOn with
  | ind n ih =>
    by_cases hlt : n < 10
    · rw [Nat.toDigits_of_lt_base hlt]
      simp
      omega
    · have hdiv : (Nat.toDigits 10 (n / 10)).head? ≠ some '0' := ih (n / 10) (by omega) (by omega)
      rw [Nat.toDigits_of_base_le (by omega) (by omega), List.head?_append]
      cases hhead : (Nat.toDigits 10 (n / 10)).head? with
      | none => exact absurd (List.head?_eq_none_iff.mp hhead) Nat.toDigits_ne_nil
      | some c =>
        rw [hhead] at hdiv
        simpa using hdiv

/-- A zero in front stands alone. -/
theorem digits_no_leading_zero (n : Nat) :
    ¬ (1 < (Nat.toDigits 10 n).length ∧ (Nat.toDigits 10 n).head? = some '0') := by
  rintro ⟨hlength, hhead⟩
  rcases Nat.eq_zero_or_pos n with rfl | hpos
  · simp at hlength
  · exact digits_head hpos hhead

theorem isDigit_of_mem_digits {n : Nat} {c : Char} (h : c ∈ Nat.toDigits 10 n) :
    c.isDigit = true :=
  Nat.isDigit_of_mem_toDigits (by omega) (by omega) h

theorem digits_cons (n : Nat) : ∃ c text, Nat.toDigits 10 n = c :: text ∧ c.isDigit = true := by
  obtain ⟨c, text, h⟩ := List.exists_cons_of_ne_nil (Nat.toDigits_ne_nil (n := n) (b := 10))
  have hmem : c ∈ Nat.toDigits 10 n := by
    rw [h]
    exact List.mem_cons_self
  exact ⟨c, text, h, isDigit_of_mem_digits hmem⟩

/-! ### Integers and other numbers -/

/-- The text of an integer. -/
theorem int_toList (value : Int) : (toString value).toList = (Numeral.ofInt value).chars := by
  rw [Int.toString_eq_repr, Int.repr_eq_if]
  split
  · next hnonneg =>
    have hnat : value.natAbs = value.toNat := by omega
    simp [Numeral.ofInt, Numeral.chars, Numeral.bareChars, Numeral.fractionChars, Numeral.exponentChars,
      hnonneg, hnat, Nat.toList_repr]
  · next hneg =>
    have hnat : value.natAbs = (-value).toNat := by omega
    simp [Numeral.ofInt, Numeral.chars, Numeral.bareChars, Numeral.fractionChars, Numeral.exponentChars,
      Int.not_le.mp hneg, hnat, Nat.toList_repr]

theorem Reading.ofNumeral_ofInt (value : Int) : ofNumeral (.ofInt value) = .int value := by
  have hint : (Numeral.ofInt value).isInteger = true := by
    simp only [Numeral.isInteger, Numeral.ofInt, Option.isNone_none, Bool.true_and, Bool.not_eq_true',
      Bool.and_eq_false_iff, decide_eq_false_iff_not, beq_eq_false_iff_ne]
    omega
  have hvalue : (Numeral.ofInt value).toInt = value := by
    simp only [Numeral.toInt, Numeral.ofInt, decide_eq_true_eq]
    split <;> omega
  rw [ofNumeral, dif_neg (by rw [hint]; decide), hvalue]

theorem Reading.ofNumeral_nonInteger (r : NonInteger) : ofNumeral r.numeral = .real r :=
  dif_pos r.isNonInteger

theorem isDigit_digitChar (d : Fin 10) : (digitChar d).isDigit = true := by
  revert d
  decide

theorem isDigit_of_mem_chars {ds : Digits} {c : Char} (h : c ∈ ds.chars) : c.isDigit = true := by
  rcases List.mem_cons.mp h with rfl | h
  · exact isDigit_digitChar _
  · obtain ⟨d, -, rfl⟩ := List.mem_map.mp h
    exact isDigit_digitChar d

namespace Numeral

/-- A number begins with its minus or with a digit. -/
theorem exists_chars_eq_cons (n : Numeral) :
    ∃ c text, n.chars = c :: text ∧ (c = '-' ∨ c.isDigit = true) := by
  obtain ⟨c, text, hdigits, hc⟩ := digits_cons n.whole
  unfold chars
  split
  · exact ⟨_, _, rfl, .inl rfl⟩
  · exact ⟨c, _, by rw [bareChars, hdigits, List.cons_append], .inr hc⟩

theorem isDigit_or_eq_of_mem_fractionChars {f : Option Digits} {c : Char} (h : c ∈ fractionChars f) :
    c.isDigit = true ∨ c = '.' := by
  cases f with
  | none => cases h
  | some ds =>
    rcases List.mem_cons.mp h with hpoint | hdigit
    · exact .inr hpoint
    · exact .inl (isDigit_of_mem_chars hdigit)

theorem isDigit_or_mem_of_mem_exponentChars {e : Option Exponent} {c : Char} (h : c ∈ exponentChars e) :
    c.isDigit = true ∨ c ∈ ['-', '+', 'e', 'E'] := by
  cases e with
  | none => cases h
  | some e =>
    obtain ⟨isCapital, s, ds⟩ := e
    rcases List.mem_cons.mp h with rfl | h
    · cases isCapital <;> simp
    · rcases List.mem_append.mp h with hsign | hdigit
      · cases s with
        | unwritten => cases hsign
        | plus | minus => simp [List.mem_singleton.mp hsign]
      · exact .inl (isDigit_of_mem_chars hdigit)

theorem isDigit_or_mem_of_mem_bareChars {n : Numeral} {c : Char} (h : c ∈ n.bareChars) :
    c.isDigit = true ∨ c ∈ ['-', '+', '.', 'e', 'E'] := by
  rw [bareChars, List.mem_append, List.mem_append] at h
  rcases h with hwhole | hfraction | hexponent
  · exact .inl (isDigit_of_mem_digits hwhole)
  · exact (isDigit_or_eq_of_mem_fractionChars hfraction).imp_right fun hpoint => by simp [hpoint]
  · have hwider : ['-', '+', 'e', 'E'] ⊆ ['-', '+', '.', 'e', 'E'] := by simp
    exact (isDigit_or_mem_of_mem_exponentChars hexponent).imp_right fun hother => hwider hother

/-- Numbers are written with digits and five other characters. -/
theorem isDigit_or_mem_of_mem_chars {n : Numeral} {c : Char} (h : c ∈ n.chars) :
    c.isDigit = true ∨ c ∈ ['-', '+', '.', 'e', 'E'] := by
  unfold chars at h
  split at h
  · rcases List.mem_cons.mp h with rfl | h
    · exact .inr (by simp)
    · exact isDigit_or_mem_of_mem_bareChars h
  · exact isDigit_or_mem_of_mem_bareChars h

end Numeral

namespace Reader

theorem decimal_digits (n : Nat) : decimal (Nat.toDigits 10 n) = n := by
  have h : decimal (Nat.toDigits 10 n) = Nat.ofDigitChars 10 (Nat.toDigits 10 n) 0 := by
    simp [decimal, Nat.ofDigitChars, Nat.mul_comm]
  rw [h, Nat.ofDigitChars_ten_toDigits]

theorem digitOf_digitChar (d : Fin 10) : digitOf (digitChar d) = d := by
  revert d
  decide

/-! ### The parts of a number -/

/-- A text that does not go on with a digit. -/
def EndsDigits (rest : List Char) : Prop := ∀ c ∈ rest.head?, c.isDigit = false

/-- A text that does not go on with a fraction either. -/
def EndsWhole (rest : List Char) : Prop := EndsDigits rest ∧ rest.head? ≠ some '.'

variable {rest : List Char}

theorem endsWhole_delimited (hrest : Delimited rest) : EndsWhole rest := by
  cases rest with
  | nil => exact ⟨fun c hc => (nomatch hc), by simp⟩
  | cons c cs =>
    rcases hrest with rfl | rfl | rfl <;>
      exact ⟨fun c hc => Option.some_inj.mp hc ▸ rfl, by simp⟩

theorem endsWhole_exponent (e : Option Exponent) (hrest : Delimited rest) :
    EndsWhole (Numeral.exponentChars e ++ rest) := by
  cases e with
  | none => exact endsWhole_delimited hrest
  | some e =>
    obtain ⟨isCapital, s, ds⟩ := e
    cases isCapital <;>
      exact ⟨fun c hc => Option.some_inj.mp hc ▸ rfl, by simp [Numeral.exponentChars, Exponent.chars]⟩

theorem endsDigits_fraction (f : Option Digits) (hrest : EndsWhole rest) :
    EndsDigits (Numeral.fractionChars f ++ rest) := by
  cases f with
  | none => exact hrest.1
  | some ds => exact fun c hc => Option.some_inj.mp hc ▸ rfl

theorem dropWhile_endsDigits (hrest : EndsDigits rest) : rest.dropWhile Char.isDigit = rest := by
  cases rest with
  | nil => rfl
  | cons c cs => exact List.dropWhile_cons_of_neg (by simp [hrest c rfl])

theorem takeWhile_endsDigits (hrest : EndsDigits rest) : rest.takeWhile Char.isDigit = [] := by
  cases rest with
  | nil => rfl
  | cons c cs => exact List.takeWhile_cons_of_neg (by simp [hrest c rfl])

/-- A row of digits is read up to its end. -/
theorem span_digits {digits : List Char} (hdigits : ∀ c ∈ digits, c.isDigit = true)
    (hrest : EndsDigits rest) : (digits ++ rest).span Char.isDigit = (digits, rest) := by
  rw [List.span_eq_takeWhile_dropWhile, List.takeWhile_append_of_pos hdigits,
    List.dropWhile_append_of_pos hdigits, takeWhile_endsDigits hrest, dropWhile_endsDigits hrest,
    List.append_nil]

theorem someDigits?_chars (ds : Digits) (hrest : EndsDigits rest) :
    someDigits? (ds.chars ++ rest) = some (ds, rest) := by
  obtain ⟨first, more⟩ := ds
  have hmore : ∀ c ∈ more.map digitChar, c.isDigit = true := by
    intro c hc
    obtain ⟨d, -, rfl⟩ := List.mem_map.mp hc
    exact isDigit_digitChar d
  have hback : (more.map digitChar).map digitOf = more := by
    rw [List.map_map]
    exact (List.map_congr_left fun d _ => digitOf_digitChar d).trans (List.map_id more)
  rw [Digits.chars, List.cons_append, someDigits?, if_pos (isDigit_digitChar first),
    List.takeWhile_append_of_pos hmore, List.dropWhile_append_of_pos hmore, takeWhile_endsDigits hrest,
    dropWhile_endsDigits hrest, List.append_nil, hback, digitOf_digitChar]

theorem fraction?_chars (f : Option Digits) (hrest : EndsWhole rest) :
    fraction? (Numeral.fractionChars f ++ rest) = some (f, rest) := by
  cases f with
  | none =>
    rw [Numeral.fractionChars, List.nil_append, fraction?]
    rintro text rfl
    exact hrest.2 rfl
  | some ds =>
    rw [Numeral.fractionChars, List.cons_append, fraction?, someDigits?_chars ds hrest.1, Option.map_some]

theorem sign_chars (s : Sign) (ds : Digits) :
    sign (s.chars ++ (ds.chars ++ rest)) = (s, ds.chars ++ rest) := by
  cases s with
  | plus | minus => rfl
  | unwritten =>
    -- the first digit is no sign
    have hdigit := isDigit_digitChar ds.first
    rw [Sign.chars, List.nil_append, sign]
    · rintro text htext
      rw [(List.cons.inj htext).1] at hdigit
      cases hdigit
    · rintro text htext
      rw [(List.cons.inj htext).1] at hdigit
      cases hdigit

theorem exponent?_chars (e : Option Exponent) (hrest : Delimited rest) :
    exponent? (Numeral.exponentChars e ++ rest) = some (e, rest) := by
  cases e with
  | none =>
    cases rest with
    | nil => rfl
    | cons c cs => rcases hrest with rfl | rfl | rfl <;> rfl
  | some e =>
    obtain ⟨isCapital, s, ds⟩ := e
    have htail : exponentTail? isCapital (s.chars ++ (ds.chars ++ rest)) =
        some (some ⟨isCapital, s, ds⟩, rest) := by
      rw [exponentTail?, sign_chars]
      dsimp only
      rw [someDigits?_chars ds (endsWhole_delimited hrest).1, Option.map_some]
    rw [Numeral.exponentChars, Exponent.chars, List.cons_append, List.append_assoc]
    cases isCapital <;> exact htail

/-- A number is read back with all its parts. -/
theorem number?_bareChars (n : Numeral) (hrest : Delimited rest) :
    number? n.isNegative (n.bareChars ++ rest) = some (.ofNumeral n, rest) := by
  have hexponent := endsWhole_exponent n.exponent hrest
  have hfraction := endsDigits_fraction n.fraction hexponent
  have hdigits : ∀ c ∈ Nat.toDigits 10 n.whole, c.isDigit = true := fun _ => isDigit_of_mem_digits
  have hempty : (Nat.toDigits 10 n.whole).isEmpty = false := by
    simp [Nat.toDigits_ne_nil]
  have hleading : (decide (1 < (Nat.toDigits 10 n.whole).length) &&
      (Nat.toDigits 10 n.whole).head? == some '0') = false := by
    simpa using digits_no_leading_zero n.whole
  rw [Numeral.bareChars, List.append_assoc, List.append_assoc, number?,
    span_digits hdigits hfraction]
  simp [hempty, hleading, fraction?_chars _ hexponent, exponent?_chars _ hrest, decimal_digits]

end Reader

end PageBlocks.Json
