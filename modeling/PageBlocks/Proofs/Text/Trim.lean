import PageBlocks.Text.Blank
import Mathlib.Data.List.TakeWhile

/-!
Trimming. A trimmed text neither begins nor ends with a blank, trimming it again changes nothing, and
nothing is left of a text exactly if it is made of blanks.
-/
namespace PageBlocks.Text

theorem isBlank_of_isAlphanum {c : Char} (h : c.isAlphanum = true) : isBlank c = false := by
  change (decide ('A'.val ≤ c.val ∧ c.val ≤ 'Z'.val) ||
    (decide ('a'.val ≤ c.val) && decide (c.val ≤ 'z'.val)) ||
    (decide ('0'.val ≤ c.val) && decide (c.val ≤ '9'.val))) = true at h
  simp only [Bool.or_eq_true, Bool.and_eq_true, decide_eq_true_eq, UInt32.le_iff_toNat_le] at h
  change ((65 ≤ c.toNat ∧ c.toNat ≤ 90) ∨ (97 ≤ c.toNat ∧ c.toNat ≤ 122)) ∨
    (48 ≤ c.toNat ∧ c.toNat ≤ 57) at h
  simp only [isBlank, Bool.or_eq_false_iff, Bool.and_eq_false_iff, decide_eq_false_iff_not,
    beq_eq_false_iff_ne]
  omega

theorem trimEndChars_eq_nil_iff (cs : List Char) :
    trimEndChars cs = [] ↔ ∀ c ∈ cs, isBlank c = true := by
  rw [trimEndChars, List.reverse_eq_nil_iff, List.dropWhile_eq_nil_iff]
  simp only [List.mem_reverse]

theorem trimChars_eq_nil_iff (cs : List Char) :
    trimChars cs = [] ↔ ∀ c ∈ cs, isBlank c = true := by
  rw [trimChars, trimEndChars_eq_nil_iff, trimStartChars]
  constructor
  · intro h c hc
    rw [← List.takeWhile_append_dropWhile (p := isBlank) (l := cs), List.mem_append] at hc
    rcases hc with hc | hc
    · exact List.mem_takeWhile_imp hc
    · exact h c hc
  · intro h c hc
    exact h c ((List.dropWhile_suffix isBlank).subset hc)

theorem isAllBlank_iff (s : String) : isAllBlank s = true ↔ trimChars s.toList = [] := by
  rw [trimChars_eq_nil_iff, isAllBlank, List.all_eq_true]

/-- Text that is not blank is trimmed, and nothing is left of text that is. -/
theorem trimmed?_eq (s : String) :
    trimmed? s = if isAllBlank s then none else some (trim s) := by
  have hempty : (trim s).isEmpty = isAllBlank s := by
    rw [Bool.eq_iff_iff, isAllBlank_iff, String.isEmpty_iff, trim]
    simp only [String.ofList_eq_empty_iff]
  simp only [trimmed?, hempty]

theorem trimStartChars_eq_self {cs : List Char} (h : ∀ c ∈ cs.head?, isBlank c = false) :
    trimStartChars cs = cs := by
  cases cs with
  | nil => rfl
  | cons c cs => exact trimStartChars_of_head (h c rfl)

theorem trimEndChars_eq_self {cs : List Char} (h : ∀ c ∈ cs.getLast?, isBlank c = false) :
    trimEndChars cs = cs := by
  have hrev : trimStartChars cs.reverse = cs.reverse :=
    trimStartChars_eq_self (by rwa [List.head?_reverse])
  rw [trimEndChars, ← trimStartChars, hrev, List.reverse_reverse]

theorem not_isBlank_of_dropWhile (cs : List Char) {c : Char}
    (h : c ∈ (cs.dropWhile isBlank).head?) : isBlank c = false := by
  have hnot := List.head?_dropWhile_not isBlank cs
  rw [h] at hnot
  exact hnot

theorem trimEndChars_prefix (cs : List Char) : trimEndChars cs <+: cs := by
  rw [← List.reverse_suffix, trimEndChars, List.reverse_reverse]
  exact List.dropWhile_suffix isBlank

/-- What is left by trimming has no blank at its beginning. -/
theorem not_isBlank_head {cs : List Char} {c : Char} (h : c ∈ (trimChars cs).head?) :
    isBlank c = false := by
  obtain ⟨rest, hrest⟩ := trimEndChars_prefix (trimStartChars cs)
  apply not_isBlank_of_dropWhile cs
  rw [← trimStartChars, ← hrest, ← trimChars, List.head?_append, h]
  rfl

/-- What is left by trimming has no blank at its end. -/
theorem not_isBlank_last {cs : List Char} {c : Char} (h : c ∈ (trimChars cs).getLast?) :
    isBlank c = false := by
  rw [trimChars, trimEndChars, List.getLast?_reverse] at h
  exact not_isBlank_of_dropWhile _ h

/-- A text is its own trim exactly if it has a blank at neither end. -/
theorem trimChars_eq_self_iff (cs : List Char) :
    trimChars cs = cs ↔
      (∀ c ∈ cs.head?, isBlank c = false) ∧ ∀ c ∈ cs.getLast?, isBlank c = false := by
  constructor
  · intro h
    constructor
    · intro c hc
      rw [← h] at hc
      exact not_isBlank_head hc
    · intro c hc
      rw [← h] at hc
      exact not_isBlank_last hc
  · rintro ⟨hhead, hlast⟩
    rw [trimChars, trimStartChars_eq_self hhead, trimEndChars_eq_self hlast]

theorem trimChars_blank_cons {c : Char} (h : isBlank c = true) (cs : List Char) :
    trimChars (c :: cs) = trimChars cs := by
  rw [trimChars, trimStartChars, List.dropWhile_cons_of_pos h]
  rfl

theorem trimChars_trimChars (cs : List Char) :
    trimChars (trimChars cs) = trimChars cs :=
  (trimChars_eq_self_iff _).mpr ⟨fun _ => not_isBlank_head, fun _ => not_isBlank_last⟩

/-- What trimming takes away is blanks before and behind what it leaves. -/
theorem exists_blanks_around (cs : List Char) :
    ∃ front back, cs = front ++ (trimChars cs ++ back) ∧ (∀ c ∈ front, isBlank c = true) ∧
      ∀ c ∈ back, isBlank c = true := by
  obtain ⟨back, hback⟩ := trimEndChars_prefix (trimStartChars cs)
  refine ⟨cs.takeWhile isBlank, back, ?_, fun c => List.mem_takeWhile_imp, ?_⟩
  · rw [trimChars, hback, trimStartChars, List.takeWhile_append_dropWhile]
  · -- the end that goes is where the reversed text begins with blanks
    have hsplit : trimStartChars cs = trimEndChars (trimStartChars cs) ++
        ((trimStartChars cs).reverse.takeWhile isBlank).reverse := by
      rw [trimEndChars, ← List.reverse_append, List.takeWhile_append_dropWhile, List.reverse_reverse]
    have hends := List.append_cancel_left (hback.trans hsplit)
    intro c hc
    rw [hends, List.mem_reverse] at hc
    exact List.mem_takeWhile_imp hc

theorem trim_trim (s : String) : trim (trim s) = trim s := by
  rw [trim, trim, String.toList_ofList, trimChars_trimChars]

end PageBlocks.Text
