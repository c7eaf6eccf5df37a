import Mathlib.Data.List.Basic
import PageBlocks.Text.Replace

/-!
Exchanging every occurrence of a pattern, read from the left: an occurrence at the front is exchanged,
any other first character stays.
-/
namespace PageBlocks.Text

variable {pattern new : List Char}

theorem replaceFrom_skip (front rest : List Char) :
    replaceFrom pattern new front.length (front ++ rest) = replaceAll pattern new rest := by
  induction front with
  | nil => rfl
  | cons c front ih => exact ih

theorem replaceAll_hit (c : Char) (cs rest : List Char) :
    replaceAll (c :: cs) new ((c :: cs) ++ rest) = new ++ replaceAll (c :: cs) new rest := by
  have hhit : (c :: cs).isPrefixOf (c :: (cs ++ rest)) = true :=
    List.isPrefixOf_iff_prefix.mpr (List.prefix_append (c :: cs) rest)
  rw [List.cons_append, replaceAll, replaceFrom, if_pos hhit]
  exact congrArg (new ++ ·) (replaceFrom_skip cs rest)

theorem replaceAll_one (c : Char) (rest : List Char) :
    replaceAll [c] new (c :: rest) = new ++ replaceAll [c] new rest :=
  replaceAll_hit c [] rest

theorem replaceAll_two (c d : Char) (rest : List Char) :
    replaceAll [c, d] new (c :: d :: rest) = new ++ replaceAll [c, d] new rest :=
  replaceAll_hit c [d] rest

theorem replaceAll_miss {c : Char} {rest : List Char} (h : ¬ pattern <+: c :: rest) :
    replaceAll pattern new (c :: rest) = c :: replaceAll pattern new rest := by
  have hmiss : ¬ pattern.isPrefixOf (c :: rest) = true := by
    simpa [List.isPrefixOf_iff_prefix] using h
  rw [replaceAll, replaceFrom, if_neg hmiss]
  rfl

theorem not_prefix_of_ne {c d : Char} (h : d ≠ c) (cs rest : List Char) :
    ¬ c :: cs <+: d :: rest := by
  rintro ⟨tail, htail⟩
  exact h (List.cons.inj htail).1.symm

/-- The first character of the result is that of the text or that of what was put in. -/
theorem head?_replaceAll (pattern : List Char) (hnew : new ≠ []) (cs : List Char) :
    (replaceAll pattern new cs).head? = cs.head? ∨
      (replaceAll pattern new cs).head? = new.head? := by
  cases cs with
  | nil => exact .inl rfl
  | cons c rest =>
    rw [replaceAll, replaceFrom]
    split
    · exact .inr (by simp [hnew, List.head?_eq_some_head])
    · exact .inl rfl

end PageBlocks.Text
