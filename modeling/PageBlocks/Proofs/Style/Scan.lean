import PageBlocks.Style.Scanner
import Mathlib.Data.List.Basic

/-!
What the scanners find in a text that goes on. A scan that has gone through a text without finding
anything goes on behind it in the state in which it left it. A text whose braces balance is passed over
by the search for a closing brace, and a text without the beginning of a comment keeps all of itself when
comments are removed.
-/
namespace PageBlocks.Style

/-! ### The first needle -/

theorem le_of_firstOutsideFrom {needle : Char} {q : Quoting} {place found : Nat} {cs : List Char}
    (h : firstOutsideFrom needle q place cs = some found) : place ≤ found := by
  induction cs generalizing q place with
  | nil => simp [firstOutsideFrom] at h
  | cons c cs ih =>
    rw [firstOutsideFrom] at h
    split at h
    · exact Nat.le_of_eq (Option.some.inj h)
    · exact Nat.le_trans (Nat.le_succ place) (ih h)

/-- A scan without a find goes on behind the text. -/
theorem firstOutsideFrom_append {needle : Char} {q : Quoting} {place : Nat} {cs : List Char}
    (h : firstOutsideFrom needle q place cs = none) (rest : List Char) :
    firstOutsideFrom needle q place (cs ++ rest) =
      firstOutsideFrom needle (q.run cs) (place + cs.length) rest := by
  induction cs generalizing q place with
  | nil => rfl
  | cons c cs ih =>
    rw [firstOutsideFrom] at h
    split at h
    · simp at h
    · rename_i hne
      rw [List.cons_append, firstOutsideFrom, if_neg hne, ih h, List.length_cons, Nat.add_assoc,
        Nat.add_comm 1]
      rfl

/-- A needle behind a text that has none and leaves no string open is the first one. -/
theorem firstOutside_append_needle {needle : Char} {cs : List Char}
    (hnone : firstOutside needle cs = none) (hrun : Quoting.plain.run cs = .plain)
    (rest : List Char) : firstOutside needle (cs ++ needle :: rest) = some cs.length := by
  rw [firstOutside, firstOutsideFrom_append hnone, hrun, firstOutsideFrom, if_pos ⟨rfl, rfl⟩,
    Nat.zero_add]

/-- Behind a text that has no needle, and another character, the needle comes later if at all. -/
theorem length_lt_of_firstOutside {needle c : Char} {cs rest : List Char} {found : Nat}
    (hnone : firstOutside needle cs = none) (hc : c ≠ needle)
    (h : firstOutside needle (cs ++ c :: rest) = some found) : cs.length < found := by
  rw [firstOutside, firstOutsideFrom_append hnone, firstOutsideFrom,
    if_neg (fun hfound => hc hfound.2)] at h
  have hle := le_of_firstOutsideFrom h
  omega

/-! ### Braces -/

/-- The depth of braces and the state behind a text, unless a brace closes that was not opened. -/
def bracesFrom (depth : Nat) (q : Quoting) : List Char → Option (Nat × Quoting)
  | [] => some (depth, q)
  | c :: rest =>
    if q = .plain ∧ c = '\x7b' then bracesFrom (depth + 1) q rest
    else if q = .plain ∧ c = '\x7d' then
      if depth = 0 then none else bracesFrom (depth - 1) q rest
    else bracesFrom depth (q.step c) rest

/-- All braces of the text are closed in it, and so are its strings. -/
def Balanced (cs : List Char) : Prop := bracesFrom 0 .plain cs = some (0, .plain)

instance (cs : List Char) : Decidable (Balanced cs) :=
  inferInstanceAs (Decidable (bracesFrom 0 .plain cs = some (0, .plain)))

/-- The search for the closing brace goes through a text that closes only what it opened. -/
theorem closingBraceFrom_append {depth depth' : Nat} {q q' : Quoting} {cs : List Char}
    (h : bracesFrom depth q cs = some (depth', q')) (place : Nat) (rest : List Char) :
    closingBraceFrom (depth + 1) q place (cs ++ rest) =
      closingBraceFrom (depth' + 1) q' (place + cs.length) rest := by
  induction cs generalizing depth q place with
  | nil =>
    obtain ⟨rfl, rfl⟩ := Prod.mk.inj (Option.some.inj h)
    rfl
  | cons c cs ih =>
    rw [bracesFrom] at h
    rw [List.cons_append, closingBraceFrom, List.length_cons,
      show place + (cs.length + 1) = place + 1 + cs.length by omega]
    split at h
    · rename_i hopen
      rw [if_pos hopen, ih h]
    · rename_i hopen
      rw [if_neg hopen]
      split at h
      · rename_i hclose
        split at h
        · simp at h
        · rename_i hdepth
          rw [if_pos hclose, if_neg (by omega), ← ih h,
            show depth + 1 - 1 = depth - 1 + 1 by omega]
      · rename_i hclose
        rw [if_neg hclose, ih h]

/-- A block is closed by the brace behind its balanced text. -/
theorem closingBrace_append {body : List Char} (h : Balanced body) (prelude rest : List Char) :
    closingBrace (prelude ++ '\x7b' :: (body ++ '\x7d' :: rest)) prelude.length =
      some (prelude.length + 1 + body.length) := by
  rw [closingBrace, List.drop_left, closingBraceFrom, if_pos ⟨rfl, rfl⟩,
    closingBraceFrom_append h, closingBraceFrom, if_neg (by decide), if_pos ⟨rfl, rfl⟩, if_pos rfl]

/-! ### Comments -/

/-- What is left of a text without its comments; `inside` is what has been read of a comment, in
reverse. -/
def uncommented : Option (List Char) → List Char → List Char
  | none, [] => []
  | some inside, [] => inside.reverse
  | none, '/' :: '*' :: rest => uncommented (some ['*', '/']) rest
  | none, c :: rest => c :: uncommented none rest
  | some _, '*' :: '/' :: rest => uncommented none rest
  | some inside, c :: rest => uncommented (some (c :: inside)) rest

theorem withoutCommentsFrom_eq (done : List Char) (inside : Option (List Char)) (cs : List Char) :
    withoutCommentsFrom done inside cs = done.reverse ++ uncommented inside cs := by
  fun_induction withoutCommentsFrom done inside cs with
  | case1 done => simp [uncommented]
  | case2 done inside => simp [uncommented]
  | case3 done rest ih => rw [ih, uncommented]
  | case4 done c rest hopen ih =>
    rw [ih, uncommented, List.reverse_cons, List.append_assoc]
    · rfl
    · exact hopen
  | case5 done inside rest ih => rw [ih, uncommented]
  | case6 done inside c rest hclose ih =>
    rw [ih, uncommented]
    exact hclose

theorem withoutComments_eq (cs : List Char) : withoutComments cs = uncommented none cs :=
  withoutCommentsFrom_eq [] none cs

/-- No comment begins in the text. -/
def CommentFree (cs : List Char) : Prop := ¬ ['/', '*'] <:+: cs

instance (cs : List Char) : Decidable (CommentFree cs) :=
  inferInstanceAs (Decidable (¬ ['/', '*'] <:+: cs))

theorem CommentFree.tail {c : Char} {cs : List Char} (h : CommentFree (c :: cs)) :
    CommentFree cs :=
  fun hsub => h (hsub.trans (List.suffix_cons c cs).isInfix)

theorem uncommented_cons {c : Char} {rest : List Char}
    (h : ¬ (c = '/' ∧ rest.head? = some '*')) :
    uncommented none (c :: rest) = c :: uncommented none rest := by
  rw [uncommented]
  rintro tail rfl rfl
  exact h ⟨rfl, rfl⟩

/-- A text in which no comment begins is kept, if none begins at its very end. -/
theorem uncommented_append {cs : List Char} (h : CommentFree cs) {rest : List Char}
    (hrest : rest.head? ≠ some '*') :
    uncommented none (cs ++ rest) = cs ++ uncommented none rest := by
  induction cs with
  | nil => rfl
  | cons c cs ih =>
    rw [List.cons_append, uncommented_cons, ih h.tail, List.cons_append]
    rintro ⟨rfl, hhead⟩
    cases cs with
    | nil => exact hrest hhead
    | cons d cs =>
      obtain rfl : d = '*' := Option.some.inj hhead
      exact h ⟨[], cs, rfl⟩

end PageBlocks.Style
