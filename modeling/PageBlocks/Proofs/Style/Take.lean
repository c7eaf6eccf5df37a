import PageBlocks.Style.Parser
import PageBlocks.Proofs.Style.Scan
import PageBlocks.Proofs.Text.Trim

/-!
What the parser takes off a text that begins with a whole rule. A statement ends at its semicolon and a
block at its closing brace, whatever comes behind, and the rules behind are those of the rest.
-/
namespace PageBlocks.Style

theorem rulesOf_eq (text : List Char) :
    rulesOf text =
      match Text.trimStartChars text with
      | [] => []
      | c :: cs =>
        match takeRule (c :: cs) with
        | none => []
        | some (rule, rest) => rule.toList ++ rulesOf rest := by
  rw [rulesOf]
  split
  · rename_i hstart
    rw [hstart]
  · rename_i c cs hstart
    rw [hstart]
    split
    · rename_i htake
      simp only [htake]
    · rename_i rule rest htake
      simp only [htake]

theorem rulesOf_blank_cons {c : Char} (h : Text.isBlank c = true) (text : List Char) :
    rulesOf (c :: text) = rulesOf text := by
  have htrim : Text.trimStartChars (c :: text) = Text.trimStartChars text :=
    List.dropWhile_cons_of_pos h
  rw [rulesOf_eq, rulesOf_eq text, htrim]

/-- The rules of a text are the one that is taken off and those of the rest. -/
theorem rulesOf_of_takeRule {text rest : List Char} {rule : Option Rule} (hne : text ≠ [])
    (hhead : ∀ c ∈ text.head?, Text.isBlank c = false)
    (h : takeRule text = some (rule, rest)) : rulesOf text = rule.toList ++ rulesOf rest := by
  rw [rulesOf_eq, Text.trimStartChars_eq_self hhead]
  cases text with
  | nil => exact absurd rfl hne
  | cons c cs => simp only [h]

/-- A statement ends at the semicolon behind a text that has no semicolon and no brace of its own. -/
theorem takeRule_statement {selector : List Char} (hat : selector.head? = some '@')
    (hbrace : firstOutside '\x7b' selector = none) (hend : firstOutside ';' selector = none)
    (hrun : Quoting.plain.run selector = .plain) (rest : List Char) :
    takeRule (selector ++ ';' :: rest) =
      some (some ⟨[String.ofList (Text.trimChars selector)], "", true⟩, rest) := by
  obtain ⟨tail, rfl⟩ : ∃ tail, selector = '@' :: tail := by
    cases selector with
    | nil => simp at hat
    | cons c tail => exact ⟨tail, by rw [Option.some.inj hat]⟩
  have hstop : statementEnd? ('@' :: tail ++ ';' :: rest)
      (firstOutside '\x7b' ('@' :: tail ++ ';' :: rest)) = some ('@' :: tail).length := by
    have hlt : ('@' :: tail).length < (firstOutside '\x7b' ('@' :: tail ++ ';' :: rest)).getD
        ('@' :: tail ++ ';' :: rest).length := by
      cases hopen : firstOutside '\x7b' ('@' :: tail ++ ';' :: rest) with
      | none => simp
      | some opening => exact length_lt_of_firstOutside hbrace (by decide) hopen
    obtain ⟨k, hk⟩ := Nat.exists_eq_add_of_lt hlt
    change firstOutside ';' (('@' :: tail ++ ';' :: rest).take _) = _
    rw [hk, Nat.add_assoc, List.take_length_add_append, List.take_succ_cons]
    exact firstOutside_append_needle hend hrun _
  rw [takeRule]
  simp only [hstop, List.take_left]
  rw [← List.drop_drop, List.drop_left]
  rfl

/-- A block ends at the brace behind a balanced text. What stands before it may be taken for a
statement only if it begins with an at sign and has a semicolon. -/
theorem takeRule_block {prelude body : List Char}
    (hbrace : firstOutside '\x7b' prelude = none) (hrun : Quoting.plain.run prelude = .plain)
    (hblock : prelude.head? ≠ some '@' ∨ firstOutside ';' prelude = none)
    (hbody : Balanced body) (rest : List Char) :
    takeRule (prelude ++ '\x7b' :: (body ++ '\x7d' :: rest)) =
      some (rule? (selectorsOf (Text.trimChars prelude)) (Text.trimChars body), rest) := by
  have hopen := firstOutside_append_needle hbrace hrun (body ++ '\x7d' :: rest)
  have hclose := closingBrace_append hbody prelude rest
  have hstop : statementEnd? (prelude ++ '\x7b' :: (body ++ '\x7d' :: rest))
      (some prelude.length) = none := by
    unfold statementEnd?
    split
    · rename_i tail htext
      rcases hblock with hhead | hnone
      · cases prelude with
        | nil => simp at htext
        | cons c cs => simp_all
      · rw [Option.getD_some, List.take_left]
        exact hnone
    · rfl
  have hbehind : (prelude ++ '\x7b' :: (body ++ '\x7d' :: rest)).drop (prelude.length + 1) =
      body ++ '\x7d' :: rest := by
    rw [← List.drop_drop, List.drop_left]
    rfl
  have hrest : (prelude ++ '\x7b' :: (body ++ '\x7d' :: rest)).drop
      (prelude.length + 1 + body.length + 1) = rest := by
    rw [← List.drop_drop, ← List.drop_drop, hbehind, List.drop_left]
    rfl
  rw [takeRule]
  simp only [hopen, hstop, hclose, List.take_left, hbehind, hrest, Nat.add_sub_cancel_left]

end PageBlocks.Style
