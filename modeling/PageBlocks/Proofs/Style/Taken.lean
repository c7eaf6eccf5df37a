import PageBlocks.Proofs.Style.Braces

/-!
What is taken off a text. It is a statement with its semicolon, a block with its braces, or a block without
an end and so all of the text. The mark that ends the first part of it is the first one that counts there.
-/
namespace PageBlocks.Style

theorem split_of_getElem? {cs : List Char} {place : Nat} {c : Char} (h : cs[place]? = some c) :
    cs = cs.take place ++ c :: cs.drop (place + 1) := by
  obtain ⟨hlt, hchar⟩ := List.getElem?_eq_some_iff.mp h
  rw [← hchar, ← List.drop_eq_getElem_cons hlt, List.take_append_drop]

/-- A text that stands before a mark which is found: no brace counts in it, and it leaves no string open. -/
structure EndsPlain (front : List Char) : Prop where
  no_brace : Lacks '\x7b' .plain front
  closed : Quoting.plain.run front = .plain

/-- What has been taken off a text, and what is behind it. -/
inductive Taken (text : List Char) : Option Rule → List Char → Prop
  | statement {front rest : List Char} (split : text = front ++ ';' :: rest) (plain : EndsPlain front)
    (at_sign : front.head? = some '@') (no_semicolon : Lacks ';' .plain front) :
    Taken text (some ⟨[String.ofList (Text.trimChars front)], "", true⟩) rest
  | block {front body rest : List Char} (split : text = front ++ '\x7b' :: (body ++ '\x7d' :: rest))
    (plain : EndsPlain front) :
    Taken text (rule? (selectorsOf (Text.trimChars front)) (Text.trimChars body)) rest
  | openBlock {front body : List Char} (split : text = front ++ '\x7b' :: body) (plain : EndsPlain front) :
    Taken text (rule? (selectorsOf (Text.trimChars front)) (Text.trimChars body)) []

variable {text rest : List Char} {rule : Option Rule}

/-- The semicolon of a statement stands outside strings, before the first brace. -/
theorem taken_of_statementEnd? {stop : Nat} (h : statementEnd? text (firstOutside '\x7b' text) = some stop) :
    text = text.take stop ++ ';' :: text.drop (stop + 1) ∧ EndsPlain (text.take stop) ∧
      (text.take stop).head? = some '@' ∧ Lacks ';' .plain (text.take stop) := by
  unfold statementEnd? at h
  split at h
  · rename_i tail
    have hcounts := countsAt_of_firstOutside h
    have hlt := lt_length_of_firstOutside h
    rw [List.length_take] at hlt
    obtain ⟨hend, hrun⟩ := lacks_take_of_firstOutside h
    rw [CountsAt, List.take_take, Nat.min_eq_left (by omega), List.getElem?_take_of_lt (by omega)] at hcounts
    rw [List.take_take, Nat.min_eq_left (by omega)] at hend hrun
    have hpos : stop ≠ 0 := by
      rintro rfl
      cases hcounts.2
    refine ⟨split_of_getElem? hcounts.2, ⟨?_, hrun⟩, by rw [List.head?_take, if_neg hpos]; rfl, hend⟩
    cases hopen : firstOutside '\x7b' ('@' :: tail) with
    | none => exact (firstOutside_eq_none_iff.mp hopen).front (List.take_prefix _ _)
    | some opening =>
      rw [hopen, Option.getD_some] at hlt
      exact (lacks_take_of_firstOutside hopen).1.front (List.take_prefix_take_left (by omega))
  · cases h

theorem taken_of_takeRule (h : takeRule text = some (rule, rest)) : Taken text rule rest := by
  unfold takeRule at h
  simp only at h
  split at h
  · rename_i stop hstop
    obtain ⟨rfl, rfl⟩ := Prod.mk.inj (Option.some.inj h)
    obtain ⟨hsplit, hplain, hat, hend⟩ := taken_of_statementEnd? hstop
    exact .statement hsplit hplain hat hend
  · split at h
    · cases h
    · rename_i opening hopen
      have hfront := split_of_getElem? (countsAt_of_firstOutside hopen).2
      obtain ⟨hbrace, hrun⟩ := lacks_take_of_firstOutside hopen
      split at h
      · rename_i closing hclosing
        obtain ⟨rfl, rfl⟩ := Prod.mk.inj (Option.some.inj h)
        have hcloses := closesAt_of_closingBrace hopen hclosing
        have hle : opening + 1 ≤ closing := hcloses.behind
        have hbody : (text.drop (opening + 1))[closing - (opening + 1)]? = some '\x7d' := by
          rw [List.getElem?_drop, Nat.add_sub_cancel' hle]
          exact hcloses.counts.2
        have hsplit := split_of_getElem? hbody
        rw [List.drop_drop, ← Nat.add_assoc, Nat.add_sub_cancel' hle] at hsplit
        refine .block ?_ ⟨hbrace, hrun⟩
        rw [← hsplit, ← hfront]
      · obtain ⟨rfl, rfl⟩ := Prod.mk.inj (Option.some.inj h)
        exact .openBlock hfront ⟨hbrace, hrun⟩

end PageBlocks.Style
