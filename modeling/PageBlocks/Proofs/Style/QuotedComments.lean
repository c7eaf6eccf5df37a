import PageBlocks.Proofs.Style.Subtexts

/-!
Comments and strings. Comments are removed wherever they stand, and a string may have the marks of a
comment in it. If no whole comment begins inside a string, removing all comments is the same as removing
those that begin outside strings. If one does, the string is changed, and a rule with such a string in it
does not come back as it was written.
-/
namespace PageBlocks.Style

/-! ### Whole comments -/

/-- What stands behind the first end of a comment. -/
def behindEnd? : List Char → Option (List Char)
  | [] => none
  | '*' :: '/' :: rest => some rest
  | _ :: rest => behindEnd? rest

/-- What stands behind the comment with which a text begins, if it begins with a whole one. -/
def behindComment? : List Char → Option (List Char)
  | '/' :: '*' :: rest => behindEnd? rest
  | _ => none

theorem suffix_of_behindEnd? {cs rest : List Char} (h : behindEnd? cs = some rest) :
    ∃ inside, cs = inside ++ ['*', '/'] ++ rest := by
  fun_induction behindEnd? cs with
  | case1 => cases h
  | case2 behind =>
    obtain rfl := Option.some.inj h
    exact ⟨[], rfl⟩
  | case3 c cs _ ih =>
    obtain ⟨inside, rfl⟩ := ih h
    exact ⟨c :: inside, rfl⟩

/-- A whole comment is an opening mark, what stands in it, and a closing mark. -/
theorem eq_of_behindComment? {cs rest : List Char} (h : behindComment? cs = some rest) :
    ∃ inside, cs = ['/', '*'] ++ inside ++ ['*', '/'] ++ rest := by
  unfold behindComment? at h
  split at h
  · obtain ⟨inside, rfl⟩ := suffix_of_behindEnd? h
    exact ⟨inside, rfl⟩
  · cases h

theorem length_behindComment? {cs rest : List Char} (h : behindComment? cs = some rest) :
    rest.length < cs.length := by
  obtain ⟨inside, rfl⟩ := eq_of_behindComment? h
  simp only [List.length_append, List.length_cons]
  omega

/-- The rest of a comment is removed if it has an end, and stays with its beginning otherwise. -/
theorem uncommented_inside (inside cs : List Char) :
    uncommented (some inside) cs =
      match behindEnd? cs with
      | some rest => uncommented none rest
      | none => inside.reverse ++ cs := by
  fun_induction behindEnd? cs generalizing inside with
  | case1 => simp [uncommented]
  | case2 rest => rw [uncommented]
  | case3 c cs hclose ih =>
    rw [uncommented, ih]
    · cases behindEnd? cs with
      | none => simp
      | some rest => rfl
    · exact hclose

theorem behindEnd?_tail {c : Char} {cs : List Char} (h : behindEnd? (c :: cs) = none) :
    behindEnd? cs = none := by
  unfold behindEnd? at h
  split at h
  · rename_i heq
    cases heq
  · cases h
  · rename_i heq
    obtain ⟨-, rfl⟩ := List.cons.inj heq
    exact h

/-- Where no comment ends nothing is removed. -/
theorem uncommented_of_behindEnd?_none {cs : List Char} (h : behindEnd? cs = none) :
    uncommented none cs = cs := by
  induction cs with
  | nil => rfl
  | cons c cs ih =>
    by_cases hopen : c = '/' ∧ cs.head? = some '*'
    · obtain ⟨rfl, hhead⟩ := hopen
      obtain ⟨rest, rfl⟩ := List.head?_eq_some_iff.mp hhead
      rw [uncommented, uncommented_inside, behindEnd?_tail (behindEnd?_tail h)]
      rfl
    · rw [uncommented_cons hopen, ih (behindEnd?_tail h)]

/-- A whole comment at the beginning is removed. -/
theorem uncommented_of_behindComment? {cs behind : List Char} (h : behindComment? cs = some behind) :
    uncommented none cs = uncommented none behind := by
  unfold behindComment? at h
  split at h
  · rw [uncommented, uncommented_inside, h]
  · cases h

/-- A character with which no whole comment begins is kept. -/
theorem uncommented_cons_of_behindComment? {c : Char} {cs : List Char}
    (h : behindComment? (c :: cs) = none) :
    uncommented none (c :: cs) = c :: uncommented none cs := by
  by_cases hopen : c = '/' ∧ cs.head? = some '*'
  · obtain ⟨rfl, hhead⟩ := hopen
    obtain ⟨rest, rfl⟩ := List.head?_eq_some_iff.mp hhead
    -- the star alone begins no comment, so it is kept as well
    have hend : behindEnd? rest = none := h
    rw [uncommented, uncommented_inside, hend, uncommented_cons (by simp),
      uncommented_of_behindEnd?_none hend]
    rfl
  · exact uncommented_cons hopen

/-! ### Comments in strings -/

/-- A text without the comments that begin outside strings. What stands in a comment opens and closes no
string. -/
def withoutOuterComments (q : Quoting) (cs : List Char) : List Char :=
  match cs with
  | [] => []
  | c :: rest =>
    match _hcomment : behindComment? (c :: rest) with
    | some behind =>
      if q.quote = none then withoutOuterComments q behind
      else c :: withoutOuterComments (q.step c) rest
    | none => c :: withoutOuterComments (q.step c) rest
termination_by cs.length
decreasing_by
  · exact length_behindComment? _hcomment
  · exact Nat.lt_succ_self _
  · exact Nat.lt_succ_self _

/-- Whether a whole comment begins inside a string. -/
def quotesComment (q : Quoting) (cs : List Char) : Bool :=
  match cs with
  | [] => false
  | c :: rest =>
    match _hcomment : behindComment? (c :: rest) with
    | some behind => q.quote.isSome || quotesComment q behind
    | none => quotesComment (q.step c) rest
termination_by cs.length
decreasing_by
  · exact length_behindComment? _hcomment
  · exact Nat.lt_succ_self _

/-- A style sheet without the comments that begin outside strings. -/
def outerText (css : String) : String := String.ofList (withoutOuterComments .plain css.toList)

/-- If no string has a comment in it, every comment begins outside strings. -/
theorem uncommented_eq_withoutOuterComments {q : Quoting} {cs : List Char}
    (h : quotesComment q cs = false) : uncommented none cs = withoutOuterComments q cs := by
  fun_induction quotesComment q cs with
  | case1 q => rw [uncommented, withoutOuterComments]
  | case2 q c rest behind hcomment ih =>
    obtain ⟨hquote, hbehind⟩ := Bool.or_eq_false_iff.mp h
    rw [uncommented_of_behindComment? hcomment, ih hbehind, withoutOuterComments]
    split
    · rename_i found hfound
      obtain rfl := Option.some.inj (hcomment.symm.trans hfound)
      rw [if_pos (Option.not_isSome_iff_eq_none.mp (by simp [hquote]))]
    · rename_i hnone
      cases hcomment.symm.trans hnone
  | case3 q c rest hcomment ih =>
    rw [uncommented_cons_of_behindComment? hcomment, ih h, withoutOuterComments]
    split
    · rename_i found hfound
      cases hcomment.symm.trans hfound
    · rfl

theorem uncommented_sublist_append (inside : Option (List Char)) (cs : List Char) :
    (uncommented inside cs).Sublist ((inside.getD []).reverse ++ cs) := by
  fun_induction uncommented inside cs with
  | case1 => exact List.Sublist.refl _
  | case2 inside => simp
  | case3 rest ih => exact ih
  | case4 c rest hopen ih => exact ih.cons_cons c
  | case5 inside rest ih =>
    exact ih.trans ((List.suffix_append ['*', '/'] rest).sublist.trans (List.sublist_append_right _ _))
  | case6 inside c rest hclose ih => simpa using ih

theorem uncommented_sublist (cs : List Char) : (uncommented none cs).Sublist cs :=
  uncommented_sublist_append none cs

/-- If a string has a comment in it, the stars of its marks are lost. -/
theorem count_uncommented_lt {q : Quoting} {cs : List Char} (h : quotesComment q cs = true) :
    (uncommented none cs).count '*' < cs.count '*' := by
  fun_induction quotesComment q cs with
  | case1 => cases h
  | case2 q c rest behind hcomment ih =>
    have hle := (uncommented_sublist behind).count_le '*'
    obtain ⟨inside, hsplit⟩ := eq_of_behindComment? hcomment
    rw [uncommented_of_behindComment? hcomment, hsplit]
    simp only [List.count_append]
    have hopen : ['/', '*'].count '*' = 1 := by decide
    omega
  | case3 q c rest hcomment ih =>
    rw [uncommented_cons_of_behindComment? hcomment, List.count_cons, List.count_cons]
    exact Nat.add_lt_add_right (ih h) _

/-! ### Style sheets with comments in strings -/

theorem count_intercalate {c : Char} {sep : List Char} (hsep : c ∉ sep) (parts : List (List Char)) :
    (sep.intercalate parts).count c = parts.flatten.count c := by
  induction parts with
  | nil => rfl
  | cons part parts ih =>
    cases parts with
    | nil => simp
    | cons next parts =>
      rw [List.intercalate_cons_cons, List.count_append, List.count_append, ih,
        List.count_eq_zero.mpr hsep, Nat.add_zero, ← List.count_append, ← List.flatten_cons]

/-- A rule is written with no star that is not in one of its parts. -/
theorem count_toCss_le (r : Rule) : r.toCss.toList.count '*' ≤ r.chars.count '*' := by
  have hprelude : r.prelude.toList.count '*' = (r.selectors.flatMap String.toList).count '*' := by
    rw [prelude_toList, count_intercalate (by decide), List.flatMap_def]
  rw [Rule.chars, List.count_append]
  cases hstatement : r.isStatement with
  | true =>
    rw [Rule.toCss_statement hstatement, List.count_append, hprelude]
    exact Nat.add_le_add_left (Nat.zero_le _) _
  | false =>
    rw [Rule.toCss_block hstatement, List.count_append, hprelude]
    simp

theorem count_render_le (rules : List Rule) :
    (render rules).toList.count '*' ≤ (rules.flatMap Rule.chars).count '*' := by
  rw [render, String.toList_intercalate, count_intercalate (by decide)]
  induction rules with
  | nil => exact Nat.zero_le _
  | cons r rules ih =>
    rw [List.map_cons, List.map_cons, List.flatten_cons, List.count_append, List.flatMap_cons,
      List.count_append]
    exact Nat.add_le_add (count_toCss_le r) ih

/-- If no string has a whole comment in it, reading a style sheet is reading the text without the comments
outside strings, and whoever reads that text as a style sheet reads the same unless what was around
comments makes new ones. And a sheet of written rules with comments in strings only is read as these rules
exactly if there are none. -/
theorem parse_outerText (css : String) :
    (quotesComment .plain css.toList = false →
      parse css = rulesOf (outerText css).toList ∧
        (withoutComments (outerText css).toList = (outerText css).toList →
          parse css = parse (outerText css))) ∧
    ∀ rules : List Rule, (∀ r ∈ rules, r.Legible) → css = render rules → outerText css = css →
      rulesOf (outerText css).toList = rules ∧
        (parse css = rules ↔ quotesComment .plain css.toList = false) := by
  constructor
  · intro hquotes
    have hparse : parse css = rulesOf (outerText css).toList := by
      rw [parse, withoutComments_eq, uncommented_eq_withoutOuterComments hquotes, outerText,
        String.toList_ofList]
    refine ⟨hparse, fun hsame => ?_⟩
    rw [hparse, parse, hsame]
  · intro rules hlegible hcss houter
    have hrules : rulesOf css.toList = rules := by
      have hread := rulesOf_render_of_legible hlegible []
      rwa [← hcss, List.append_nil, rulesOf_eq [], Text.trimStartChars, List.dropWhile_nil,
        List.append_nil] at hread
    rw [houter]
    refine ⟨hrules, fun hparse => ?_, fun hquotes => ?_⟩
    · -- the rules would have more stars than the text that they are read from
      by_contra hquotes
      have hlt := count_uncommented_lt (Bool.of_not_eq_false hquotes)
      have hle := (chars_rulesOf_sublist (withoutComments css.toList)).count_le '*'
      change rulesOf (withoutComments css.toList) = rules at hparse
      rw [hparse, withoutComments_eq] at hle
      have hwritten := count_render_le rules
      rw [← hcss] at hwritten
      omega
    · have hkept : uncommented none css.toList = css.toList := by
        conv_rhs => rw [← houter]
        rw [uncommented_eq_withoutOuterComments hquotes, outerText, String.toList_ofList]
      rw [parse, withoutComments_eq, hkept, hrules]

/-- Strings with one mark of a comment each, in an order in which they make no comment. -/
def markedRules : List Rule :=
  [⟨[".a"], "content:\"x */\"", false⟩, ⟨[".b"], "content:\"/* y\"", false⟩]

/-- The same rules between comments with quotation marks in them. -/
def markedSheet : String :=
  "/* don't */.a\x7bcontent:\"x */\"\x7d\n/* \" */.b\x7bcontent:\"/* y\"\x7d"

theorem parse_markedSheet :
    parse markedSheet = parse (outerText markedSheet) ∧ outerText markedSheet = render markedRules ∧
      parse (render markedRules) = markedRules := by
  have hlegible : ∀ r ∈ markedRules, r.Legible := by
    intro r hr
    simp only [markedRules, List.mem_cons, List.not_mem_nil, or_false] at hr
    obtain rfl | rfl := hr
    all_goals exact {
      trimmed := by decide +kernel
      kind := Or.inl {
        not_statement := rfl
        selectors_ne := by decide +kernel
        selector_ne := by decide +kernel
        no_brace := by decide +kernel
        prelude_closed := by decide +kernel
        shape := Or.inr (by decide +kernel)
        balanced := by decide +kernel } }
  have hsheet := (parse_outerText markedSheet).1 (by decide +kernel)
  have hrules := (parse_outerText (render markedRules)).2 markedRules hlegible rfl (by decide +kernel)
  exact ⟨hsheet.2 (by decide +kernel), by decide +kernel, hrules.2.mpr (by decide +kernel)⟩

/-- A string with the opening mark of a comment, and a comment behind it. -/
def quotedSheet : String := ".a\x7bcontent:\"/*\"\x7d/* c */.b\x7bx:y\x7d"

/-- The end of the string and of its rule go with the comment, and the rule behind it becomes part of the
declarations. -/
theorem parse_quotedSheet :
    parse quotedSheet = [⟨[".a"], "content:\".b\x7bx:y\x7d", false⟩] ∧
      parse (outerText quotedSheet) =
        [⟨[".a"], "content:\"/*\"", false⟩, ⟨[".b"], "x:y", false⟩] ∧
      parse quotedSheet ≠ parse (outerText quotedSheet) := by
  refine ⟨?_, ?_, ?_⟩ <;> decide +kernel

end PageBlocks.Style
