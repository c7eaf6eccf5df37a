import PageBlocks.Proofs.Style.Take

/-!
Rules that are written and read again. A rule is clean if what is written for it shows where its parts
end. Clean rules are read back as they were, and the text behind them is read as if they did not stand
before it; in particular the search for a block that runs past a statement into later rules does no harm.
-/
namespace PageBlocks.Style

/-- Between its selectors and its braces a clean block can be told from a statement. -/
structure Rule.CleanBlock (r : Rule) : Prop where
  not_statement : r.isStatement = false
  selectors_ne : r.selectors ≠ []
  selector_ne : ∀ s ∈ r.selectors, s ≠ ""
  no_brace : firstOutside '\x7b' r.prelude.toList = none
  prelude_closed : Quoting.plain.run r.prelude.toList = .plain
  shape : (∃ s, r.selectors = [s] ∧ s.toList.head? = some '@' ∧
      firstOutside ';' s.toList = none) ∨
    ((∀ s ∈ r.selectors, ',' ∉ s.toList) ∧ r.isAtRule = false)
  balanced : Balanced r.declarations.toList

/-- A clean statement is a single text that begins with an at sign. -/
structure Rule.CleanStatement (r : Rule) : Prop where
  statement : r.isStatement = true
  no_declarations : r.declarations = ""
  selector : ∃ s, r.selectors = [s] ∧ s.toList.head? = some '@' ∧
    firstOutside ';' s.toList = none ∧ firstOutside '\x7b' s.toList = none ∧
    Quoting.plain.run s.toList = .plain

/-- The parts of a clean rule are trimmed and begin no comment. -/
structure Rule.Clean (r : Rule) : Prop where
  comment_free : ∀ s ∈ r.declarations :: r.selectors, CommentFree s.toList
  trimmed : ∀ s ∈ r.declarations :: r.selectors, Text.trim s = s
  kind : r.CleanBlock ∨ r.CleanStatement

/-- A rule is legible if it would be clean but for comments in it. -/
structure Rule.Legible (r : Rule) : Prop where
  trimmed : ∀ s ∈ r.declarations :: r.selectors, Text.trim s = s
  kind : r.CleanBlock ∨ r.CleanStatement

theorem Rule.Clean.legible {r : Rule} (h : r.Clean) : r.Legible := ⟨h.trimmed, h.kind⟩

/-! ### The text before a block -/

/-- The separator that selectors are joined with. -/
abbrev listSep : List Char := [',', ' ']

theorem prelude_toList (r : Rule) :
    r.prelude.toList = listSep.intercalate (r.selectors.map String.toList) :=
  String.toList_intercalate

/-- Selectors that are trimmed and not empty are trimmed when they are joined. -/
theorem trimChars_intercalate {ss : List (List Char)} (hne : ∀ s ∈ ss, s ≠ [])
    (htrim : ∀ s ∈ ss, Text.trimChars s = s) :
    Text.trimChars (listSep.intercalate ss) = listSep.intercalate ss := by
  rw [Text.trimChars_eq_self_iff]
  induction ss with
  | nil => simp
  | cons s ss ih =>
    have hs := (Text.trimChars_eq_self_iff s).mp (htrim s (by simp))
    cases ss with
    | nil => simpa using hs
    | cons t ss =>
      obtain ⟨-, hlast⟩ := ih (fun u hu => hne u (List.mem_cons_of_mem _ hu))
        (fun u hu => htrim u (List.mem_cons_of_mem _ hu))
      obtain ⟨a, tail, rfl⟩ := List.exists_cons_of_ne_nil (hne s (by simp))
      obtain ⟨b, more, rfl⟩ := List.exists_cons_of_ne_nil (hne t (by simp))
      rw [List.intercalate_cons_cons]
      constructor
      · exact hs.1
      · intro c hc
        apply hlast c
        have hsome : (listSep.intercalate ((b :: more) :: ss)).getLast?.isSome = true := by
          simp
        rw [List.getLast?_append] at hc
        rwa [Option.or_of_isSome hsome] at hc

/-- To split the joined selectors at commas and trim the parts is to get the selectors. -/
theorem split_intercalate {ss : List (List Char)} (hss : ss ≠ []) (hcomma : ∀ s ∈ ss, ',' ∉ s)
    (htrim : ∀ s ∈ ss, Text.trimChars s = s) :
    ((listSep.intercalate ss).splitOn ',').map Text.trimChars = ss := by
  obtain ⟨s, rest, rfl⟩ := List.exists_cons_of_ne_nil hss
  have hjoin : listSep.intercalate (s :: rest) =
      [','].intercalate (s :: rest.map (' ' :: ·)) := by
    clear hss hcomma htrim
    induction rest generalizing s with
    | nil => rfl
    | cons t rest ih =>
      rw [List.intercalate_cons_cons, ih, List.map_cons, List.intercalate_cons_cons,
        List.intercalate_cons_cons_left, List.append_assoc, List.append_assoc]
      rfl
  have hparts : ∀ t ∈ s :: rest.map (' ' :: ·), ',' ∉ t := by
    intro t ht
    rcases List.mem_cons.mp ht with rfl | ht
    · exact hcomma t (by simp)
    · obtain ⟨u, hu, rfl⟩ := List.mem_map.mp ht
      simpa using hcomma u (List.mem_cons_of_mem _ hu)
  rw [hjoin, List.splitOn_intercalate ',' hparts (by simp), List.map_cons, List.map_map,
    htrim s (by simp)]
  congr 1
  conv_rhs => rw [← List.map_id rest]
  apply List.map_congr_left
  intro t ht
  change Text.trimChars (' ' :: t) = t
  rw [Text.trimChars_blank_cons (by decide), htrim t (List.mem_cons_of_mem _ ht)]

theorem selectorsOf_at {cs : List Char} (h : cs.head? = some '@') :
    selectorsOf cs = [String.ofList cs] := by
  cases cs with
  | nil => simp at h
  | cons c cs =>
    obtain rfl := Option.some.inj h
    rfl

theorem selectorsOf_intercalate {ss : List (List Char)} (hss : ss ≠ []) (hne : ∀ s ∈ ss, s ≠ [])
    (hcomma : ∀ s ∈ ss, ',' ∉ s) (htrim : ∀ s ∈ ss, Text.trimChars s = s)
    (hat : (listSep.intercalate ss).head? ≠ some '@') :
    selectorsOf (listSep.intercalate ss) = ss.map String.ofList := by
  unfold selectorsOf
  split
  · rename_i cs heq
    rw [heq] at hat
    exact absurd rfl hat
  · rw [split_intercalate hss hcomma htrim, List.filter_eq_self.mpr]
    intro s hs
    simpa using hne s hs

/-! ### Whole rules -/

namespace Rule

variable {r : Rule}

theorem Legible.declarations_trimmed (h : r.Legible) :
    Text.trimChars r.declarations.toList = r.declarations.toList := by
  have htrim := congrArg String.toList (h.trimmed r.declarations (by simp))
  rwa [Text.trim, String.toList_ofList] at htrim

theorem Legible.selectors_trimmed (h : r.Legible) :
    ∀ s ∈ r.selectors.map String.toList, Text.trimChars s = s := by
  intro s hs
  obtain ⟨t, ht, rfl⟩ := List.mem_map.mp hs
  have htrim := congrArg String.toList (h.trimmed t (List.mem_cons_of_mem _ ht))
  rwa [Text.trim, String.toList_ofList] at htrim

theorem selector_chars_ne (h : ∀ s ∈ r.selectors, s ≠ "") :
    ∀ s ∈ r.selectors.map String.toList, s ≠ [] := by
  intro s hs
  obtain ⟨t, ht, rfl⟩ := List.mem_map.mp hs
  simpa using h t ht

theorem CleanBlock.selector_chars_ne (h : r.CleanBlock) :
    ∀ s ∈ r.selectors.map String.toList, s ≠ [] :=
  Rule.selector_chars_ne h.selector_ne

theorem toCss_block (h : r.isStatement = false) :
    r.toCss.toList = r.prelude.toList ++ '\x7b' :: (r.declarations.toList ++ ['\x7d']) := by
  simp [toCss, h]

theorem toCss_statement (h : r.isStatement = true) : r.toCss.toList = r.prelude.toList ++ [';'] := by
  simp [toCss, h]

theorem CleanBlock.prelude_trimmed (h : r.CleanBlock) (hlegible : r.Legible) :
    Text.trimChars r.prelude.toList = r.prelude.toList := by
  rw [prelude_toList]
  exact trimChars_intercalate h.selector_chars_ne hlegible.selectors_trimmed

/-- What stands before a block begins as the first selector does. -/
theorem head?_prelude (hne : r.selectors ≠ []) (hselector : ∀ s ∈ r.selectors, s ≠ "") :
    r.prelude.toList.head? = r.selectors.head?.bind fun s => s.toList.head? := by
  obtain ⟨s, rest, hs⟩ := List.exists_cons_of_ne_nil hne
  have hchars : s.toList ≠ [] := by simpa using hselector s (by simp [hs])
  obtain ⟨c, tail, hc⟩ := List.exists_cons_of_ne_nil hchars
  rw [prelude_toList, hs, List.map_cons, hc]
  cases rest with
  | nil => simp [hc]
  | cons t rest => simp [hc]

theorem CleanBlock.head?_prelude (h : r.CleanBlock) :
    r.prelude.toList.head? = r.selectors.head?.bind fun s => s.toList.head? :=
  Rule.head?_prelude h.selectors_ne h.selector_ne

theorem CleanBlock.prelude_ne (h : r.CleanBlock) : r.prelude.toList ≠ [] := by
  obtain ⟨s, rest, hs⟩ := List.exists_cons_of_ne_nil h.selectors_ne
  have hne : s.toList ≠ [] := by simpa using h.selector_ne s (by simp [hs])
  obtain ⟨c, tail, hc⟩ := List.exists_cons_of_ne_nil hne
  intro hnil
  have hhead := h.head?_prelude
  simp [hnil, hs, hc] at hhead

/-- Either the block cannot be taken for a statement by its head, or it has no semicolon there. -/
theorem CleanBlock.not_taken_for_statement (h : r.CleanBlock) :
    r.prelude.toList.head? ≠ some '@' ∨ firstOutside ';' r.prelude.toList = none := by
  rcases h.shape with ⟨s, hs, -, hnone⟩ | ⟨-, hat⟩
  · right
    rwa [prelude_toList, hs, List.map_singleton, List.intercalate_singleton]
  · left
    rw [h.head?_prelude]
    obtain ⟨s, rest, hs⟩ := List.exists_cons_of_ne_nil h.selectors_ne
    simpa [isAtRule, hs] using hat

theorem CleanBlock.selectorsOf_prelude (h : r.CleanBlock) (hlegible : r.Legible) :
    selectorsOf r.prelude.toList = r.selectors := by
  rcases h.shape with ⟨s, hs, hat, -⟩ | ⟨hcomma, hat⟩
  · have hprelude : r.prelude.toList = s.toList := by
      rw [prelude_toList, hs, List.map_singleton, List.intercalate_singleton]
    rw [hprelude, selectorsOf_at hat, String.ofList_toList, hs]
  · have hhead : (listSep.intercalate (r.selectors.map String.toList)).head? ≠ some '@' := by
      rw [← prelude_toList, h.head?_prelude]
      obtain ⟨s, rest, hs⟩ := List.exists_cons_of_ne_nil h.selectors_ne
      simpa [isAtRule, hs] using hat
    rw [prelude_toList, selectorsOf_intercalate (by simpa using h.selectors_ne)
      h.selector_chars_ne (by simpa using hcomma) hlegible.selectors_trimmed hhead, List.map_map]
    simp

end Rule

/-- A legible rule is read back, and what is behind it is read by itself. -/
theorem rulesOf_toCss {r : Rule} (h : r.Legible) (rest : List Char) :
    rulesOf (r.toCss.toList ++ rest) = r :: rulesOf rest := by
  obtain ⟨selectors, declarations, isStatement⟩ := r
  rcases h.kind with hblock | hstatement
  · have hhead := ((Text.trimChars_eq_self_iff _).mp (hblock.prelude_trimmed h)).1
    have hne := hblock.prelude_ne
    have htake := takeRule_block hblock.no_brace hblock.prelude_closed
      hblock.not_taken_for_statement hblock.balanced rest
    rw [hblock.prelude_trimmed h, hblock.selectorsOf_prelude h, h.declarations_trimmed] at htake
    rw [Rule.toCss_block hblock.not_statement, List.append_assoc, List.cons_append,
      List.append_assoc, List.singleton_append, rulesOf_of_takeRule (by simp) ?_ htake]
    · obtain rfl : isStatement = false := hblock.not_statement
      have hsel : selectors.isEmpty = false := by simpa using hblock.selectors_ne
      simp [rule?, hsel]
    · intro c hc
      apply hhead c
      obtain ⟨a, tail, ha⟩ := List.exists_cons_of_ne_nil hne
      rw [ha] at hc ⊢
      exact hc
  · obtain ⟨s, hs, hat, hend, hbrace, hrun⟩ := hstatement.selector
    obtain rfl : selectors = [s] := hs
    obtain rfl : isStatement = true := hstatement.statement
    obtain rfl : declarations = "" := hstatement.no_declarations
    have htrim : Text.trimChars s.toList = s.toList := h.selectors_trimmed _ (by simp)
    have htake := takeRule_statement hat hbrace hend hrun rest
    rw [htrim, String.ofList_toList] at htake
    rw [Rule.toCss_statement rfl, prelude_toList, List.map_singleton, List.intercalate_singleton,
      List.append_assoc, List.singleton_append, rulesOf_of_takeRule (by simp) ?_ htake]
    · rfl
    · intro c hc
      apply ((Text.trimChars_eq_self_iff _).mp htrim).1 c
      rw [List.head?_append, hat] at hc
      rwa [hat]

/-! ### Comments between and inside rules -/

theorem uncommented_intercalate {ss : List (List Char)} (h : ∀ s ∈ ss, CommentFree s)
    {rest : List Char} (hrest : rest.head? ≠ some '*') :
    uncommented none (listSep.intercalate ss ++ rest) =
      listSep.intercalate ss ++ uncommented none rest := by
  induction ss with
  | nil => rfl
  | cons s ss ih =>
    cases ss with
    | nil =>
      rw [List.intercalate_singleton]
      exact uncommented_append (h s (by simp)) hrest
    | cons t ss =>
      have htail := ih fun u hu => h u (List.mem_cons_of_mem _ hu)
      simp only [List.intercalate_cons_cons, List.append_assoc, List.cons_append,
        List.nil_append]
      rw [uncommented_append (h s (by simp)) (by simp), uncommented_cons (by simp),
        uncommented_cons (by simp), htail]

/-- No comment begins in a clean rule or at its end, so only the text behind it loses comments. -/
theorem uncommented_toCss {r : Rule} (h : r.Clean) (rest : List Char) :
    uncommented none (r.toCss.toList ++ rest) = r.toCss.toList ++ uncommented none rest := by
  have hselectors : ∀ s ∈ r.selectors.map String.toList, CommentFree s := by
    intro s hs
    obtain ⟨t, ht, rfl⟩ := List.mem_map.mp hs
    exact h.comment_free t (List.mem_cons_of_mem _ ht)
  have hdeclarations := h.comment_free r.declarations (by simp)
  rcases h.kind with hblock | hstatement
  · rw [Rule.toCss_block hblock.not_statement, prelude_toList]
    simp only [List.append_assoc, List.cons_append, List.nil_append]
    rw [uncommented_intercalate hselectors (by simp), uncommented_cons (by simp),
      uncommented_append hdeclarations (by simp), uncommented_cons (by simp)]
  · rw [Rule.toCss_statement hstatement.statement, prelude_toList]
    simp only [List.append_assoc, List.cons_append, List.nil_append]
    rw [uncommented_intercalate hselectors (by simp), uncommented_cons (by simp)]

/-! ### Style sheets -/

theorem render_cons_cons (r s : Rule) (rules : List Rule) :
    (render (r :: s :: rules)).toList = r.toCss.toList ++ '\n' :: (render (s :: rules)).toList := by
  simp only [render, List.map_cons, String.intercalate_cons_cons, String.toList_append,
    List.append_assoc]
  rfl

theorem render_singleton (r : Rule) : render [r] = r.toCss := String.intercalate_singleton

theorem uncommented_render {rules : List Rule} (h : ∀ r ∈ rules, r.Clean) (rest : List Char) :
    uncommented none ((render rules).toList ++ rest) =
      (render rules).toList ++ uncommented none rest := by
  induction rules with
  | nil => rfl
  | cons r rules ih =>
    have hr := h r (by simp)
    cases rules with
    | nil => rw [render_singleton, uncommented_toCss hr]
    | cons s rules =>
      rw [render_cons_cons, List.append_assoc, List.cons_append, uncommented_toCss hr,
        uncommented_cons (by simp), ih fun t ht => h t (List.mem_cons_of_mem _ ht),
        List.append_assoc, List.cons_append]

theorem rulesOf_render_of_legible {rules : List Rule} (h : ∀ r ∈ rules, r.Legible)
    (rest : List Char) : rulesOf ((render rules).toList ++ rest) = rules ++ rulesOf rest := by
  induction rules with
  | nil => rfl
  | cons r rules ih =>
    have hr := h r (by simp)
    cases rules with
    | nil => rw [render_singleton, rulesOf_toCss hr, List.singleton_append]
    | cons s rules =>
      rw [render_cons_cons, List.append_assoc, List.cons_append, rulesOf_toCss hr,
        rulesOf_blank_cons (by decide), ih fun t ht => h t (List.mem_cons_of_mem _ ht)]
      rfl

theorem rulesOf_render {rules : List Rule} (h : ∀ r ∈ rules, r.Clean) (rest : List Char) :
    rulesOf ((render rules).toList ++ rest) = rules ++ rulesOf rest :=
  rulesOf_render_of_legible (fun r hr => (h r hr).legible) rest

/-- Reading undoes writing for clean rules, and goes on with whatever stands behind them. -/
theorem parse_render_append (rules : List Rule) (h : ∀ r ∈ rules, r.Clean) (rest : String) :
    parse (render rules ++ rest) = rules ++ parse rest := by
  rw [parse, String.toList_append, withoutComments_eq, uncommented_render h, rulesOf_render h,
    parse, withoutComments_eq]

/-- A block with a quoted brace, a statement with a quoted semicolon, and a block with blocks inside;
behind them a comment that has no end. -/
theorem parse_render_append_three :
    parse (render [⟨[".a", "b > c"], "content: \"\x7d\"; color: red", false⟩,
        ⟨["@import url(\"a;b.css\")"], "", true⟩,
        ⟨["@media print, screen"], ".x \x7b y: z \x7d", false⟩] ++ " p\x7bm:0\x7d /* q\x7bn:1\x7d") =
      [⟨[".a", "b > c"], "content: \"\x7d\"; color: red", false⟩,
        ⟨["@import url(\"a;b.css\")"], "", true⟩,
        ⟨["@media print, screen"], ".x \x7b y: z \x7d", false⟩] ++
        parse " p\x7bm:0\x7d /* q\x7bn:1\x7d" := by
  apply parse_render_append
  intro r hr
  simp only [List.mem_cons, List.not_mem_nil, or_false] at hr
  rcases hr with rfl | rfl | rfl
  · exact {
      comment_free := by decide +kernel
      trimmed := by decide +kernel
      kind := Or.inl {
        not_statement := rfl
        selectors_ne := by decide +kernel
        selector_ne := by decide +kernel
        no_brace := by decide +kernel
        prelude_closed := by decide +kernel
        shape := Or.inr (by decide +kernel)
        balanced := by decide +kernel } }
  · exact {
      comment_free := by decide +kernel
      trimmed := by decide +kernel
      kind := Or.inr {
        statement := rfl
        no_declarations := rfl
        selector := ⟨_, rfl, by decide +kernel⟩ } }
  · exact {
      comment_free := by decide +kernel
      trimmed := by decide +kernel
      kind := Or.inl {
        not_statement := rfl
        selectors_ne := by decide +kernel
        selector_ne := by decide +kernel
        no_brace := by decide +kernel
        prelude_closed := by decide +kernel
        shape := Or.inl ⟨_, rfl, by decide +kernel⟩
        balanced := by decide +kernel } }

end PageBlocks.Style
