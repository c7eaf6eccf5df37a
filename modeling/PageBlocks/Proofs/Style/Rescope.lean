import PageBlocks.Style.Scope
import PageBlocks.Proofs.Style.AsRead

/-!
Scoping what has been scoped. A scoped style sheet is read again as the same rules where no rule leaves
anything open: no backslash stands at the end of a selector list, every brace and string of a block is
closed in it, and no comment has come about. Scoping then finds its token on every selector.

A block without an end is where this goes wrong. It takes the rest of the text, a closing brace is
written behind it, and the next reading takes that brace for a part of the block.
-/
namespace PageBlocks.Style

/-! ### Tokens -/

/-- A character that means nothing to a scan and is no separator, such as those of a post's token. -/
structure IsQuiet (c : Char) : Prop where
  inert : Quoting.Inert c
  not_blank : Text.isBlank c = false
  ne_comma : c ≠ ','
  ne_brace : c ≠ '\x7b'
  ne_at : c ≠ '@'

/-- A token of characters that mean nothing to a scan. -/
def Quiet (token : String) : Prop := token ≠ "" ∧ ∀ c ∈ token.toList, IsQuiet c

theorem isQuiet_of_isAlphanum {c : Char} (h : c.isAlphanum = true) : IsQuiet c := by
  refine ⟨⟨?_, ?_, ?_⟩, Text.isBlank_of_isAlphanum h, ?_, ?_, ?_⟩ <;> rintro rfl <;> revert h <;> decide

theorem quiet_postToken (postId : Nat) : Quiet (postToken postId) := by
  constructor
  · simp [postToken]
  · intro c hc
    rw [postToken, String.toList_append, List.mem_append] at hc
    rcases hc with hc | hc
    · have hchars : "body.postid-".toList.all fun d => d.isAlphanum || d == '.' || d == '-' := by
        decide +kernel
      have hchar := List.all_eq_true.mp hchars c hc
      simp only [Bool.or_eq_true, beq_iff_eq] at hchar
      rcases hchar with (halnum | rfl) | rfl
      · exact isQuiet_of_isAlphanum halnum
      · exact ⟨by decide, by decide, by decide, by decide, by decide⟩
      · exact ⟨by decide, by decide, by decide, by decide, by decide⟩
    · change c ∈ (Nat.repr postId).toList at hc
      rw [Nat.toList_repr] at hc
      have hdigit : c.isDigit = true := Nat.isDigit_of_mem_toDigits (by omega) (by omega) hc
      exact isQuiet_of_isAlphanum (by simp [Char.isAlphanum, hdigit])

variable {token : String} {needle : Char} {q : Quoting}

theorem Quiet.trim (h : Quiet token) : Text.trim token = token := by
  have hends : Text.trimChars token.toList = token.toList := by
    rw [Text.trimChars_eq_self_iff]
    exact ⟨fun c hc => (h.2 c (List.mem_of_mem_head? hc)).not_blank,
      fun c hc => (h.2 c (List.mem_of_getLast? hc)).not_blank⟩
  rw [Text.trim, hends, String.ofList_toList]

/-! ### Scoped selectors -/

theorem isScoped_scopedSelector (token selector : String) :
    isScoped token (scopedSelector token selector) = true := by
  unfold scopedSelector
  split
  · assumption
  · have hprefix : token.toList ++ [' '] <+: (token ++ " " ++ selector).toList := by
      rw [String.toList_append, String.toList_append]
      exact List.prefix_append _ _
    rw [isScoped, List.isPrefixOf_iff_prefix.mpr hprefix, Bool.or_true]

theorem scopedSelector_scopedSelector (token selector : String) :
    scopedSelector token (scopedSelector token selector) = scopedSelector token selector := by
  rw [scopedSelector, if_pos (isScoped_scopedSelector token selector)]

/-- A quiet token before a selector, or none. -/
theorem scopedSelector_cases (token selector : String) :
    scopedSelector token selector = selector ∨
      (scopedSelector token selector).toList = token.toList ++ [' '] ++ selector.toList := by
  unfold scopedSelector
  split
  · exact Or.inl rfl
  · right
    rw [String.toList_append, String.toList_append]
    rfl

/-- A scan goes through a scoped selector as it goes through the selector. -/
theorem scan_scopedSelector (h : Quiet token) (hs : q.Sound) (hq : q.escaped = false)
    (hblank : needle ≠ ' ') (hneedle : needle ∉ token.toList) {selector : String}
    (hselector : Lacks needle q selector.toList) :
    Lacks needle q (scopedSelector token selector).toList ∧
      q.run (scopedSelector token selector).toList = q.run selector.toList := by
  rcases scopedSelector_cases token selector with hsame | hscoped
  · rw [hsame]
    exact ⟨hselector, rfl⟩
  · have hfront : ∀ c ∈ token.toList ++ [' '], Quoting.Inert c := by
      intro c hc
      rcases List.mem_append.mp hc with hc | hc
      · exact (h.2 c hc).inert
      · rw [List.mem_singleton.mp hc]
        decide
    have hnone : needle ∉ token.toList ++ [' '] := by
      simp [hneedle, hblank]
    have hrun := Quoting.run_inert hs hq hfront
    rw [hscoped, lacks_append, Quoting.run_append q (token.toList ++ [' ']), hrun]
    exact ⟨⟨lacks_of_notMem hnone, hselector⟩, rfl⟩

/-- A scan goes through joined selectors that have been scoped as it went through them before. -/
theorem scan_scoped_intercalate (h : Quiet token) (hs : q.Sound) (hq : q.escaped = false)
    (hblank : needle ≠ ' ') (hneedle : needle ∉ token.toList)
    {selectors : List String}
    (hselectors : Lacks needle q (listSep.intercalate (selectors.map String.toList))) :
    Lacks needle q
        (listSep.intercalate ((selectors.map (scopedSelector token)).map String.toList)) ∧
      q.run (listSep.intercalate ((selectors.map (scopedSelector token)).map String.toList)) =
        q.run (listSep.intercalate (selectors.map String.toList)) := by
  induction selectors generalizing q with
  | nil => exact ⟨trivial, rfl⟩
  | cons s rest ih =>
    cases rest with
    | nil =>
      simp only [List.map_cons, List.map_nil, List.intercalate_singleton] at hselectors ⊢
      exact scan_scopedSelector h hs hq hblank hneedle hselectors
    | cons t rest =>
      simp only [List.map_cons, List.intercalate_cons_cons, List.append_assoc] at hselectors ⊢
      obtain ⟨hfirst, hmore⟩ := lacks_append.mp hselectors
      obtain ⟨hsep, hrest⟩ := lacks_append.mp hmore
      obtain ⟨hlacks, hrun⟩ := scan_scopedSelector h hs hq hblank hneedle hfirst
      have hnext := (hs.run s.toList).run listSep
      have hunescaped : ((q.run s.toList).run listSep).escaped = false := by
        rw [Quoting.run_listSep (hs.run _)]
      obtain ⟨hlacks', hrun'⟩ := ih hnext hunescaped hrest
      simp only [lacks_append, Quoting.run_append, hrun]
      exact ⟨⟨hlacks, hsep, hlacks'⟩, hrun'⟩

/-! ### Rules that leave nothing open -/

namespace Rule

variable {r : Rule}

/-- A rule that leaves nothing open where it is written: no backslash at the end of its selectors, no
semicolon before the block of a rule that begins with an at sign, and no brace or string in its block. -/
structure Settled (r : Rule) : Prop where
  no_escape : (Quoting.plain.run r.prelude.toList).escaped = false
  no_semicolon : r.isAtRule = true → firstOutside ';' r.prelude.toList = none
  balanced : Balanced r.declarations.toList

/-- The rule with its selectors as one, if it begins with an at sign. -/
def joined (r : Rule) : Rule := if r.isAtRule then { r with selectors := [r.prelude] } else r

theorem prelude_joined (r : Rule) : r.joined.prelude = r.prelude := by
  unfold joined
  split
  · exact String.intercalate_singleton
  · rfl

theorem toCss_joined (r : Rule) : r.joined.toCss = r.toCss := by
  have hprelude := r.prelude_joined
  unfold toCss
  rw [hprelude]
  unfold joined
  split <;> rfl

theorem joined_of_isAtRule (h : r.isAtRule = true) :
    r.joined = { r with selectors := [r.prelude] } := by
  simp [joined, h]

theorem joined_of_not_isAtRule (h : r.isAtRule = false) : r.joined = r := by
  simp [joined, h]

/-- What stands before a block begins with an at sign exactly if the first selector does. -/
theorem AsRead.head?_prelude_of_isAtRule (h : r.AsRead) (hat : r.isAtRule = true) :
    r.prelude.toList.head? = some '@' := by
  rw [head?_prelude h.selectors_ne h.selector_ne]
  obtain ⟨s, rest, hs⟩ := List.exists_cons_of_ne_nil h.selectors_ne
  simpa [isAtRule, hs] using hat

theorem AsRead.isAtRule_joined (h : r.AsRead) : r.joined.isAtRule = r.isAtRule := by
  unfold joined
  split
  · rename_i hat
    rw [hat]
    simp [isAtRule, h.head?_prelude_of_isAtRule hat]
  · rfl

theorem AsRead.trim_prelude (h : r.AsRead) : Text.trim r.prelude = r.prelude := by
  have htrim : ∀ s ∈ r.selectors.map String.toList, Text.trimChars s = s := by
    intro s hs
    obtain ⟨t, ht, rfl⟩ := List.mem_map.mp hs
    have heq := congrArg String.toList (h.trimmed t (List.mem_cons_of_mem _ ht))
    rwa [Text.trim, String.toList_ofList] at heq
  rw [Text.trim, prelude_toList, trimChars_intercalate (selector_chars_ne h.selector_ne) htrim,
    ← prelude_toList, String.ofList_toList]

/-- A rule that has been read and leaves nothing open can be told from what stands around it. -/
theorem AsRead.legible_joined (h : r.AsRead) (hsettled : r.Settled) : r.joined.Legible := by
  have hrun : Quoting.plain.run r.prelude.toList = .plain :=
    Quoting.mk.injEq _ _ _ _ ▸ ⟨h.no_string, hsettled.no_escape⟩
  by_cases hat : r.isAtRule = true
  · have hhead := h.head?_prelude_of_isAtRule hat
    have hempty : r.prelude ≠ "" := by
      intro hempty
      rw [hempty] at hhead
      cases hhead
    rw [joined_of_isAtRule hat]
    constructor
    · intro s hs
      rcases List.mem_cons.mp hs with rfl | hs
      · exact h.trimmed _ List.mem_cons_self
      · rw [List.mem_singleton.mp hs, h.trim_prelude]
    · by_cases hstatement : r.isStatement = true
      · obtain ⟨-, hnone, hsemicolon⟩ := h.statement hstatement
        right
        exact {
          statement := hstatement
          no_declarations := hnone
          selector := ⟨r.prelude, rfl, hhead, hsemicolon, h.no_brace, hrun⟩ }
      · left
        exact {
          not_statement := by simpa using hstatement
          selectors_ne := by simp
          selector_ne := by simpa using hempty
          no_brace := by
            rw [← joined_of_isAtRule hat, prelude_joined]
            exact h.no_brace
          prelude_closed := by
            rw [← joined_of_isAtRule hat, prelude_joined]
            exact hrun
          shape := Or.inl ⟨r.prelude, rfl, hhead, hsettled.no_semicolon hat⟩
          balanced := hsettled.balanced }
  · have hplain : r.isAtRule = false := by simpa using hat
    rw [joined_of_not_isAtRule hplain]
    refine ⟨h.trimmed, Or.inl ?_⟩
    exact {
      not_statement := by
        by_contra hstatement
        exact hat (h.statement (by simpa using hstatement)).1
      selectors_ne := h.selectors_ne
      selector_ne := h.selector_ne
      no_brace := h.no_brace
      prelude_closed := hrun
      shape := Or.inr ⟨h.comma_free hplain, hplain⟩
      balanced := hsettled.balanced }

/-! ### Scoped rules -/

theorem scope_of_isAtRule (h : r.isAtRule = true) (token : String) : r.scope token = r := by
  simp [scope, h]

theorem scope_of_not_isAtRule (h : r.isAtRule = false) (htoken : Quiet token) :
    r.scope token = { r with selectors := r.selectors.map (scopedSelector token) } := by
  simp [scope, h, htoken.1]

theorem isAtRule_scope (htoken : Quiet token) (r : Rule) :
    (r.scope token).isAtRule = r.isAtRule := by
  by_cases hat : r.isAtRule = true
  · rw [scope_of_isAtRule hat]
  · have hplain : r.isAtRule = false := by simpa using hat
    rw [scope_of_not_isAtRule hplain htoken, hplain]
    obtain ⟨c, cs, hc⟩ := List.exists_cons_of_ne_nil (fun h => htoken.1 (String.toList_eq_nil_iff.mp h))
    cases hs : r.selectors with
    | nil => simp [isAtRule]
    | cons s rest =>
      rcases scopedSelector_cases token s with hsame | hscoped
      · simpa [isAtRule, hs, hsame] using hplain
      · have hne : c ≠ '@' := (htoken.2 c (by simp [hc])).ne_at
        simp [isAtRule, hscoped, hc, hne]

theorem trim_scopedSelector (htoken : Quiet token) {selector : String} (hne : selector ≠ "")
    (htrim : Text.trim selector = selector) :
    Text.trim (scopedSelector token selector) = scopedSelector token selector := by
  rcases scopedSelector_cases token selector with hsame | hscoped
  · rw [hsame, htrim]
  · have hchars := congrArg String.toList htrim
    rw [Text.trim, String.toList_ofList, Text.trimChars_eq_self_iff] at hchars
    have hends : Text.trimChars (scopedSelector token selector).toList =
        (scopedSelector token selector).toList := by
      rw [Text.trimChars_eq_self_iff, hscoped, List.append_assoc]
      constructor
      · intro c hc
        rw [List.head?_append_of_ne_nil _ (by simpa using htoken.1)] at hc
        exact (htoken.2 c (List.mem_of_mem_head? hc)).not_blank
      · intro c hc
        rw [List.getLast?_append_of_ne_nil _ (by simp),
          List.getLast?_append_of_ne_nil _ (by simpa using hne)] at hc
        exact hchars.2 c hc
    rw [Text.trim, hends, String.ofList_toList]

/-- Up to the block, a scan goes through a scoped rule as it goes through the rule. -/
theorem AsRead.scan_scope (h : r.AsRead) (hplain : r.isAtRule = false) (htoken : Quiet token) :
    firstOutside '\x7b' (r.scope token).prelude.toList = none ∧
      Quoting.plain.run (r.scope token).prelude.toList = Quoting.plain.run r.prelude.toList := by
  have hbrace := firstOutside_eq_none_iff.mp h.no_brace
  rw [prelude_toList] at hbrace
  rw [firstOutside_eq_none_iff, prelude_toList, prelude_toList, scope_of_not_isAtRule hplain htoken]
  exact scan_scoped_intercalate htoken Quoting.sound_plain rfl (by decide)
    (fun hmem => (htoken.2 _ hmem).ne_brace rfl) hbrace

/-- A rule that has been read and scoped could have been read as it is. -/
theorem AsRead.scope (h : r.AsRead) (htoken : Quiet token) : (r.scope token).AsRead := by
  by_cases hat : r.isAtRule = true
  · rwa [scope_of_isAtRule hat]
  · have hplain : r.isAtRule = false := by simpa using hat
    obtain ⟨hbrace, hrun⟩ := h.scan_scope hplain htoken
    have hstring := h.no_string
    rw [← hrun] at hstring
    rw [scope_of_not_isAtRule hplain htoken] at hbrace hstring ⊢
    refine ⟨?selectors_ne, ?selector_ne, ?trimmed, hbrace, hstring, ?comma_free, ?statement⟩
    case selectors_ne => simpa using h.selectors_ne
    case selector_ne =>
      intro s hs
      obtain ⟨selector, hmem, rfl⟩ := List.mem_map.mp hs
      rcases scopedSelector_cases token selector with hsame | hscoped
      · rw [hsame]
        exact h.selector_ne selector hmem
      · intro hempty
        rw [hempty] at hscoped
        simp at hscoped
    case trimmed =>
      intro s hs
      rcases List.mem_cons.mp hs with rfl | hs
      · exact h.trimmed _ List.mem_cons_self
      · obtain ⟨selector, hmem, rfl⟩ := List.mem_map.mp hs
        exact trim_scopedSelector htoken (h.selector_ne selector hmem)
          (h.trimmed selector (List.mem_cons_of_mem _ hmem))
    case comma_free =>
      intro _ s hs
      obtain ⟨selector, hmem, rfl⟩ := List.mem_map.mp hs
      have hcomma := h.comma_free hplain selector hmem
      rcases scopedSelector_cases token selector with hsame | hscoped
      · rwa [hsame]
      · have htokens : ',' ∉ token.toList := fun hmem => (htoken.2 _ hmem).ne_comma rfl
        simp [hscoped, hcomma, htokens]
    case statement =>
      intro hstatement
      rw [(h.statement hstatement).1] at hplain
      cases hplain

theorem Settled.scope (hsettled : r.Settled) (h : r.AsRead) (htoken : Quiet token) :
    (r.scope token).Settled := by
  by_cases hat : r.isAtRule = true
  · rwa [scope_of_isAtRule hat]
  · have hplain : r.isAtRule = false := by simpa using hat
    have hescape := hsettled.no_escape
    rw [← (h.scan_scope hplain htoken).2] at hescape
    refine ⟨hescape, fun hat' => ?_, ?_⟩
    · rw [isAtRule_scope htoken, hplain] at hat'
      cases hat'
    · rw [scope_of_not_isAtRule hplain htoken]
      exact hsettled.balanced

/-- A scoped rule that is read again is not scoped again. -/
theorem AsRead.scope_joined_scope (h : r.AsRead) (htoken : Quiet token) :
    (r.scope token).joined.scope token = (r.scope token).joined := by
  have hread := h.scope htoken
  have hat := isAtRule_scope htoken r
  by_cases hr : r.isAtRule = true
  · apply scope_of_isAtRule
    rw [hread.isAtRule_joined, hat, hr]
  · have hplain : r.isAtRule = false := by simpa using hr
    rw [joined_of_not_isAtRule (hat.trans hplain), scope_of_not_isAtRule (hat.trans hplain) htoken,
      scope_of_not_isAtRule hplain htoken, List.map_map]
    congr 1
    exact List.map_congr_left fun selector _ => scopedSelector_scopedSelector token selector

end Rule

/-! ### Style sheets -/

theorem render_joined (rules : List Rule) : render (rules.map Rule.joined) = render rules := by
  rw [render, render, List.map_map]
  congr 1
  exact List.map_congr_left fun r _ => r.toCss_joined

/-- Rules that could have been read, and leave nothing open, are read as they are, but for the selectors
of those that begin with an at sign. -/
theorem rulesOf_render_of_asRead {rules : List Rule} (hread : ∀ r ∈ rules, r.AsRead)
    (hsettled : ∀ r ∈ rules, r.Settled) :
    rulesOf (render rules).toList = rules.map Rule.joined := by
  have hlegible : ∀ r ∈ rules.map Rule.joined, r.Legible := by
    intro r hr
    obtain ⟨rule, hrule, rfl⟩ := List.mem_map.mp hr
    exact (hread rule hrule).legible_joined (hsettled rule hrule)
  have hrender := rulesOf_render_of_legible hlegible []
  rwa [render_joined, List.append_nil, rulesOf_eq [], Text.trimStartChars, List.dropWhile_nil,
    List.append_nil] at hrender

theorem scopeText_eq (css : String) (htoken : Quiet token) :
    scopeText css token = render ((parse css).map (Rule.scope token)) := by
  simp only [scopeText, ScopedSheet.ofRules, ScopedSheet.toCss, htoken.trim]

/-- Scoping a style sheet for a post again changes nothing, unless a rule of it leaves something open
or a comment has come about. -/
theorem scopeText_scopeText (css : String) (postId : Nat)
    (hsettled : ∀ r ∈ parse css, r.Settled)
    (hcomments : withoutComments (scopeText css (postToken postId)).toList =
      (scopeText css (postToken postId)).toList) :
    scopeText (scopeText css (postToken postId)) (postToken postId) =
      scopeText css (postToken postId) := by
  have htoken := quiet_postToken postId
  generalize postToken postId = token at htoken hcomments ⊢
  have hread : ∀ r ∈ (parse css).map (Rule.scope token), r.AsRead := by
    intro r hr
    obtain ⟨rule, hrule, rfl⟩ := List.mem_map.mp hr
    exact (asRead_of_mem_parse hrule).scope htoken
  have hclosed : ∀ r ∈ (parse css).map (Rule.scope token), r.Settled := by
    intro r hr
    obtain ⟨rule, hrule, rfl⟩ := List.mem_map.mp hr
    exact (hsettled rule hrule).scope (asRead_of_mem_parse hrule) htoken
  have hagain : parse (scopeText css token) =
      ((parse css).map (Rule.scope token)).map Rule.joined := by
    rw [parse, hcomments, scopeText_eq css htoken, rulesOf_render_of_asRead hread hclosed]
  have hsame : (((parse css).map (Rule.scope token)).map Rule.joined).map (Rule.scope token) =
      ((parse css).map (Rule.scope token)).map Rule.joined := by
    rw [List.map_map, List.map_map, List.map_map]
    exact List.map_congr_left fun rule hrule =>
      (asRead_of_mem_parse hrule).scope_joined_scope htoken
  calc scopeText (scopeText css token) token
      = render ((parse (scopeText css token)).map (Rule.scope token)) := scopeText_eq _ htoken
    _ = render (((parse css).map (Rule.scope token)).map Rule.joined) := by rw [hagain, hsame]
    _ = render ((parse css).map (Rule.scope token)) := render_joined _
    _ = scopeText css token := (scopeText_eq css htoken).symm

/-- An import, a comment, a comma and a brace in strings, an escaped quotation mark, a block of blocks,
and a rest that has no block. -/
def mixedSheet : String :=
  "@import url(\"a;b\"); /* c */ .a, b[x=\",\"] > c\x7bcontent:\"\\\"\x7d\"\x7d" ++
    "\n@media print, screen\x7b.a\x7bcolor:red\x7d\x7d .b"

theorem scopeText_scopeText_mixedSheet :
    scopeText (scopeText mixedSheet (postToken 5)) (postToken 5) =
      scopeText mixedSheet (postToken 5) := by
  apply scopeText_scopeText
  · have hrules : parse mixedSheet =
        [⟨["@import url(\"a;b\")"], "", true⟩,
          ⟨[".a", "b[x=\"", "\"] > c"], "content:\"\\\"\x7d\"", false⟩,
          ⟨["@media print, screen"], ".a\x7bcolor:red\x7d", false⟩] := by decide +kernel
    rw [hrules]
    intro r hr
    simp only [List.mem_cons, List.not_mem_nil, or_false] at hr
    rcases hr with rfl | rfl | rfl
    · exact ⟨by decide +kernel, by decide +kernel, by decide +kernel⟩
    · exact ⟨by decide +kernel, by decide +kernel, by decide +kernel⟩
    · exact ⟨by decide +kernel, by decide +kernel, by decide +kernel⟩
  · decide +kernel

/-- A block without an end, as a sheet has it that was cut off. -/
def cutSheet : String := "@media print\x7b.a\x7bcolor:red"

/-- Each time the cut sheet is read, the brace that was written behind its block the time before is
taken for a part of the block, and another one is written. -/
theorem scopeText_cutSheet_grows :
    scopeText (scopeText cutSheet (postToken 5)) (postToken 5) ≠ scopeText cutSheet (postToken 5) := by
  have hfirst : scopeText cutSheet (postToken 5) = cutSheet ++ "\x7d" := by decide +kernel
  have hsecond : scopeText (cutSheet ++ "\x7d") (postToken 5) = cutSheet ++ "\x7d\x7d" := by
    decide +kernel
  rw [hfirst, hsecond]
  decide

end PageBlocks.Style
