import PageBlocks.Proofs.Style.Taken

/-!
What a rule is like that has been read. Its parts are trimmed, none of its selectors is empty, and what
stands before its block has no brace outside strings and leaves no string open. Only a rule that begins
with an at sign has commas in a selector.
-/
namespace PageBlocks.Style

/-! ### Selectors -/

theorem notMem_of_mem_splitOn {sep : Char} {cs piece : List Char} (h : piece ∈ cs.splitOn sep) :
    sep ∉ piece := by
  induction cs generalizing piece with
  | nil =>
    rw [List.splitOn_nil, List.mem_singleton] at h
    simp [h]
  | cons c cs ih =>
    rw [List.splitOn_cons_eq_if_modifyHead] at h
    split at h
    · rcases List.mem_cons.mp h with rfl | h
      · simp
      · exact ih h
    · rename_i hne
      obtain ⟨first, more, hsplit⟩ := List.exists_cons_of_ne_nil (List.splitOn_ne_nil sep cs)
      rw [hsplit, List.modifyHead_cons] at h
      have hc : sep ≠ c := by
        rintro rfl
        simp at hne
      rcases List.mem_cons.mp h with rfl | h
      · rw [List.mem_cons, not_or]
        exact ⟨hc, ih (by rw [hsplit]; exact List.mem_cons_self)⟩
      · exact ih (by rw [hsplit]; exact List.mem_cons_of_mem _ h)

theorem mem_of_mem_trimChars {c : Char} {cs : List Char} (h : c ∈ Text.trimChars cs) : c ∈ cs :=
  (List.dropWhile_suffix _).subset ((Text.trimEndChars_prefix _).subset h)

theorem trim_ofList_trimChars (cs : List Char) :
    Text.trim (String.ofList (Text.trimChars cs)) = String.ofList (Text.trimChars cs) := by
  rw [Text.trim, String.toList_ofList, Text.trimChars_trimChars]

theorem trim_of_mem_selectorsOf {cs : List Char} {s : String}
    (h : s ∈ selectorsOf (Text.trimChars cs)) : Text.trim s = s := by
  by_cases hat : (Text.trimChars cs).head? = some '@'
  · rw [selectorsOf_at hat, List.mem_singleton] at h
    rw [h, trim_ofList_trimChars]
  · rw [selectorsOf_of_head hat] at h
    obtain ⟨part, hpart, rfl⟩ := List.mem_map.mp h
    obtain ⟨whole, -, rfl⟩ := List.mem_map.mp (List.mem_filter.mp hpart).1
    exact trim_ofList_trimChars whole

theorem ne_empty_of_mem_selectorsOf {cs : List Char} {s : String} (h : s ∈ selectorsOf cs) :
    s ≠ "" := by
  rintro rfl
  by_cases hat : cs.head? = some '@'
  · rw [selectorsOf_at hat, List.mem_singleton, eq_comm, String.ofList_eq_empty_iff] at h
    rw [h] at hat
    cases hat
  · rw [selectorsOf_of_head hat] at h
    obtain ⟨part, hpart, hempty⟩ := List.mem_map.mp h
    have hne := (List.mem_filter.mp hpart).2
    rw [String.ofList_eq_empty_iff] at hempty
    simp [hempty] at hne

theorem comma_notMem_of_mem_selectorsOf {cs : List Char} {s : String} (h : s ∈ selectorsOf cs)
    (hat : cs.head? ≠ some '@') : ',' ∉ s.toList := by
  rw [selectorsOf_of_head hat] at h
  obtain ⟨part, hpart, rfl⟩ := List.mem_map.mp h
  obtain ⟨whole, hwhole, rfl⟩ := List.mem_map.mp (List.mem_filter.mp hpart).1
  intro hcomma
  rw [String.toList_ofList] at hcomma
  exact notMem_of_mem_splitOn hwhole (mem_of_mem_trimChars hcomma)

/-! ### Rules that are taken off a text -/

/-- What has been read as a rule. -/
structure Rule.AsRead (r : Rule) : Prop where
  selectors_ne : r.selectors ≠ []
  selector_ne : ∀ s ∈ r.selectors, s ≠ ""
  trimmed : ∀ s ∈ r.declarations :: r.selectors, Text.trim s = s
  no_brace : firstOutside '\x7b' r.prelude.toList = none
  no_string : (Quoting.plain.run r.prelude.toList).quote = none
  comma_free : r.isAtRule = false → ∀ s ∈ r.selectors, ',' ∉ s.toList
  statement : r.isStatement = true →
    r.isAtRule = true ∧ r.declarations = "" ∧ firstOutside ';' r.prelude.toList = none

theorem trimChars_front_of_head {cs : List Char} (h : ∀ c ∈ cs.head?, Text.isBlank c = false) :
    Text.trimChars cs <+: cs := by
  rw [Text.trimChars, Text.trimStartChars_eq_self h]
  exact Text.trimEndChars_prefix cs

theorem head?_trimChars {cs : List Char} (h : ∀ c ∈ cs.head?, Text.isBlank c = false) :
    (Text.trimChars cs).head? = cs.head? := by
  cases cs with
  | nil => rfl
  | cons c cs =>
    have hne : Text.trimChars (c :: cs) ≠ [] := by
      rw [ne_eq, Text.trimChars_eq_nil_iff]
      intro hall
      have hblank := hall c List.mem_cons_self
      rw [h c rfl] at hblank
      cases hblank
    obtain ⟨rest, hrest⟩ := trimChars_front_of_head h
    conv_rhs => rw [← hrest, List.head?_append_of_ne_nil _ hne]

/-- The joined selectors of what stands before a block have no brace and no open string either. -/
theorem lacks_prelude_of_selectorsOf {front : List Char} {r : Rule}
    (hselectors : r.selectors = selectorsOf (Text.trimChars front))
    (hbrace : Lacks '\x7b' .plain front) (hrun : Quoting.plain.run front = .plain) :
    firstOutside '\x7b' r.prelude.toList = none ∧
      (Quoting.plain.run r.prelude.toList).quote = none := by
  have htrim := hbrace.trimChars Quoting.sound_plain rfl
  have hquote : (Quoting.plain.run (Text.trimChars front)).quote = none := by
    rw [Quoting.quote_run_trimChars Quoting.sound_plain rfl, hrun]
    rfl
  rw [firstOutside_eq_none_iff, prelude_toList, hselectors]
  by_cases hat : (Text.trimChars front).head? = some '@'
  · rw [selectorsOf_at hat, List.map_singleton, List.intercalate_singleton, String.toList_ofList]
    exact ⟨htrim, hquote⟩
  · rw [selectorsOf_of_head hat, List.map_map, show String.toList ∘ String.ofList = id from
      funext fun _ => String.toList_ofList, List.map_id]
    have hjoin : [','].intercalate ((Text.trimChars front).splitOn ',') = Text.trimChars front :=
      List.intercalate_splitOn ','
    rw [← hjoin] at htrim hquote
    have hparts := lacks_intercalate_trimmedParts Quoting.sound_plain rfl (by decide) (by decide) htrim
    exact ⟨hparts.1, hparts.2.trans hquote⟩

theorem asRead_of_selectorsOf {front : List Char} {r : Rule}
    (hhead : ∀ c ∈ front.head?, Text.isBlank c = false)
    (hselectors : r.selectors = selectorsOf (Text.trimChars front)) (hne : r.selectors ≠ [])
    (hdeclarations : Text.trim r.declarations = r.declarations)
    (hbrace : Lacks '\x7b' .plain front) (hrun : Quoting.plain.run front = .plain)
    (hstatement : r.isStatement = true →
      front.head? = some '@' ∧ r.declarations = "" ∧ Lacks ';' .plain front) : r.AsRead := by
  have hat : (Text.trimChars front).head? = some '@' → r.isAtRule = true := by
    intro hat
    simp [Rule.isAtRule, hselectors, selectorsOf_at hat, hat]
  obtain ⟨hno, hclosed⟩ := lacks_prelude_of_selectorsOf hselectors hbrace hrun
  refine ⟨hne, ?selector_ne, ?trimmed, hno, hclosed, ?comma_free, ?statement⟩
  case selector_ne =>
    intro s hs
    rw [hselectors] at hs
    exact ne_empty_of_mem_selectorsOf hs
  case trimmed =>
    intro s hs
    rcases List.mem_cons.mp hs with rfl | hs
    · exact hdeclarations
    · rw [hselectors] at hs
      exact trim_of_mem_selectorsOf hs
  case comma_free =>
    intro hplain s hs
    rw [hselectors] at hs
    refine comma_notMem_of_mem_selectorsOf hs fun h => ?_
    rw [hat h] at hplain
    cases hplain
  case statement =>
    intro h
    obtain ⟨hfront, hempty, hsemicolon⟩ := hstatement h
    have hfirst : (Text.trimChars front).head? = some '@' := (head?_trimChars hhead).trans hfront
    refine ⟨hat hfirst, hempty, ?_⟩
    rw [firstOutside_eq_none_iff, prelude_toList, hselectors, selectorsOf_at hfirst,
      List.map_singleton, List.intercalate_singleton, String.toList_ofList]
    exact hsemicolon.front (trimChars_front_of_head hhead)

theorem asRead_of_taken {text rest : List Char} {r : Rule} (hhead : ∀ c ∈ text.head?, Text.isBlank c = false)
    (h : Taken text (some r) rest) : r.AsRead := by
  have hfront {front behind : List Char} (hsplit : text = front ++ behind) :
      ∀ c ∈ front.head?, Text.isBlank c = false := by
    intro c hc
    refine hhead c ?_
    rw [hsplit, List.head?_append, hc]
    rfl
  have hblock {front behind body : List Char} (hsplit : text = front ++ behind) (hplain : EndsPlain front)
      (hr : some r = rule? (selectorsOf (Text.trimChars front)) (Text.trimChars body)) : r.AsRead := by
    unfold rule? at hr
    split at hr
    · cases hr
    · rename_i hne
      obtain rfl := Option.some.inj hr
      exact asRead_of_selectorsOf (hfront hsplit) rfl (by simpa using hne) (trim_ofList_trimChars body)
        hplain.no_brace hplain.closed nofun
  generalize hrule : some r = rule at h
  cases h with
  | statement hsplit hplain hat hend =>
    obtain rfl := Option.some.inj hrule
    have hfirst := (head?_trimChars (hfront hsplit)).trans hat
    exact asRead_of_selectorsOf (hfront hsplit) (selectorsOf_at hfirst).symm (by simp) rfl hplain.no_brace
      hplain.closed fun _ => ⟨hat, rfl, hend⟩
  | block hsplit hplain => exact hblock hsplit hplain hrule
  | openBlock hsplit hplain => exact hblock hsplit hplain hrule

/-- A rule of a text was taken off a text that begins with no blank. -/
theorem exists_taken_of_mem_rulesOf {text : List Char} {r : Rule} (h : r ∈ rulesOf text) :
    ∃ front rest, (∀ c ∈ front.head?, Text.isBlank c = false) ∧ Taken front (some r) rest := by
  fun_induction rulesOf text with
  | case1 => cases h
  | case2 => cases h
  | case3 text c cs hstart rule rest htake ih =>
    rcases List.mem_append.mp h with hrule | hrest
    · rw [Option.mem_toList.mp hrule] at htake
      refine ⟨c :: cs, rest, fun d hd => ?_, taken_of_takeRule htake⟩
      rw [← hstart] at hd
      exact Text.not_isBlank_of_dropWhile text hd
    · exact ih hrest

/-- Every rule of a style sheet is as one that has been read. -/
theorem asRead_of_mem_parse {css : String} {r : Rule} (h : r ∈ parse css) : r.AsRead := by
  obtain ⟨front, rest, hhead, htaken⟩ := exists_taken_of_mem_rulesOf h
  exact asRead_of_taken hhead htaken

end PageBlocks.Style
