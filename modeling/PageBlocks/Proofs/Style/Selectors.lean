import PageBlocks.Style.Scope
import PageBlocks.Proofs.Style.AsRead

/-!
Selectors with commas inside brackets and strings. The parser splits what stands before a block at every
comma, whatever stands around it, while its search for the block itself passes over strings. A list of
selectors is therefore read as it was meant exactly if none of them has a comma; any other one is torn,
and the scope token is put into it.
-/
namespace PageBlocks.Style

/-! ### What a selector may look like -/

/-- What stands open in a selector: the quotation mark of a string, and the closing brackets that are
waited for, the innermost first. -/
structure Nesting where
  quote : Option Char
  closers : List Char
  deriving DecidableEq

namespace Nesting

/-- Nothing stands open. -/
def top : Nesting := ⟨none, []⟩

/-- The nesting behind a character, unless it is a brace outside strings, a comma outside all brackets
and strings, or a bracket that closes what was not opened. -/
def step? (n : Nesting) (c : Char) : Option Nesting :=
  match n.quote with
  | some d => some (if c = d then { n with quote := none } else n)
  | none =>
    if c = '"' ∨ c = '\'' then some { n with quote := some c }
    else if c = '(' then some { n with closers := ')' :: n.closers }
    else if c = '[' then some { n with closers := ']' :: n.closers }
    else if c = ')' ∨ c = ']' then
      if n.closers.head? = some c then some { n with closers := n.closers.tail } else none
    else if c = '\x7b' ∨ c = '\x7d' then none
    else if c = ',' ∧ n.closers = [] then none
    else some n

/-- The nesting behind a text. -/
def run? (n : Nesting) (cs : List Char) : Option Nesting := cs.foldlM step? n

variable {n m : Nesting} {c : Char}

/-- A scan sees the strings of a nesting, and no brace outside of them. -/
theorem step_of_step? (h : n.step? c = some m) (hc : c ≠ '\\') :
    ¬ ((⟨n.quote, false⟩ : Quoting) = .plain ∧ c = '\x7b') ∧
      Quoting.step ⟨n.quote, false⟩ c = ⟨m.quote, false⟩ := by
  obtain ⟨quote, closers⟩ := n
  cases quote with
  | some d =>
    obtain rfl := Option.some.inj h
    refine ⟨fun hplain => absurd hplain.1 (by simp [Quoting.plain]), ?_⟩
    by_cases hd : c = d
    · subst hd
      simp [Quoting.step, Quoting.plain, hc]
    · simp [Quoting.step, hc, hd]
  | none =>
    have hopen : c ≠ '\x7b' := by
      rintro rfl
      simp [step?] at h
    refine ⟨fun hplain => hopen hplain.2, ?_⟩
    by_cases hquote : c = '"' ∨ c = '\''
    · simp only [step?, if_pos hquote, Option.some.injEq] at h
      simp [Quoting.step, hc, hquote, ← h]
    · have hsame : m.quote = none := by
        simp only [step?, if_neg hquote] at h
        repeat' split at h
        all_goals cases h
        all_goals rfl
      simp [Quoting.step, hc, hquote, hsame]

theorem run_of_run? {cs : List Char} (h : n.run? cs = some m) (hback : '\\' ∉ cs) :
    Lacks '\x7b' ⟨n.quote, false⟩ cs ∧ Quoting.run ⟨n.quote, false⟩ cs = ⟨m.quote, false⟩ := by
  induction cs generalizing n with
  | nil =>
    obtain rfl := Option.some.inj h
    exact ⟨trivial, rfl⟩
  | cons c cs ih =>
    obtain ⟨mid, hstep, hrest⟩ := Option.bind_eq_some_iff.mp h
    rw [List.mem_cons, not_or] at hback
    obtain ⟨hbrace, hrun⟩ := step_of_step? hstep (Ne.symm hback.1)
    obtain ⟨hlacks, hend⟩ := ih hrest hback.2
    rw [Lacks, hrun]
    refine ⟨⟨hbrace, hlacks⟩, ?_⟩
    rw [← hend, ← hrun]
    rfl

end Nesting

/-- A selector by itself: trimmed, its brackets and strings closed, with commas only inside them, and
without anything that the parser takes for the end of the selectors or for a comment. -/
structure IsSelector (s : String) : Prop where
  ne_empty : s ≠ ""
  trimmed : Text.trim s = s
  nested : Nesting.top.run? s.toList = some .top
  no_comment : CommentFree s.toList
  no_backslash : '\\' ∉ s.toList

/-- The text of a block by itself: trimmed, without braces, strings, backslashes and comments. -/
structure IsBlockText (s : String) : Prop where
  trimmed : Text.trim s = s
  no_comment : CommentFree s.toList
  plain : ∀ c ∈ s.toList, c ≠ '"' ∧ c ≠ '\'' ∧ c ≠ '\\' ∧ c ≠ '\x7b' ∧ c ≠ '\x7d'

-- the text is gone through, never all characters that there are
instance (s : String) : Decidable (IsBlockText s) :=
  decidable_of_iff
    (Text.trim s = s ∧ CommentFree s.toList ∧
      s.toList.all (fun c => c ≠ '"' ∧ c ≠ '\'' ∧ c ≠ '\\' ∧ c ≠ '\x7b' ∧ c ≠ '\x7d') = true)
    ⟨fun h => ⟨h.1, h.2.1, fun c hc => of_decide_eq_true (List.all_eq_true.mp h.2.2 c hc)⟩,
      fun h => ⟨h.trimmed, h.no_comment,
        List.all_eq_true.mpr fun c hc => decide_eq_true (h.plain c hc)⟩⟩

theorem trimChars_of_trim {s : String} (h : Text.trim s = s) :
    Text.trimChars s.toList = s.toList := by
  have hchars := congrArg String.toList h
  rwa [Text.trim, String.toList_ofList] at hchars

theorem IsBlockText.balanced {s : String} (h : IsBlockText s) : Balanced s.toList := by
  have hchars := h.plain
  unfold Balanced
  generalize s.toList = cs at hchars
  induction cs with
  | nil => rfl
  | cons c cs ih =>
    obtain ⟨hdouble, hsingle, hback, hopen, hclose⟩ := hchars c List.mem_cons_self
    have hstep : Quoting.plain.step c = .plain :=
      Quoting.step_inert Quoting.sound_plain ⟨hback, hdouble, hsingle⟩
    rw [bracesFrom, if_neg (fun hbrace => hopen hbrace.2), if_neg (fun hbrace => hclose hbrace.2), hstep]
    exact ih fun d hd => hchars d (List.mem_cons_of_mem _ hd)

/-! ### Selectors that are joined and split again -/

/-- The parts of a selector between its commas, wherever these stand. -/
def commaParts (s : String) : List String :=
  (trimmedParts (s.toList.splitOn ',')).map String.ofList

theorem comma_notMem_of_mem_commaParts {s part : String} (h : part ∈ commaParts s) :
    ',' ∉ part.toList := by
  obtain ⟨chars, hchars, rfl⟩ := List.mem_map.mp h
  obtain ⟨whole, hwhole, rfl⟩ := List.mem_map.mp (List.mem_filter.mp hchars).1
  rw [String.toList_ofList]
  exact fun hcomma => notMem_of_mem_splitOn hwhole (mem_of_mem_trimChars hcomma)

theorem commaParts_of_notMem {s : String} (hne : s ≠ "") (htrim : Text.trim s = s)
    (h : ',' ∉ s.toList) : commaParts s = [s] := by
  have hchars : s.toList ≠ [] := by simpa using hne
  rw [commaParts, List.splitOn_eq_singleton h, trimmedParts_cons, trimChars_of_trim htrim,
    if_neg hchars, trimmedParts, List.map_nil, List.filter_nil, List.map_singleton,
    String.ofList_toList]

theorem trimmedParts_append (ps qs : List (List Char)) :
    trimmedParts (ps ++ qs) = trimmedParts ps ++ trimmedParts qs := by
  rw [trimmedParts, List.map_append, List.filter_append]
  rfl

/-- A blank before a text does not show in its parts. -/
theorem trimmedParts_splitOn_blank {c : Char} (h : Text.isBlank c = true) (cs : List Char) :
    trimmedParts ((c :: cs).splitOn ',') = trimmedParts (cs.splitOn ',') := by
  have hne : c ≠ ',' := by
    rintro rfl
    revert h
    decide
  obtain ⟨part, parts, hparts⟩ := List.exists_cons_of_ne_nil (List.splitOn_ne_nil ',' cs)
  rw [List.splitOn_cons_eq_if_modifyHead, if_neg (by simpa using hne), hparts, List.modifyHead_cons,
    trimmedParts_cons, trimmedParts_cons, Text.trimChars_blank_cons h]

/-- The parts of joined selectors are those of each of them. -/
theorem trimmedParts_intercalate {ss : List (List Char)} (hne : ss ≠ []) :
    trimmedParts ((listSep.intercalate ss).splitOn ',') =
      ss.flatMap fun s => trimmedParts (s.splitOn ',') := by
  induction ss with
  | nil => exact absurd rfl hne
  | cons s ss ih =>
    cases ss with
    | nil => simp
    | cons t ss =>
      rw [List.intercalate_cons_cons, List.append_assoc, List.cons_append, List.singleton_append,
        List.splitOn_append_cons_self, trimmedParts_append, trimmedParts_splitOn_blank (by decide),
        ih (by simp)]
      rfl

/-! ### A block with selectors -/

section

variable {selectors : List String} {declarations : String}

/-- A scan finds no brace in joined selectors and leaves no string of them open. -/
theorem scan_intercalate (h : ∀ s ∈ selectors, IsSelector s) :
    Lacks '\x7b' .plain (listSep.intercalate (selectors.map String.toList)) ∧
      Quoting.plain.run (listSep.intercalate (selectors.map String.toList)) = .plain := by
  induction selectors with
  | nil => exact ⟨trivial, rfl⟩
  | cons s rest ih =>
    have hs := h s List.mem_cons_self
    have hfirst : Lacks '\x7b' .plain s.toList ∧ Quoting.plain.run s.toList = .plain :=
      Nesting.run_of_run? hs.nested hs.no_backslash
    cases rest with
    | nil => simpa using hfirst
    | cons t rest =>
      obtain ⟨hlacks, hrun⟩ := ih fun u hu => h u (List.mem_cons_of_mem _ hu)
      have hsep : Quoting.plain.run listSep = .plain := Quoting.run_listSep Quoting.sound_plain
      simp only [List.map_cons, List.intercalate_cons_cons, List.append_assoc, lacks_append,
        Quoting.run_append, hfirst.2, hsep]
      exact ⟨⟨hfirst.1, lacks_of_notMem (by decide), hlacks⟩, hrun⟩

/-- The first part of the first selector is there, so something is left of the selectors. -/
theorem flatMap_commaParts_ne_nil (hne : selectors ≠ []) (h : ∀ s ∈ selectors, IsSelector s) :
    selectors.flatMap commaParts ≠ [] := by
  obtain ⟨s, rest, rfl⟩ := List.exists_cons_of_ne_nil hne
  obtain ⟨hs, htrim, hnested, -, -⟩ := h s List.mem_cons_self
  obtain ⟨c, cs, hcs⟩ := List.exists_cons_of_ne_nil (l := s.toList) (by simpa using hs)
  have hblank : Text.isBlank c = false :=
    ((Text.trimChars_eq_self_iff _).mp (trimChars_of_trim htrim)).1 c (by rw [hcs]; rfl)
  have hcomma : c ≠ ',' := by
    rintro rfl
    rw [hcs] at hnested
    cases hnested
  obtain ⟨part, parts, hparts⟩ := List.exists_cons_of_ne_nil (List.splitOn_ne_nil ',' cs)
  have hpart : Text.trimChars (c :: part) ≠ [] := by
    rw [ne_eq, Text.trimChars_eq_nil_iff]
    intro hall
    have hyes := hall c List.mem_cons_self
    rw [hblank] at hyes
    cases hyes
  rw [List.flatMap_cons, commaParts, hcs, List.splitOn_cons_eq_if_modifyHead,
    if_neg (by simpa using hcomma), hparts, List.modifyHead_cons, trimmedParts_cons, if_neg hpart]
  simp

/-- Any list of selectors before a block is read as the parts of the selectors between all commas. -/
theorem parse_toCss_eq (hne : selectors ≠ []) (h : ∀ s ∈ selectors, IsSelector s)
    (hat : (selectors.head?.bind fun s => s.toList.head?) ≠ some '@')
    (hdeclarations : IsBlockText declarations) :
    parse (Rule.toCss ⟨selectors, declarations, false⟩) =
      [⟨selectors.flatMap commaParts, declarations, false⟩] := by
  let r : Rule := ⟨selectors, declarations, false⟩
  have hnonempty : ∀ s ∈ r.selectors, s ≠ "" := fun s hs => (h s hs).ne_empty
  have htrimmed : ∀ s ∈ r.selectors.map String.toList, Text.trimChars s = s := by
    intro s hs
    obtain ⟨t, ht, rfl⟩ := List.mem_map.mp hs
    exact trimChars_of_trim (h t ht).trimmed
  have hfree : ∀ s ∈ r.selectors.map String.toList, CommentFree s := by
    intro s hs
    obtain ⟨t, ht, rfl⟩ := List.mem_map.mp hs
    exact (h t ht).no_comment
  have hchars : r.toCss.toList = listSep.intercalate (r.selectors.map String.toList) ++
      '\x7b' :: (declarations.toList ++ ['\x7d']) := by
    rw [Rule.toCss_block rfl, prelude_toList]
  have hkept : withoutComments r.toCss.toList = r.toCss.toList := by
    rw [withoutComments_eq, hchars, uncommented_intercalate hfree (by simp), uncommented_cons (by simp),
      uncommented_append hdeclarations.no_comment (by simp)]
    rfl
  have hhead : (listSep.intercalate (r.selectors.map String.toList)).head? ≠ some '@' := by
    rwa [← prelude_toList, Rule.head?_prelude hne hnonempty]
  have htrim := trimChars_intercalate (Rule.selector_chars_ne hnonempty) htrimmed
  obtain ⟨hbrace, hrun⟩ := scan_intercalate h
  have hselectors : selectorsOf (listSep.intercalate (r.selectors.map String.toList)) =
      selectors.flatMap commaParts := by
    rw [selectorsOf_of_head hhead, trimmedParts_intercalate (by simpa [r] using hne), List.map_flatMap,
      List.flatMap_map]
    rfl
  have htake := takeRule_block (firstOutside_eq_none_iff.mpr hbrace) hrun (Or.inl hhead)
    hdeclarations.balanced []
  rw [htrim, hselectors, trimChars_of_trim hdeclarations.trimmed, rule?,
    if_neg (by simpa using flatMap_commaParts_ne_nil hne h), String.ofList_toList] at htake
  rw [parse, hkept, hchars, rulesOf_of_takeRule (by simp) ?head htake, rulesOf_eq]
  · rfl
  case head =>
    intro c hc
    have hjoined : listSep.intercalate (r.selectors.map String.toList) ≠ [] := by
      intro hnil
      obtain ⟨s, rest, hs⟩ := List.exists_cons_of_ne_nil hne
      obtain ⟨a, tail, ha⟩ := List.exists_cons_of_ne_nil (l := s.toList)
        (by simpa using hnonempty s (by simp [r, hs]))
      have hempty := Rule.head?_prelude (r := r) hne hnonempty
      rw [prelude_toList, hnil] at hempty
      simp [r, hs, ha] at hempty
    rw [List.head?_append_of_ne_nil _ hjoined] at hc
    exact ((Text.trimChars_eq_self_iff _).mp htrim).1 c hc

/-- A list of selectors is read and scoped as it is meant exactly if no selector has a comma. Otherwise
each selector is torn at its commas, inside brackets and strings as well. -/
theorem parse_selectors_iff {token : String} (hne : selectors ≠ [])
    (h : ∀ s ∈ selectors, IsSelector s)
    (hat : (selectors.head?.bind fun s => s.toList.head?) ≠ some '@')
    (hdeclarations : IsBlockText declarations) (htoken : Text.isAllBlank token = false)
    (hfree : ∀ s ∈ selectors, isScoped (Text.trim token) s = false) :
    parse (Rule.toCss ⟨selectors, declarations, false⟩) =
        [⟨selectors.flatMap commaParts, declarations, false⟩] ∧
      (parse (Rule.toCss ⟨selectors, declarations, false⟩) = [⟨selectors, declarations, false⟩] ∧
          (ScopedSheet.ofRules (parse (Rule.toCss ⟨selectors, declarations, false⟩)) token).rules =
            [⟨selectors.map (Text.trim token ++ " " ++ ·), declarations, false⟩] ↔
        ∀ s ∈ selectors, ',' ∉ s.toList) := by
  have hparse := parse_toCss_eq hne h hat hdeclarations
  refine ⟨hparse, ?_⟩
  rw [hparse]
  constructor
  · rintro ⟨hsame, -⟩ s hs
    have hselectors : selectors.flatMap commaParts = selectors := by
      simpa using hsame
    rw [← hselectors, List.mem_flatMap] at hs
    obtain ⟨t, -, hpart⟩ := hs
    exact comma_notMem_of_mem_commaParts hpart
  · intro hcomma
    have hparts : selectors.flatMap commaParts = selectors := by
      calc selectors.flatMap commaParts
          = selectors.flatMap fun s => [s] := List.flatMap_congr fun s hs =>
            commaParts_of_notMem (h s hs).ne_empty (h s hs).trimmed (hcomma s hs)
        _ = selectors := List.flatMap_singleton' selectors
    have hplain : Rule.isAtRule ⟨selectors, declarations, false⟩ = false := by
      obtain ⟨s, rest, rfl⟩ := List.exists_cons_of_ne_nil hne
      simpa [Rule.isAtRule] using hat
    have hsome : (Text.trim token).isEmpty = false := by
      rw [Bool.eq_false_iff, ne_eq, String.isEmpty_iff, Text.trim, String.ofList_eq_empty_iff,
        ← Text.isAllBlank_iff, htoken]
      exact Bool.false_ne_true
    rw [hparts, ScopedSheet.ofRules, List.map_singleton, Rule.scope, hsome, hplain]
    refine ⟨rfl, ?_⟩
    rw [Bool.or_false, if_neg Bool.false_ne_true]
    have hscoped : ∀ s ∈ selectors, scopedSelector (Text.trim token) s = Text.trim token ++ " " ++ s := by
      intro s hs
      rw [scopedSelector, hfree s hs, if_neg Bool.false_ne_true]
    rw [List.map_congr_left hscoped]

end

/-- Strings and brackets with braces, a mark and no comma in them. -/
theorem parse_attributeSelectors :
    parse (Rule.toCss ⟨[".a", "b[x=\"\x7b\"]:not(.c)"], "color:red", false⟩) =
        [⟨[".a", "b[x=\"\x7b\"]:not(.c)"], "color:red", false⟩] ∧
      (ScopedSheet.ofRules
          (parse (Rule.toCss ⟨[".a", "b[x=\"\x7b\"]:not(.c)"], "color:red", false⟩))
          "body.postid-5").rules =
        [⟨["body.postid-5 .a", "body.postid-5 b[x=\"\x7b\"]:not(.c)"], "color:red", false⟩] := by
  have hselectors : ∀ s ∈ [".a", "b[x=\"\x7b\"]:not(.c)"], IsSelector s := by
    intro s hs
    simp only [List.mem_cons, List.not_mem_nil, or_false] at hs
    obtain rfl | rfl := hs <;> constructor <;> decide +kernel
  have hdeclarations : IsBlockText "color:red" := by decide +kernel
  exact (parse_selectors_iff (by decide) hselectors (by decide +kernel) hdeclarations (by decide +kernel)
    (by decide +kernel)).2.mpr (by decide +kernel)

/-- A selector with a comma in its brackets is torn there, and the token is put inside the brackets. -/
theorem parse_torn :
    IsSelector ":is(.a, .b)" ∧ IsBlockText "color:red" ∧
      isScoped "body.postid-5" ":is(.a, .b)" = false ∧
      (ScopedSheet.ofRules (parse ":is(.a, .b)\x7bcolor:red\x7d") "body.postid-5").rules =
        [⟨["body.postid-5 :is(.a", "body.postid-5 .b)"], "color:red", false⟩] := by
  refine ⟨?_, by decide +kernel, by decide +kernel, by decide +kernel⟩
  constructor <;> decide +kernel

end PageBlocks.Style
