import PageBlocks.Proofs.Style.AsRead

/-!
Where a statement ends. A statement such as an import is meant to end at the first semicolon outside its
parentheses and strings. The parser looks for the semicolon, and for a brace before it, outside strings
only. So a statement is read as it is meant exactly if what stands in its parentheses without quotation
marks has no semicolon and no opening brace; otherwise it is cut at the first semicolon, and what is left
of it goes to the next rule, or it is taken for the head of a block.
-/
namespace PageBlocks.Style

/-! ### What a statement may look like -/

/-- What stands open in a statement: the quotation mark of a string, and a number of parentheses. -/
structure Enclosure where
  quote : Option Char
  depth : Nat
  deriving DecidableEq

namespace Enclosure

/-- Nothing stands open. -/
def top : Enclosure := ⟨none, 0⟩

/-- What stands open behind a character, unless it is a semicolon or a brace outside all parentheses and
strings, or closes a parenthesis that was not opened. -/
def step? (e : Enclosure) (c : Char) : Option Enclosure :=
  match e.quote with
  | some d => some (if c = d then { e with quote := none } else e)
  | none =>
    if c = '"' ∨ c = '\'' then some { e with quote := some c }
    else if c = '(' then some { e with depth := e.depth + 1 }
    else if c = ')' then if e.depth = 0 then none else some { e with depth := e.depth - 1 }
    else if e.depth = 0 ∧ (c = ';' ∨ c = '\x7b' ∨ c = '\x7d') then none
    else some e

/-- What stands open behind a text. -/
def run? (e : Enclosure) (cs : List Char) : Option Enclosure := cs.foldlM step? e

variable {e e' : Enclosure} {c : Char}

/-- A scan sees the same strings. -/
theorem quoting_of_step? (h : e.step? c = some e') (hc : c ≠ '\\') :
    Quoting.step ⟨e.quote, false⟩ c = ⟨e'.quote, false⟩ := by
  obtain ⟨quote, depth⟩ := e
  cases quote with
  | some d =>
    obtain rfl := Option.some.inj h
    by_cases hd : c = d
    · subst hd
      simp [Quoting.step, Quoting.plain, hc]
    · simp [Quoting.step, hc, hd]
  | none =>
    by_cases hquote : c = '"' ∨ c = '\''
    · simp only [step?, if_pos hquote, Option.some.injEq] at h
      simp [Quoting.step, hc, hquote, ← h]
    · have hsame : e'.quote = none := by
        simp only [step?, if_neg hquote] at h
        repeat' split at h
        all_goals cases h
        all_goals rfl
      simp [Quoting.step, hc, hquote, hsame]

theorem quoting_of_run? {cs : List Char} (h : e.run? cs = some e') (hback : '\\' ∉ cs) :
    Quoting.run ⟨e.quote, false⟩ cs = ⟨e'.quote, false⟩ := by
  induction cs generalizing e with
  | nil =>
    obtain rfl := Option.some.inj h
    rfl
  | cons c cs ih =>
    obtain ⟨mid, hstep, hrest⟩ := Option.bind_eq_some_iff.mp h
    rw [List.mem_cons, not_or] at hback
    have hnext := quoting_of_step? hstep (Ne.symm hback.1)
    change (Quoting.step ⟨e.quote, false⟩ c).run cs = _
    rw [hnext]
    exact ih hrest hback.2

end Enclosure

/-- The text of a statement up to its semicolon: it begins with an at sign, its parentheses and strings
are closed, semicolons and braces stand only inside them, and nothing in it escapes or begins a comment. -/
structure IsStatementText (s : String) : Prop where
  at_sign : s.toList.head? = some '@'
  enclosed : Enclosure.top.run? s.toList = some .top
  no_comment : CommentFree s.toList
  no_backslash : '\\' ∉ s.toList

theorem IsStatementText.run_eq {s : String} (h : IsStatementText s) :
    Quoting.plain.run s.toList = .plain :=
  Enclosure.quoting_of_run? h.enclosed h.no_backslash

/-! ### What the parser takes for a statement -/

theorem pos_of_firstOutside {needle c : Char} {cs : List Char} {place : Nat}
    (hhead : cs.head? = some c) (hc : c ≠ needle) (h : firstOutside needle cs = some place) :
    0 < place := by
  cases cs with
  | nil => cases hhead
  | cons d cs =>
    obtain rfl := Option.some.inj hhead
    rw [firstOutside, firstOutsideFrom, if_neg fun hfound => hc hfound.2] at h
    exact le_of_firstOutsideFrom h

/-- The needle stands where it was found. -/
theorem split_of_firstOutside {needle : Char} {k : Nat} {cs : List Char}
    (h : firstOutside needle cs = some k) : cs = cs.take k ++ needle :: cs.drop (k + 1) :=
  split_of_getElem? (countsAt_of_firstOutside h).2

/-- Blanks at the ends of a text hold no needle. -/
theorem Lacks.of_trimChars {needle : Char} {q : Quoting} (hs : q.Sound) (hq : q.escaped = false)
    (hneedle : Text.isBlank needle = false) {cs : List Char}
    (h : Lacks needle q (Text.trimChars cs)) : Lacks needle q cs := by
  obtain ⟨front, back, hcs, hfront, hback⟩ := Text.exists_blanks_around cs
  have hblanks : ∀ {blanks : List Char}, (∀ c ∈ blanks, Text.isBlank c = true) → needle ∉ blanks := by
    intro blanks hall hmem
    rw [hall needle hmem] at hneedle
    cases hneedle
  rw [hcs, lacks_append, Quoting.run_inert hs hq fun c hc => Quoting.inert_of_isBlank (hfront c hc),
    lacks_append]
  exact ⟨lacks_of_notMem (hblanks hfront), h, lacks_of_notMem (hblanks hback)⟩

theorem not_isBlank_of_at {cs : List Char} (hat : cs.head? = some '@') :
    ∀ c ∈ cs.head?, Text.isBlank c = false := by
  intro c hc
  obtain rfl := Option.some.inj (hat.symm.trans hc)
  decide

/-- From a text that begins with an at sign a rule is taken, if anything is, and it is a statement only
where a semicolon was found for one. -/
theorem takeRule_of_at {text rest : List Char} {rule : Option Rule} (hat : text.head? = some '@')
    (h : takeRule text = some (rule, rest)) :
    ∃ r, rule = some r ∧ (r.isStatement = true → ∃ front, EndsPlain front ∧ Lacks ';' .plain front ∧
      r.selectors = [String.ofList (Text.trimChars front)]) := by
  have hblock {front behind : List Char} (hsplit : text = front ++ '\x7b' :: behind) (body : List Char) :
      rule? (selectorsOf (Text.trimChars front)) body =
        some ⟨[String.ofList (Text.trimChars front)], String.ofList body, false⟩ := by
    have hfront : front.head? = some '@' := by
      cases front with
      | nil =>
        rw [hsplit] at hat
        cases hat
      | cons c front =>
        rw [hsplit] at hat
        exact hat
    rw [selectorsOf_at ((head?_trimChars (not_isBlank_of_at hfront)).trans hfront)]
    rfl
  cases taken_of_takeRule h with
  | statement _ hplain _ hend => exact ⟨_, rfl, fun _ => ⟨_, hplain, hend, rfl⟩⟩
  | block hsplit => exact ⟨_, hblock hsplit _, nofun⟩
  | openBlock hsplit => exact ⟨_, hblock hsplit _, nofun⟩

/-! ### A statement before other rules -/

section

variable {front rest : List Char}

/-- A text that begins with an at sign is a statement where its semicolon comes, if no semicolon or brace
ends it earlier. -/
theorem rulesOf_statement (hat : front.head? = some '@') (hrun : Quoting.plain.run front = .plain)
    (hend : firstOutside ';' front = none) (hbrace : firstOutside '\x7b' front = none)
    (rest : List Char) :
    rulesOf (front ++ ';' :: rest) =
      ⟨[String.ofList (Text.trimChars front)], "", true⟩ :: rulesOf rest := by
  have hhead : (front ++ ';' :: rest).head? = some '@' := by rw [List.head?_append, hat]; rfl
  exact rulesOf_of_takeRule (by simp) (not_isBlank_of_at hhead)
    (takeRule_statement hat hbrace hend hrun rest)

theorem takeRule_of_rulesOf_cons {text : List Char} (hat : text.head? = some '@') {r : Rule}
    {rules : List Rule} (h : rulesOf text = r :: rules) :
    ∃ behind, takeRule text = some (some r, behind) := by
  have hne : text ≠ [] := by
    rintro rfl
    cases hat
  cases htake : takeRule text with
  | none =>
    obtain ⟨c, cs, rfl⟩ := List.exists_cons_of_ne_nil hne
    rw [rulesOf_eq, Text.trimStartChars_eq_self (not_isBlank_of_at hat)] at h
    simp only [htake] at h
    cases h
  | some taken =>
    obtain ⟨rule, behind⟩ := taken
    obtain ⟨taken, rfl, -⟩ := takeRule_of_at hat htake
    rw [rulesOf_of_takeRule hne (not_isBlank_of_at hat) htake] at h
    obtain ⟨rfl, -⟩ := List.cons.inj h
    exact ⟨behind, rfl⟩

/-- If a text is read as a statement, no semicolon or brace ends it earlier. -/
theorem lacks_of_rulesOf_statement (hat : front.head? = some '@') {rules : List Rule}
    (h : rulesOf (front ++ ';' :: rest) =
      ⟨[String.ofList (Text.trimChars front)], "", true⟩ :: rules) :
    Lacks ';' .plain front ∧ Lacks '\x7b' .plain front := by
  have hhead : (front ++ ';' :: rest).head? = some '@' := by rw [List.head?_append, hat]; rfl
  obtain ⟨behind, htake⟩ := takeRule_of_rulesOf_cons hhead h
  obtain ⟨r, hr, hstatement⟩ := takeRule_of_at hhead htake
  obtain rfl := Option.some.inj hr
  obtain ⟨taken, ⟨hbrace, -⟩, hend, hselectors⟩ := hstatement rfl
  -- what was taken is trimmed to the same text
  have hsame : Text.trimChars front = Text.trimChars taken :=
    String.ofList_inj.mp (List.cons.inj hselectors).1
  constructor
  · apply Lacks.of_trimChars Quoting.sound_plain rfl (by decide)
    rw [hsame]
    exact hend.trimChars Quoting.sound_plain rfl
  · apply Lacks.of_trimChars Quoting.sound_plain rfl (by decide)
    rw [hsame]
    exact hbrace.trimChars Quoting.sound_plain rfl

end

theorem CommentFree.of_infix {cs ds : List Char} (h : CommentFree cs) (hsub : ds <:+: cs) :
    CommentFree ds :=
  fun hcomment => h (hcomment.trans hsub)

/-- Removing comments does not touch a text without comments that a semicolon ends. -/
theorem parse_ended {front : List Char} (h : CommentFree front) (rest : String) :
    parse (String.ofList front ++ ";" ++ rest) = rulesOf (front ++ ';' :: withoutComments rest.toList) := by
  have hchars : (String.ofList front ++ ";" ++ rest).toList = front ++ ';' :: rest.toList := by
    simp
  rw [parse, hchars, withoutComments_eq, withoutComments_eq, uncommented_append h (by simp),
    uncommented_cons (by simp)]

/-- A statement is read as it is meant, whatever stands behind it, exactly if no semicolon and no opening
brace stands in it outside strings. Where a semicolon is the first of these, the statement is cut there
and the rest of it is read as if it began the rules behind. -/
theorem parse_statement_iff {s : String} (h : IsStatementText s) (rest : String) :
    (parse (s ++ ";" ++ rest) = ⟨[Text.trim s], "", true⟩ :: parse rest ↔
      firstOutside ';' s.toList = none ∧ firstOutside '\x7b' s.toList = none) ∧
    ∀ stop, firstOutside ';' s.toList = some stop →
      firstOutside '\x7b' (s.toList.take stop) = none →
      parse (s ++ ";" ++ rest) =
        ⟨[Text.trim (String.ofList (s.toList.take stop))], "", true⟩ ::
          parse (String.ofList (s.toList.drop (stop + 1)) ++ ";" ++ rest) := by
  have hparse := parse_ended h.no_comment rest
  rw [String.ofList_toList] at hparse
  refine ⟨⟨fun heq => ?_, fun hnone => ?_⟩, fun stop hstop hbrace => ?_⟩
  · rw [hparse] at heq
    rw [firstOutside_eq_none_iff, firstOutside_eq_none_iff]
    exact lacks_of_rulesOf_statement h.at_sign heq
  · rw [hparse, rulesOf_statement h.at_sign h.run_eq hnone.1 hnone.2]
    rfl
  · obtain ⟨hend, hrun⟩ := lacks_take_of_firstOutside hstop
    have hpos := pos_of_firstOutside h.at_sign (by decide) hstop
    have hat : (s.toList.take stop).head? = some '@' := by
      rw [List.head?_take, if_neg hpos.ne', h.at_sign]
    have hsplit := split_of_firstOutside hstop
    have hrest := parse_ended (h.no_comment.of_infix (List.drop_suffix (stop + 1) _).isInfix) rest
    rw [hparse, hrest]
    conv_lhs => rw [hsplit]
    rw [List.append_assoc, List.cons_append,
      rulesOf_statement hat hrun (firstOutside_eq_none_iff.mpr hend) hbrace, Text.trim,
      String.toList_ofList]

/-- An import with all marks in a string or harmless in parentheses. -/
def quotedImport : String := "@import url(\"a;b\x7b.css\") supports((x)\x7d) print "

theorem parse_quotedImport :
    IsStatementText quotedImport ∧
      parse (quotedImport ++ ";" ++ "p\x7bm:0\x7d") =
        ⟨[Text.trim quotedImport], "", true⟩ :: parse "p\x7bm:0\x7d" := by
  have htext : IsStatementText quotedImport :=
    ⟨by decide +kernel, by decide +kernel, by decide +kernel, by decide +kernel⟩
  exact ⟨htext, (parse_statement_iff htext _).1.mpr (by decide +kernel)⟩

/-- An address with a semicolon in it, as addresses of fonts have. -/
def addressedImport : String := "@import url(a.css?b=1;2)"

/-- The import is cut inside its parentheses, and what is left of it goes to the selector behind it. -/
theorem parse_addressedImport :
    IsStatementText addressedImport ∧
      parse (addressedImport ++ ";" ++ ".c\x7bd:e\x7d") =
        [⟨["@import url(a.css?b=1"], "", true⟩, ⟨["2);.c"], "d:e", false⟩] ∧
      parse (addressedImport ++ ";" ++ ".c\x7bd:e\x7d") ≠
        ⟨[Text.trim addressedImport], "", true⟩ :: parse ".c\x7bd:e\x7d" := by
  refine ⟨⟨?_, ?_, ?_, ?_⟩, ?_, ?_⟩ <;> decide +kernel

end PageBlocks.Style
