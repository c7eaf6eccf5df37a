import PageBlocks.Proofs.Markup.Running

/-!
The start tags in the pieces that markup is written of. A start tag shows itself, under its name in small
letters and whatever its attribute values hold; an end tag, a comment and a document type show nothing.
-/
namespace PageBlocks.Markup.Lexer

variable {cs ds : List Char}

/-! ### Tags -/

/-- A character that does not end a name in a tag. -/
def isTagChar (c : Char) : Bool := !isSpace c && c != '/' && c != '>' && c != '\x00' && c != '\r'

/-- A name of an element as it can be read. -/
def isElementText (name : List Char) : Bool := name.head?.any Char.isAlpha && name.all isTagChar

/-- A name of an attribute as it can be read. -/
def isAttrText (name : List Char) : Bool :=
  !name.isEmpty && name.all isTagChar && name.tail.all (· != '=')

theorem tag_char {c : Char} (h : isTagChar c = true) :
    isSpace c = false ∧ c ≠ '/' ∧ c ≠ '>' ∧ c ≠ '\r' ∧ mended c = c := by
  simp only [isTagChar, Bool.and_eq_true, Bool.not_eq_true', bne_iff_ne, ne_eq] at h
  obtain ⟨⟨⟨⟨hspace, hslash⟩, hend⟩, hnul⟩, hbreak⟩ := h
  exact ⟨hspace, hslash, hend, hbreak, if_neg (by simpa using hnul)⟩

/-- The lexer stands in a tag, behind its name or behind an attribute. -/
structure Behind (lx : Lexer) (isEndTag : Bool) (tagName : List Char) : Prop where
  state : lx.state = .tagName ∨ lx.state = .afterAttrValue
  isEndTag : lx.isEndTag = isEndTag
  tagName : lx.tagName = tagName
  afterReturn : lx.afterReturn = false

variable {lx : Lexer} {isEndTag : Bool} {tagName : List Char}

/-- The rest of the name of an element is read. -/
theorem run_tagName (lx : Lexer) (h : lx.afterReturn = false) (hstate : lx.state = .tagName)
    {name : List Char} (hname : name.all isTagChar = true) :
    Behind (lx.run name).1 lx.isEndTag ((name.map Char.toLower).reverse ++ lx.tagName) ∧
      startedBy (lx.run name).2 = [] := by
  induction name generalizing lx with
  | nil => exact ⟨⟨.inl hstate, rfl, rfl, h⟩, rfl⟩
  | cons c name ih =>
    rw [List.all_cons, Bool.and_eq_true] at hname
    obtain ⟨hspace, hslash, hend, hbreak, hmended⟩ := tag_char hname.1
    have hstep : lx.step false c = ({ lx with tagName := c.toLower :: lx.tagName }, []) := by
      rw [step_eq h hbreak]
      simp [dispatch, hstate, inTagName, hspace, hslash, hend, hmended]
    have hrest := ih { lx with tagName := c.toLower :: lx.tagName } h hstate hname.2
    rw [run_cons, hstep]
    simpa using hrest

/-- The rest of the name of an attribute is read. -/
theorem run_attrName (lx : Lexer) (h : lx.afterReturn = false) (hstate : lx.state = .attrName)
    {name : List Char} (hname : name.all isTagChar = true) (hequals : name.all (· != '=') = true) :
    (lx.run name).1.state = .attrName ∧ (lx.run name).1.afterReturn = false ∧
      Still lx.isEndTag lx.tagName (lx.run name) := by
  induction name generalizing lx with
  | nil => exact ⟨hstate, h, rfl, rfl, rfl⟩
  | cons c name ih =>
    rw [List.all_cons, Bool.and_eq_true] at hname hequals
    obtain ⟨hspace, hslash, hend, hbreak, hmended⟩ := tag_char hname.1
    have hequal : c ≠ '=' := by simpa using hequals.1
    have hstep : lx.step false c = (lx.pushName c).1.goto .attrName := by
      rw [step_eq h hbreak]
      simp [dispatch, hstate, inAttrName, hspace, hslash, hend, hequal, pushName, goto]
    have hrest := ih ((lx.pushName c).1.goto .attrName).1 h rfl hname.2 hequals.2
    rw [run_cons, hstep]
    exact hrest

/-- An attribute is read, and the lexer stands behind it. -/
theorem Behind.attr (h : Behind lx isEndTag tagName) {escape : Char → List Char}
    (hescape : ∀ c, '"' ∉ escape c) {name : List Char} (value : List Char)
    (hname : isAttrText name = true) :
    Behind (lx.run (attrText escape name value)).1 isEndTag tagName ∧
      startedBy (lx.run (attrText escape name value)).2 = [] := by
  rw [isAttrText, Bool.and_eq_true, Bool.and_eq_true, Bool.not_eq_true',
    List.isEmpty_eq_false_iff] at hname
  obtain ⟨⟨hne, hchars⟩, hequals⟩ := hname
  obtain ⟨first, tail, rfl⟩ := List.exists_cons_of_ne_nil hne
  rw [List.all_cons, Bool.and_eq_true] at hchars
  obtain ⟨hspace, hslash, hend, hbreak, -⟩ := tag_char hchars.1
  have hblank : lx.step false ' ' = ({ lx with state := .beforeAttrName }, []) :=
    step_tag_blank false h.afterReturn h.state
  have hfirst : ({ lx with state := .beforeAttrName } : Lexer).step false first =
      ({ lx with state := .beforeAttrName } : Lexer).startAttr first :=
    step_beforeAttrName false (by exact h.afterReturn) (by rfl) hspace hslash hend hbreak
  -- the name, the mark behind it and the quotation mark
  let named := (({ lx with state := .beforeAttrName } : Lexer).startAttr first).1
  have hnamed : named.afterReturn = false ∧ named.isEndTag = isEndTag ∧ named.tagName = tagName :=
    ⟨(afterReturn_finishAttr _).trans h.afterReturn, (isEndTag_finishAttr _).trans h.isEndTag,
      (tagName_finishAttr _).trans h.tagName⟩
  obtain ⟨hstate, hreturn, hstill⟩ := run_attrName named hnamed.1 rfl hchars.2 hequals
  generalize hrun : named.run tail = read at hstate hreturn hstill
  have hmark : read.1.step false '=' = read.1.goto .beforeAttrValue :=
    step_attrName_equals false hreturn hstate
  have hquote : (read.1.goto .beforeAttrValue).1.step false '"' =
      read.1.goto (.attrValue .double) :=
    step_beforeAttrValue_quote false hreturn rfl
  -- the value and the quotation mark that ends it
  have hvalue : '"' ∉ value.flatMap escape := by
    rw [List.mem_flatMap]
    rintro ⟨c, -, hc⟩
    exact hescape c hc
  obtain ⟨hwithin, hinside⟩ :=
    ends_value.run (.inl (rfl : (read.1.goto (.attrValue .double)).1.state = _)) hvalue
  generalize hread : (read.1.goto (.attrValue .double)).1.run (value.flatMap escape) = inside
    at hwithin hinside
  obtain ⟨hafter, hclosed, hreturned⟩ := ends_value.step false hwithin
  have hwhole : lx.run (attrText escape (first :: tail) value) =
      ((inside.1.step false '"').1, read.2 ++ (inside.2 ++ (inside.1.step false '"').2)) := by
    rw [attrText, run_cons, hblank, List.cons_append, run_cons, hfirst]
    change ((named.run _).1, [] ++ ([] ++ (named.run _).2)) = _
    rw [run_append, hrun, run_cons, hmark, run_cons, hquote, run_append, hread, run_cons]
    simp [goto, run]
  rw [hwhole]
  refine ⟨⟨.inr hafter, ?_, ?_, hreturned⟩, ?_⟩
  · rw [hclosed.isEndTag, hinside.isEndTag]
    exact hstill.isEndTag.trans hnamed.2.1
  · rw [hclosed.tagName, hinside.tagName]
    exact hstill.tagName.trans hnamed.2.2
  · rw [startedBy_append, startedBy_append, hstill.started, hinside.started, hclosed.started]
    rfl

theorem Behind.attrs (h : Behind lx isEndTag tagName) {escape : Char → List Char}
    (hescape : ∀ c, '"' ∉ escape c) {attrs : List (String × String)}
    (hattrs : ∀ a ∈ attrs, isAttrText a.1.toList = true) :
    Behind (lx.run (attrsText escape attrs)).1 isEndTag tagName ∧
      startedBy (lx.run (attrsText escape attrs)).2 = [] := by
  induction attrs generalizing lx with
  | nil => exact ⟨h, rfl⟩
  | cons a attrs ih =>
    obtain ⟨hmid, hfirst⟩ := h.attr hescape a.2.toList (hattrs a List.mem_cons_self)
    obtain ⟨hend, hrest⟩ := ih hmid fun b hb => hattrs b (List.mem_cons_of_mem a hb)
    have hsplit : attrsText escape (a :: attrs) =
        attrText escape a.1.toList a.2.toList ++ attrsText escape attrs := rfl
    rw [hsplit, run_append]
    exact ⟨hend, by rw [startedBy_append, hfirst, hrest]; rfl⟩

/-- The bracket that closes ends a tag. -/
theorem Behind.close (h : Behind lx isEndTag tagName) :
    (lx.step false '>').1.state = .data ∧ startedBy (lx.step false '>').2 =
      if isEndTag then [] else [Tag.ofString (textOf tagName)] := by
  rw [step_tag_close false h.afterReturn h.state, emitTag, isEndTag_finishAttr, tagName_finishAttr, h.isEndTag, h.tagName]
  cases isEndTag <;> exact ⟨rfl, rfl⟩

/-- A bracket that opens, from where running text is read. -/
theorem step_open (h : Within .data lx.state) :
    (lx.step false '<').1.state = .tagOpen ∧ (lx.step false '<').1.afterReturn = false ∧
      startedBy (lx.step false '<').2 = [] := by
  obtain ⟨hstate, hstill, hreturn⟩ := ends_data.step false h
  exact ⟨hstate, hreturn, hstill.started⟩

theorem isElementText_cons {name : List Char} (h : isElementText name = true) :
    ∃ first tail, name = first :: tail ∧ first.isAlpha = true ∧ first ≠ '\r' ∧
      tail.all isTagChar = true := by
  cases name with
  | nil => cases h
  | cons first tail =>
    rw [isElementText, Bool.and_eq_true, List.all_cons, Bool.and_eq_true] at h
    exact ⟨first, tail, rfl, h.1, (tag_char h.2.1).2.2.2.1, h.2.2⟩

theorem textOf_lower (name : String) :
    textOf (name.toList.map Char.toLower).reverse = Text.lower name := by
  rw [textOf, List.reverse_reverse, Text.lower]

/-- A start tag shows itself. -/
theorem shows_startText {name : String} {attrs : List (String × String)} {escape : Char → List Char}
    (hname : isElementText name.toList = true)
    (hattrs : ∀ a ∈ attrs, isAttrText a.1.toList = true) (hescape : ∀ c, '"' ∉ escape c) :
    Shows (Parser.startText escape name attrs) [Tag.ofString (Text.lower name)] := by
  intro lx hlx
  obtain ⟨first, tail, hcons, halpha, hbreak, htail⟩ := isElementText_cons hname
  obtain ⟨hopen, hreturn, hnone⟩ := step_open hlx
  generalize hmid : lx.step false '<' = mid at hopen hreturn hnone
  obtain ⟨hnamed, hquiet⟩ := run_tagName (mid.1.startTag false .tagName first) hreturn rfl htail
  obtain ⟨hbehind, hattrs⟩ := hnamed.attrs hescape hattrs
  obtain ⟨hstate, hshown⟩ := hbehind.close
  have htext : Parser.startText escape name attrs =
      '<' :: first :: (tail ++ (attrsText escape attrs ++ ['>'])) := by
    rw [Parser.startText, hcons]
    simp
  have hlower : (tail.map Char.toLower).reverse ++ [first.toLower] =
      (name.toList.map Char.toLower).reverse := by
    rw [hcons]
    simp
  rw [htext, run_cons, hmid, run_cons, step_tagOpen_alpha false hreturn hopen halpha hbreak,
    run_append, run_append, run_cons]
  refine ⟨.inl hstate, ?_⟩
  simp only [startedBy_append, hnone, hquiet, hattrs, hshown, List.nil_append]
  change [Tag.ofString (textOf ((tail.map Char.toLower).reverse ++ [first.toLower]))] ++ [] = _
  rw [hlower, textOf_lower, List.append_nil]

/-- An end tag shows nothing. -/
theorem shows_endText {name : String} (hname : isElementText name.toList = true) :
    Shows (Parser.endText name) [] := by
  intro lx hlx
  obtain ⟨first, tail, hcons, halpha, hbreak, htail⟩ := isElementText_cons hname
  obtain ⟨hopen, hreturn, hnone⟩ := step_open hlx
  generalize hmid : lx.step false '<' = mid at hopen hreturn hnone
  have hfirst : (mid.1.goto .endTagOpen).1.step false first =
      ((mid.1.goto .endTagOpen).1.startTag true .tagName first, []) :=
    step_endTagOpen_alpha false (by exact hreturn) (by rfl) halpha hbreak
  obtain ⟨hnamed, hquiet⟩ :=
    run_tagName ((mid.1.goto .endTagOpen).1.startTag true .tagName first) hreturn rfl htail
  obtain ⟨hstate, hshown⟩ := hnamed.close
  have htext : Parser.endText name = '<' :: '/' :: first :: (tail ++ ['>']) := by
    rw [Parser.endText, hcons]
    rfl
  rw [htext, run_cons, hmid, run_cons, step_tagOpen_slash false hreturn hopen, run_cons, hfirst,
    run_append, run_cons]
  refine ⟨.inl hstate, ?_⟩
  simp only [startedBy_append, hnone, hquiet, hshown]
  rfl

/-! ### Comments and document types -/

/-- Where a character leads inside a comment, unless it ends the comment. -/
def commentStep : LexState → Char → Option LexState
  | .commentStart, c =>
    if c = '-' then some .commentStartDash else if c = '>' then none else some .comment
  | .commentStartDash, c =>
    if c = '-' then some .commentEnd else if c = '>' then none else some .comment
  | .comment, c => some (if c = '-' then .commentEndDash else .comment)
  | .commentEndDash, c => some (if c = '-' then .commentEnd else .comment)
  | .commentEnd, c =>
    if c = '>' then none
    else some (if c = '!' then .commentEndBang else if c = '-' then .commentEnd else .comment)
  | .commentEndBang, c =>
    if c = '-' then some .commentEndDash else if c = '>' then none else some .comment
  | _, _ => none

/-- Where a text leads inside a comment, unless it ends the comment. -/
def commentRun (s : LexState) (cs : List Char) : Option LexState := cs.foldlM commentStep s

/-- A text that a comment can hold: it does not end the comment. -/
def IsSealed (cs : List Char) : Prop := '\r' ∉ cs ∧ ∃ s, commentRun .commentStart cs = some s

/-- A character inside a comment is read as such. -/
theorem step_comment (h : lx.afterReturn = false) {c : Char} (hc : c ≠ '\r') {s : LexState}
    (hstep : commentStep lx.state c = some s) :
    (lx.step false c).1.state = s ∧ (lx.step false c).1.afterReturn = false ∧
      (lx.step false c).2 = [] := by
  rw [step_eq h hc, dispatch]
  cases hstate : lx.state <;> rw [hstate, commentStep] at hstep
  case commentStart => grind [inCommentStart, goto, pushComment]
  case commentStartDash => grind [inCommentStartDash, goto, pushComment]
  case comment => grind [inComment, goto, pushComment]
  case commentEndDash => grind [inCommentEndDash, goto, pushComment]
  case commentEnd => grind [inCommentEnd, goto, pushComment]
  case commentEndBang => grind [inCommentEndBang, goto, pushComment]
  all_goals cases hstep

theorem commentRun_append {s mid last : LexState} (h : commentRun s cs = some mid)
    (h' : commentRun mid ds = some last) : commentRun s (cs ++ ds) = some last := by
  rw [commentRun, List.foldlM_append]
  exact Option.bind_eq_some_iff.mpr ⟨mid, h, h'⟩

theorem run_comment (h : lx.afterReturn = false) (hcs : '\r' ∉ cs) {s : LexState}
    (hrun : commentRun lx.state cs = some s) :
    (lx.run cs).1.state = s ∧ (lx.run cs).1.afterReturn = false ∧ (lx.run cs).2 = [] := by
  induction cs generalizing lx with
  | nil => exact ⟨Option.some.inj hrun, h, rfl⟩
  | cons c cs ih =>
    obtain ⟨mid, hstep, hrest⟩ := Option.bind_eq_some_iff.mp hrun
    rw [List.mem_cons, not_or] at hcs
    obtain ⟨hmid, hreturn, hnone⟩ := step_comment h (Ne.symm hcs.1) hstep
    obtain ⟨hend, hlast, htokens⟩ := ih hreturn hcs.2 (hmid.symm ▸ hrest)
    rw [run_cons]
    exact ⟨hend, hlast, by rw [hnone, htokens]; rfl⟩

/-- Two dashes lead to the end of a comment, wherever in it they stand. -/
theorem commentRun_dashes {c : Char} {s s' : LexState} (h : commentStep s c = some s') :
    commentRun s' ['-', '-'] = some .commentEnd := by
  cases s <;> rw [commentStep] at h
  all_goals
    repeat' split at h
    all_goals cases h
    all_goals rfl

theorem commentRun_sealed {s : LexState} (h : commentRun .commentStart cs = some s) :
    commentRun .commentStart (cs ++ ['-', '-']) = some .commentEnd := by
  refine commentRun_append h ?_
  rcases List.eq_nil_or_concat cs with rfl | ⟨front, c, rfl⟩
  · obtain rfl := Option.some.inj h
    rfl
  · rw [List.concat_eq_append, commentRun, List.foldlM_append] at h
    obtain ⟨mid, -, hstep⟩ := Option.bind_eq_some_iff.mp h
    obtain ⟨s', hlast, hsame⟩ := Option.bind_eq_some_iff.mp hstep
    obtain rfl : s' = s := Option.some.inj hsame
    exact commentRun_dashes hlast

/-- A comment shows nothing. -/
theorem shows_comment {value : String} (h : IsSealed value.toList) :
    Shows ("<!--" ++ value ++ "-->").toList [] := by
  intro lx hlx
  obtain ⟨hbreak, s, hs⟩ := h
  obtain ⟨hopen, hreturn, hnone⟩ := step_open hlx
  generalize hmid : lx.step false '<' = mid at hopen hreturn hnone
  obtain ⟨begun, hbegun, hstate, hclear⟩ : ∃ begun : Lexer, mid.1.run ['!', '-', '-'] = (begun, []) ∧
      begun.state = .commentStart ∧ begun.afterReturn = false := by
    have hmark : mid.1.step false '!' = mid.1.goto (.declaration []) := by
      rw [step_eq hreturn (by decide)]
      simp [dispatch, hopen, inTagOpen]
    have hdash : (mid.1.goto (.declaration [])).1.step false '-' = mid.1.goto (.declaration ['-']) := by
      rw [step_eq (by exact hreturn) (by decide)]
      rfl
    have hdashes : (mid.1.goto (.declaration ['-'])).1.step false '-' =
        { mid.1 with comment := [] }.goto .commentStart := by
      rw [step_eq (by exact hreturn) (by decide)]
      rfl
    refine ⟨({ mid.1 with comment := [] }.goto .commentStart).1, ?_, rfl, hreturn⟩
    rw [run_cons, hmark, run_cons, hdash, run_cons, hdashes]
    rfl
  have hclosed := commentRun_sealed hs
  rw [← hstate] at hclosed
  have hbreaks : '\r' ∉ value.toList ++ ['-', '-'] := by
    rw [List.mem_append, not_or]
    exact ⟨hbreak, by decide⟩
  obtain ⟨hend, hlast, htokens⟩ := run_comment hclear hbreaks hclosed
  generalize hread : begun.run (value.toList ++ ['-', '-']) = read at hend hlast htokens
  have hfinal : read.1.step false '>' = read.1.emitComment := by
    rw [step_eq hlast (by decide), dispatch, hend]
    rfl
  have htext : ("<!--" ++ value ++ "-->").toList =
      '<' :: (['!', '-', '-'] ++ (value.toList ++ ['-', '-'] ++ ['>'])) := by
    simp
  rw [htext, run_cons, hmid, run_append, hbegun, run_append, hread, run_cons, hfinal]
  refine ⟨.inl rfl, ?_⟩
  simp only [startedBy_append, hnone, htokens]
  rfl

/-- The lexer stands in a document type. -/
def inDoctype : LexState → Bool
  | .doctype | .beforeDoctypeName | .doctypeName | .afterDoctypeName _ | .afterDoctypeNameBreak
  | .afterDoctypeKeyword _ | .beforeDoctypeId _ | .afterDoctypeId _ | .betweenDoctypeIds
  | .bogusDoctype => true
  | .doctypeId _ quote => quote != '>'
  | _ => false

/-- No keyword has a bracket. -/
theorem not_keyword (seen : List Char) {word : List Char} (h : '>' ∉ word) :
    ¬ lowercase ('>' :: seen).reverse <+: word := by
  intro hprefix
  have hmem : '>' ∈ lowercase ('>' :: seen).reverse := List.mem_map.mpr ⟨'>', by simp, by decide⟩
  exact h (List.IsPrefix.subset hprefix hmem)

theorem state_modifyDoctypeId (lx : Lexer) (id : DoctypeId) (f : Option String → String) :
    (lx.modifyDoctypeId id f).state = lx.state := by
  cases id <;> rfl

/-- A document type goes on up to the bracket that closes. -/
theorem dispatch_doctype (lx : Lexer) (h : inDoctype lx.state = true) (c : Char) :
    startedBy (lx.dispatch false c).2 = [] ∧
      if c = '>' then (lx.dispatch false c).1.state = .data
      else inDoctype (lx.dispatch false c).1.state = true := by
  rw [dispatch]
  cases hstate : lx.state <;> rw [hstate, inDoctype] at h <;> try cases h
  case afterDoctypeName seen =>
    by_cases hc : c = '>'
    · subst hc
      have hpublic : ¬ lowercase ('>' :: seen).reverse <+: "public".toList := not_keyword seen (by decide)
      have hsystem : ¬ lowercase ('>' :: seen).reverse <+: "system".toList := not_keyword seen (by decide)
      have hword : ∀ word : List Char, ¬ lowercase ('>' :: seen).reverse <+: word →
          lowercase ('>' :: seen).reverse ≠ word := fun word hnot heq => hnot (heq ▸ List.prefix_rfl)
      simp only [inAfterDoctypeName, beq_iff_eq, hword _ hpublic, hword _ hsystem, if_false,
        List.isPrefixOf_iff_prefix, hpublic, hsystem, Bool.or_eq_true, or_self]
      cases seen <;> exact ⟨rfl, rfl⟩
    · simp only [inAfterDoctypeName, inBogusDoctype]
      repeat' split
      all_goals simp_all [breakDoctype, goto, inDoctype]
  case doctypeId id quote =>
    simp only [inDoctypeId, beq_iff_eq]
    split
    · subst c
      rw [if_neg (by simpa using h)]
      exact ⟨rfl, rfl⟩
    · split
      · exact ⟨rfl, rfl⟩
      · refine ⟨rfl, ?_⟩
        rw [state_modifyDoctypeId, hstate]
        exact h
  all_goals
    simp only [inBeforeDoctypeName, inDoctypeName, inAfterDoctypeNameBreak, inBeforeDoctypeId,
      inAfterDoctypeId, inBetweenDoctypeIds, inBogusDoctype]
    repeat' split
    all_goals
      simp_all [emitDoctype, breakDoctype, goto, pushDoctypeName, startDoctypeId, modifyDoctypeId,
        inDoctype, startedBy, Token.started?, isSpace]

theorem step_doctype (h : inDoctype lx.state = true) {c : Char} (hc : c ≠ '>') :
    inDoctype (lx.step false c).1.state = true ∧ startedBy (lx.step false c).2 = [] := by
  have hdispatch : ∀ (afterReturn : Bool) (d : Char), d ≠ '>' →
      inDoctype ({ lx with afterReturn := afterReturn }.dispatch false d).1.state = true ∧
      startedBy ({ lx with afterReturn := afterReturn }.dispatch false d).2 = [] := by
    intro afterReturn d hd
    obtain ⟨hnone, hstate⟩ := dispatch_doctype { lx with afterReturn := afterReturn } h d
    rw [if_neg hd] at hstate
    exact ⟨hstate, hnone⟩
  rw [step]
  split
  · refine ⟨?_, rfl⟩
    change inDoctype (behindBreak lx.state) = true
    unfold behindBreak
    split
    · rename_i hstate
      rw [hstate] at h
      cases h
    · rfl
    · exact h
  · split
    · exact hdispatch true '\n' (by decide)
    · exact hdispatch false c hc

theorem run_doctype (lx : Lexer) (h : inDoctype lx.state = true) (hcs : '>' ∉ cs) :
    inDoctype (lx.run cs).1.state = true ∧ startedBy (lx.run cs).2 = [] := by
  induction cs generalizing lx with
  | nil => exact ⟨h, rfl⟩
  | cons c cs ih =>
    rw [List.mem_cons, not_or] at hcs
    obtain ⟨hmid, hnone⟩ := step_doctype h (Ne.symm hcs.1)
    obtain ⟨hend, hrest⟩ := ih _ hmid hcs.2
    rw [run_cons, startedBy_append, hnone, hrest]
    exact ⟨hend, rfl⟩

/-- A document type shows nothing. -/
theorem shows_doctype {name : String} (h : '>' ∉ name.toList) :
    Shows ("<!DOCTYPE " ++ name ++ ">").toList [] := by
  intro lx hlx
  obtain ⟨hopen, hreturn, hnone⟩ := step_open hlx
  generalize hmid : lx.step false '<' = mid at hopen hreturn hnone
  have hbegun : mid.1.run "!DOCTYPE".toList = ({ mid.1 with state := .doctype }, []) := by
    obtain ⟨⟨state, _, _, _, _, _, _, _, _, _, _, afterReturn⟩, _⟩ := mid
    cases hopen
    cases hreturn
    rfl
  have hspace : '>' ∉ ' ' :: name.toList := by simpa using h
  obtain ⟨hinside, hquiet⟩ := run_doctype { mid.1 with state := .doctype } rfl hspace
  generalize hread : ({ mid.1 with state := .doctype } : Lexer).run (' ' :: name.toList) = read
    at hinside hquiet
  have hfinal : (read.1.step false '>').1.state = .data ∧ startedBy (read.1.step false '>').2 = [] := by
    have hstep : read.1.step false '>' = { read.1 with afterReturn := false }.dispatch false '>' := by
      rw [step, if_neg (by simp), if_neg (by decide)]
    obtain ⟨hend, hstate⟩ := dispatch_doctype { read.1 with afterReturn := false } hinside '>'
    rw [hstep]
    exact ⟨hstate, hend⟩
  have htext : ("<!DOCTYPE " ++ name ++ ">").toList =
      '<' :: ("!DOCTYPE".toList ++ (' ' :: name.toList ++ ['>'])) := by
    simp
  rw [htext, run_cons, hmid, run_append, hbegun, run_append, hread, run_cons]
  refine ⟨.inl hfinal.1, ?_⟩
  simp only [startedBy_append, hnone, hquiet, hfinal.2]
  rfl

end PageBlocks.Markup.Lexer
