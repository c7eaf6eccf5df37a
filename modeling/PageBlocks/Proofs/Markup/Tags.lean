import PageBlocks.Proofs.Markup.Numbered

/-!
Reading tags. A tag that is written with a name in small letters and with attributes in double quotes is
read as it was meant: the attributes come back in order, whatever characters their values have that are
written as references, by name or by number.
-/
namespace PageBlocks.Markup

/-! ### What can be written -/

/-- A character that a name in a tag can have, small as it is. -/
def isNameChar (c : Char) : Bool :=
  !Lexer.isSpace c && c != '/' && c != '>' && c != '\x00' && c != '\r' && c.toLower == c

/-- The name of an element as it can be written in a tag. -/
def isTagName (name : List Char) : Bool :=
  name.head?.any Char.isAlpha && name.all isNameChar

/-- The name of an attribute as it can be written in a tag. -/
def isAttrName (name : List Char) : Bool :=
  !name.isEmpty && name.all fun c => isNameChar c && c != '='

/-- A character that the lexer takes as it stands. -/
def isKept (c : Char) : Bool := c != '\x00' && c != '\r'

/-- Characters that stand for one: the character itself, unless it is one of those that would be misread,
or a reference to it by name or by number. -/
def Writes (misread : Char → Prop) (written : List Char) (c : Char) : Prop :=
  (written = [c] ∧ c ≠ '&' ∧ ¬ misread c) ∨
    (∃ name, written = '&' :: name ∧ Entity.Settles name c) ∨
    ∃ n ≤ 0x10FFFF, written = '&' :: (('#' :: Nat.toDigits 10 n) ++ [';']) ∧ Lexer.numbered n = c

/-- A text in which the characters of a value are written one after the other. -/
inductive WritesAll (misread : Char → Prop) : List Char → List Char → Prop
  | nil : WritesAll misread [] []
  | cons {written rest : List Char} {c : Char} {cs : List Char} :
    Writes misread written c → WritesAll misread rest cs → WritesAll misread (written ++ rest) (c :: cs)

/-- A way of escaping. -/
def Escapes (misread : Char → Prop) (escape : Char → List Char) : Prop :=
  ∀ c, Writes misread (escape c) c

theorem Escapes.writesAll {misread : Char → Prop} {escape : Char → List Char}
    (h : Escapes misread escape) (value : List Char) :
    WritesAll misread (value.flatMap escape) value := by
  induction value with
  | nil => exact .nil
  | cons c value ih =>
    rw [List.flatMap_cons]
    exact .cons (h c) ih

/-- A way of escaping values in double quotes. -/
def EscapesValue : (Char → List Char) → Prop := Escapes (· = '"')

/-- A way of escaping running text. -/
def EscapesText : (Char → List Char) → Prop := Escapes (· = '<')

/-- An attribute as it is written. -/
def attrText (escape : Char → List Char) (name value : List Char) : List Char :=
  ' ' :: (name ++ '=' :: '"' :: (value.flatMap escape ++ ['"']))

/-- Attributes as they are written. -/
def attrsText (escape : Char → List Char) (attrs : List (String × String)) : List Char :=
  attrs.flatMap fun a => attrText escape a.1.toList a.2.toList

namespace Lexer

variable (foreign : Bool) {lx lx' : Lexer} {escape : Char → List Char}

theorem name_char {c : Char} (h : isNameChar c = true) :
    isSpace c = false ∧ c ≠ '/' ∧ c ≠ '>' ∧ c ≠ '\r' ∧ (mended c).toLower = c := by
  simp only [isNameChar, Bool.and_eq_true, Bool.not_eq_true', bne_iff_ne, ne_eq, beq_iff_eq] at h
  obtain ⟨⟨⟨⟨⟨hspace, hslash⟩, hend⟩, hnul⟩, hbreak⟩, hsmall⟩ := h
  refine ⟨hspace, hslash, hend, hbreak, ?_⟩
  rw [mended, if_neg (by simpa using hnul), hsmall]

theorem kept_char {c : Char} (h : isKept c = true) : c ≠ '\r' ∧ mended c = c := by
  simp only [isKept, Bool.and_eq_true, bne_iff_ne, ne_eq] at h
  exact ⟨h.2, if_neg (by simpa using h.1)⟩

/-! ### Single characters of a tag -/

theorem ne_of_isAlpha {c : Char} (h : c.isAlpha = true) {d : Char} (hd : d.isAlpha = false) :
    c ≠ d := by
  rintro rfl
  rw [h] at hd
  cases hd

/-- A letter behind the bracket that opens begins a start tag. -/
theorem step_tagOpen_alpha (h : lx.afterReturn = false) (hstate : lx.state = .tagOpen) {c : Char}
    (halpha : c.isAlpha = true) (hbreak : c ≠ '\r') :
    lx.step foreign c = (lx.startTag false .tagName c, []) := by
  rw [step_eq h hbreak]
  simp [dispatch, hstate, inTagOpen, ne_of_isAlpha halpha (d := '!') rfl,
    ne_of_isAlpha halpha (d := '/') rfl, ne_of_isAlpha halpha (d := '?') rfl, halpha]

theorem step_tagOpen_slash (h : lx.afterReturn = false) (hstate : lx.state = .tagOpen) :
    lx.step foreign '/' = lx.goto .endTagOpen := by
  rw [step_eq h (by decide)]
  simp [dispatch, hstate, inTagOpen]

theorem step_endTagOpen_alpha (h : lx.afterReturn = false) (hstate : lx.state = .endTagOpen)
    {c : Char} (halpha : c.isAlpha = true) (hbreak : c ≠ '\r') :
    lx.step foreign c = (lx.startTag true .tagName c, []) := by
  rw [step_eq h hbreak]
  simp [dispatch, hstate, inEndTagOpen, halpha]

/-- A blank behind a name or behind an attribute. -/
theorem step_tag_blank (h : lx.afterReturn = false)
    (hstate : lx.state = .tagName ∨ lx.state = .afterAttrValue) :
    lx.step foreign ' ' = lx.goto .beforeAttrName := by
  rw [step_eq h (by decide)]
  rcases hstate with hstate | hstate
  · simp [dispatch, hstate, inTagName, isSpace]
  · simp [dispatch, hstate, inAfterAttrValue, isSpace]

theorem step_tag_slash (h : lx.afterReturn = false)
    (hstate : lx.state = .tagName ∨ lx.state = .afterAttrValue) :
    lx.step foreign '/' = lx.goto .selfClosing := by
  rw [step_eq h (by decide)]
  rcases hstate with hstate | hstate
  · simp [dispatch, hstate, inTagName, isSpace]
  · simp [dispatch, hstate, inAfterAttrValue, isSpace]

/-- The bracket that closes, behind a name or behind an attribute. -/
theorem step_tag_close (h : lx.afterReturn = false)
    (hstate : lx.state = .tagName ∨ lx.state = .afterAttrValue) :
    lx.step foreign '>' = lx.emitTag := by
  rw [step_eq h (by decide)]
  rcases hstate with hstate | hstate
  · simp [dispatch, hstate, inTagName, isSpace]
  · simp [dispatch, hstate, inAfterAttrValue, isSpace]

/-- The first character of the name of an attribute; the attribute before it is completed. -/
theorem step_beforeAttrName (h : lx.afterReturn = false) (hstate : lx.state = .beforeAttrName)
    {c : Char} (hspace : isSpace c = false) (hslash : c ≠ '/') (hend : c ≠ '>') (hbreak : c ≠ '\r') :
    lx.step foreign c = lx.startAttr c := by
  rw [step_eq h hbreak]
  simp [dispatch, hstate, inBeforeAttrName, hspace, hslash, hend]

theorem step_attrName_equals (h : lx.afterReturn = false) (hstate : lx.state = .attrName) :
    lx.step foreign '=' = lx.goto .beforeAttrValue := by
  rw [step_eq h (by decide)]
  simp [dispatch, hstate, inAttrName, isSpace]

theorem step_beforeAttrValue_quote (h : lx.afterReturn = false)
    (hstate : lx.state = .beforeAttrValue) :
    lx.step foreign '"' = lx.goto (.attrValue .double) := by
  rw [step_eq h (by decide)]
  simp [dispatch, hstate, inBeforeAttrValue, isSpace]

/-! ### Attribute values -/

/-- The lexer stands in a value of which it has read `read`, in reverse; it may hold the last character
back. -/
def InValue (base : Lexer) (read : List Char) (lx : Lexer) : Prop :=
  lx = { base with state := .attrValue .double, attrValue := read } ∨
    ∃ name last before, read = last :: before ∧ Entity.Settles name last ∧
      lx = { base with attrValue := before }.holding (.value .double) name

/-- With its next character the lexer goes on as if it had not held anything back. -/
theorem InValue.step {base : Lexer} {read : List Char} (h : InValue base read lx)
    (hbase : base.afterReturn = false) {c : Char} (hc : c ≠ '\r') :
    lx.step foreign c =
      { base with state := .attrValue .double, attrValue := read }.inAttrValue .double c := by
  rcases h with rfl | ⟨name, last, before, rfl, hname, rfl⟩
  · rw [step_eq (by exact hbase) hc]
    rfl
  · rw [step_holding (by exact hbase) hname hc]
    rfl

theorem InValue.char {base : Lexer} {read written : List Char} (h : InValue base read lx)
    (hbase : base.afterReturn = false) {c : Char} (hwritten : Writes (· = '"') written c)
    (hc : isKept c = true) :
    ∃ lx', Passes foreign lx written lx' ∧ InValue base (c :: read) lx' := by
  obtain ⟨hbreak, hmended⟩ := kept_char hc
  rcases hwritten with ⟨rfl, hamp, hquote⟩ | ⟨name, rfl, hname⟩ | ⟨n, hn, rfl, rfl⟩
  · refine ⟨{ base with state := .attrValue .double, attrValue := c :: read }, ?_, Or.inl rfl⟩
    refine passes_one ?_
    rw [h.step foreign hbase hbreak]
    simp [inAttrValue, hamp, hquote, pushValue, hmended]
  · have hplain : Passes foreign { base with state := .attrValue .double, attrValue := read }
        ('&' :: name) ({ base with attrValue := read }.holding (.value .double) name) :=
      passes_reference hbase rfl hname
    obtain ⟨mid, hstep, hrest⟩ := hplain
    rw [step_eq (by exact hbase) (by decide)] at hstep
    refine ⟨_, ?_, Or.inr ⟨name, c, read, rfl, hname, rfl⟩⟩
    exact ⟨mid, (h.step foreign hbase (by decide)).trans hstep, hrest⟩
  · have hreading : ({ base with attrValue := read } : Lexer).afterReturn = false := hbase
    have hbegin : lx.step foreign '&' =
        ({ base with state := .reference (.value .double) .ampersand, attrValue := read }, []) :=
      h.step foreign hbase (by decide)
    have hdigits : Passes foreign
        { base with state := .reference (.value .double) .ampersand, attrValue := read }
        ('#' :: Nat.toDigits 10 n) ({ base with attrValue := read }.counting (.value .double) n) :=
      passes_number hreading hn
    have hend : ({ base with attrValue := read }.counting (.value .double) n).step foreign ';' =
        ({ base with state := .attrValue .double, attrValue := numbered n :: read }, []) :=
      step_counting hreading n
    exact ⟨_, ⟨_, hbegin, hdigits.append (passes_one hend)⟩, Or.inl rfl⟩

theorem InValue.chars {base : Lexer} {read written value : List Char} (h : InValue base read lx)
    (hbase : base.afterReturn = false) (hwritten : WritesAll (· = '"') written value)
    (hvalue : value.all isKept = true) :
    ∃ lx', Passes foreign lx written lx' ∧ InValue base (value.reverse ++ read) lx' := by
  induction hwritten generalizing lx read with
  | nil => exact ⟨lx, rfl, h⟩
  | cons hchar _ ih =>
    rw [List.all_cons, Bool.and_eq_true] at hvalue
    obtain ⟨mid, hpasses, hmid⟩ := h.char foreign hbase hchar hvalue.1
    obtain ⟨lx', hrest, hin⟩ := ih hmid hvalue.2
    refine ⟨lx', hpasses.append hrest, ?_⟩
    rwa [List.reverse_cons, List.append_assoc]

theorem passes_value (base : Lexer) (hbase : base.afterReturn = false) {written value : List Char}
    (hwritten : WritesAll (· = '"') written value) (hvalue : value.all isKept = true) :
    ∃ lx', Passes foreign { base with state := .attrValue .double, attrValue := [] } written lx' ∧
      InValue base value.reverse lx' := by
  have hstart : InValue base [] { base with state := .attrValue .double, attrValue := [] } :=
    Or.inl rfl
  have hchars := hstart.chars foreign hbase hwritten hvalue
  rwa [List.append_nil] at hchars

/-! ### Start tags -/

/-- The attribute in the making is all that its completion touches. -/
theorem finishAttr_eq (lx : Lexer) :
    lx.finishAttr = { lx with
      attrs := lx.finishAttr.attrs, attrName := lx.finishAttr.attrName
      attrValue := lx.finishAttr.attrValue } := by
  unfold finishAttr
  split
  · rfl
  · dsimp only
    split <;> rfl

theorem attrs_finishAttr_of_state (lx : Lexer) (state : LexState) :
    { lx with state := state }.finishAttr.attrs = lx.finishAttr.attrs := by
  unfold finishAttr
  dsimp only
  split
  · rfl
  · split <;> rfl

theorem textOf_reverse (s : String) : textOf s.toList.reverse = s := by
  rw [textOf, List.reverse_reverse, String.ofList_toList]

/-- A new name is completed with its value. -/
theorem attrs_finishAttr (lx : Lexer) {name value : String} (hne : name.toList ≠ [])
    (hname : lx.attrName = name.toList.reverse) (hvalue : lx.attrValue = value.toList.reverse)
    (hnew : ∀ a ∈ lx.attrs, a.1 ≠ name) : lx.finishAttr.attrs = (name, value) :: lx.attrs := by
  have hany : lx.attrs.any (fun a => a.1 == name) = false := by
    rw [List.any_eq_false]
    intro a ha
    simpa using hnew a ha
  simp only [finishAttr, hname, hvalue, textOf_reverse, hany]
  simp [hne]

/-- The lexer stands in a start tag behind its name or behind an attribute. -/
structure InTag (lx : Lexer) (name : List Char) (attrs : List (String × String)) : Prop where
  state : lx.state = .tagName ∨ lx.state = .afterAttrValue
  isEndTag : lx.isEndTag = false
  tagName : lx.tagName = name.reverse
  attrs : lx.finishAttr.attrs = attrs.reverse
  isSelfClosing : lx.isSelfClosing = false
  afterReturn : lx.afterReturn = false

theorem passes_attrName {base : Lexer} (h : base.afterReturn = false) {name : List Char}
    (hname : name.all (fun c => isNameChar c && c != '=') = true) (read : List Char) :
    Passes foreign { base with state := .attrName, attrName := read, attrValue := [] } name
      { base with state := .attrName, attrName := name.reverse ++ read, attrValue := [] } := by
  induction name generalizing read with
  | nil => rfl
  | cons c name ih =>
    rw [List.all_cons, Bool.and_eq_true, Bool.and_eq_true, bne_iff_ne] at hname
    obtain ⟨⟨hchar, hequals⟩, hrest⟩ := hname
    obtain ⟨hspace, hslash, hend, hbreak, hsmall⟩ := name_char hchar
    rw [List.reverse_cons, List.append_assoc]
    refine ⟨{ base with state := .attrName, attrName := c :: read, attrValue := [] }, ?_, ?_⟩
    · rw [step_eq (by exact h) hbreak]
      simp [dispatch, inAttrName, hspace, hslash, hequals, hend, pushName, hsmall]
    · exact ih hrest (c :: read)

/-- The name of an attribute is read, and the quotation mark that opens its value. -/
theorem InTag.attrName {name : List Char} {attrs : List (String × String)} (h : InTag lx name attrs)
    {attr : List Char} (hname : isAttrName attr = true) :
    Passes foreign lx (' ' :: (attr ++ ['=', '"'])) { { lx with state := .beforeAttrName }.finishAttr with
      state := .attrValue .double, attrName := attr.reverse, attrValue := [] } := by
  rw [isAttrName, Bool.and_eq_true, Bool.not_eq_true', List.isEmpty_eq_false_iff] at hname
  obtain ⟨hne, hchars⟩ := hname
  obtain ⟨first, tail, rfl⟩ := List.exists_cons_of_ne_nil hne
  rw [List.all_cons, Bool.and_eq_true, Bool.and_eq_true] at hchars
  obtain ⟨⟨hchar, -⟩, htail⟩ := hchars
  obtain ⟨hspace, hslash, hend, hbreak, hsmall⟩ := name_char hchar
  -- the attribute before this one is completed with the first character of the name
  have hfinish : { lx with state := .beforeAttrName }.finishAttr.afterReturn = false := by
    rw [finishAttr_eq]
    exact h.afterReturn
  have hstart : ({ lx with state := .beforeAttrName } : Lexer).step foreign first =
      ({ { lx with state := .beforeAttrName }.finishAttr with
        state := .attrName, attrName := [first], attrValue := [] }, []) := by
    rw [step_beforeAttrName foreign (by exact h.afterReturn) (by rfl) hspace hslash hend hbreak,
      startAttr, hsmall]
  have hrest := passes_attrName foreign hfinish htail [first]
  rw [List.reverse_cons]
  refine ⟨_, step_tag_blank foreign h.afterReturn h.state, _, hstart, hrest.append ?_⟩
  exact ⟨_, step_attrName_equals foreign hfinish rfl,
    passes_one (step_beforeAttrValue_quote foreign hfinish rfl)⟩

/-- Behind the value of an attribute whose name is new, the tag has this attribute too. -/
theorem InTag.behindValue {name : List Char} {attrs : List (String × String)}
    (h : InTag lx name attrs) {a : String × String} (hne : a.1.toList ≠ [])
    (hnew : ∀ b ∈ attrs, b.1 ≠ a.1) :
    InTag { { lx with state := .beforeAttrName }.finishAttr with
      state := .afterAttrValue, attrName := a.1.toList.reverse, attrValue := a.2.toList.reverse }
      name (attrs ++ [a]) := by
  have hattrs : { lx with state := .beforeAttrName }.finishAttr.attrs = attrs.reverse := by
    rw [attrs_finishAttr_of_state, h.attrs]
  have hfields := finishAttr_eq { lx with state := .beforeAttrName }
  generalize { lx with state := .beforeAttrName }.finishAttr = base at hattrs hfields
  constructor
  · exact Or.inr rfl
  · rw [hfields]
    exact h.isEndTag
  · rw [hfields]
    exact h.tagName
  · rw [attrs_finishAttr _ hne rfl rfl, List.reverse_append, hattrs]
    · rfl
    · intro b hb
      rw [hattrs] at hb
      exact hnew b (List.mem_reverse.mp hb)
  · rw [hfields]
    exact h.isSelfClosing
  · rw [hfields]
    exact h.afterReturn

/-- An attribute whose name is new is read. -/
theorem InTag.attr {name : List Char} {attrs : List (String × String)} (h : InTag lx name attrs)
    {a : String × String} {written : List Char} (hwritten : WritesAll (· = '"') written a.2.toList)
    (hname : isAttrName a.1.toList = true) (hvalue : a.2.toList.all isKept = true)
    (hnew : ∀ b ∈ attrs, b.1 ≠ a.1) :
    ∃ lx', Passes foreign lx (' ' :: (a.1.toList ++ '=' :: '"' :: (written ++ ['"']))) lx' ∧
      InTag lx' name (attrs ++ [a]) := by
  have hne : a.1.toList ≠ [] := by
    rintro hnil
    rw [isAttrName, hnil] at hname
    cases hname
  have hbehind := h.behindValue hne hnew
  have hnamed := h.attrName foreign hname
  have hfinish : { lx with state := .beforeAttrName }.finishAttr.afterReturn = false :=
    hbehind.afterReturn
  generalize { lx with state := .beforeAttrName }.finishAttr = base at hbehind hnamed hfinish
  obtain ⟨inside, hchars, hin⟩ := passes_value foreign
    { base with attrName := a.1.toList.reverse } hfinish hwritten hvalue
  have hclose : inside.step foreign '"' = ({ base with
      state := .afterAttrValue, attrName := a.1.toList.reverse, attrValue := a.2.toList.reverse }, []) := by
    rw [hin.step foreign hfinish (by decide)]
    simp [inAttrValue, goto]
  refine ⟨_, ?_, hbehind⟩
  have hvalued := hnamed.append (hchars.append (passes_one hclose))
  simpa only [List.cons_append, List.append_assoc, List.nil_append] using hvalued

theorem InTag.attrs_of {name : List Char} {attrs : List (String × String)}
    (h : InTag lx name attrs) (hescape : EscapesValue escape) {more : List (String × String)}
    (hnames : ∀ a ∈ more, isAttrName a.1.toList = true)
    (hvalues : ∀ a ∈ more, a.2.toList.all isKept = true)
    (hnodup : ((attrs ++ more).map (·.1)).Nodup) :
    ∃ lx', Passes foreign lx (attrsText escape more) lx' ∧ InTag lx' name (attrs ++ more) := by
  induction more generalizing lx attrs with
  | nil =>
    rw [List.append_nil]
    exact ⟨lx, rfl, h⟩
  | cons a more ih =>
    have hnew : ∀ b ∈ attrs, b.1 ≠ a.1 := by
      intro b hb heq
      rw [List.map_append, List.nodup_append] at hnodup
      exact hnodup.2.2 b.1 (List.mem_map_of_mem hb) a.1 (by simp) heq
    obtain ⟨mid, hattr, hmid⟩ := h.attr foreign (hescape.writesAll a.2.toList)
      (hnames a List.mem_cons_self) (hvalues a List.mem_cons_self) hnew
    rw [List.append_cons] at hnodup ⊢
    obtain ⟨lx', hrest, hin⟩ := ih hmid (fun b hb => hnames b (List.mem_cons_of_mem _ hb))
      (fun b hb => hvalues b (List.mem_cons_of_mem _ hb)) hnodup
    exact ⟨lx', hattr.append hrest, hin⟩

/-- The lexer reads running text and holds nothing back. -/
def AtData (lx : Lexer) : Prop := lx.state = .data ∧ lx.afterReturn = false

theorem passes_tagName (base : Lexer) (h : base.afterReturn = false) {name : List Char}
    (hname : name.all isNameChar = true) (read : List Char) :
    Passes foreign { base with state := .tagName, tagName := read } name
      { base with state := .tagName, tagName := name.reverse ++ read } := by
  induction name generalizing read with
  | nil => rfl
  | cons c name ih =>
    rw [List.all_cons, Bool.and_eq_true] at hname
    obtain ⟨hspace, hslash, hend, hbreak, hsmall⟩ := name_char hname.1
    rw [List.reverse_cons, List.append_assoc]
    refine ⟨{ base with state := .tagName, tagName := c :: read }, ?_, ih hname.2 (c :: read)⟩
    rw [step_eq (by exact h) hbreak]
    simp [dispatch, inTagName, hspace, hslash, hend, hsmall]

theorem isTagName_cons {name : List Char} (h : isTagName name = true) :
    ∃ first tail, name = first :: tail ∧ first.isAlpha = true ∧ first.toLower = first ∧
      first ≠ '\r' ∧ tail.all isNameChar = true := by
  cases name with
  | nil => cases h
  | cons first tail =>
    rw [isTagName, Bool.and_eq_true, List.all_cons, Bool.and_eq_true] at h
    obtain ⟨halpha, hfirst, htail⟩ := h
    have hsmall : first.toLower = first := by
      rw [isNameChar, Bool.and_eq_true, beq_iff_eq] at hfirst
      exact hfirst.2
    exact ⟨first, tail, rfl, halpha, hsmall, (name_char hfirst).2.2.2.1, htail⟩

theorem AtData.step_open (h : lx.AtData) : lx.step foreign '<' = lx.goto .tagOpen := by
  rw [step_eq h.2 (by decide)]
  simp [dispatch, h.1, inData]

/-- The beginning of a start tag, up to the end of its name. -/
theorem passes_startTag (h : lx.AtData) {name : List Char} (hname : isTagName name = true) :
    ∃ lx', Passes foreign lx ('<' :: name) lx' ∧ InTag lx' name [] := by
  obtain ⟨first, tail, rfl, halpha, hsmall, hbreak, htail⟩ := isTagName_cons hname
  have hfirst : ({ lx with state := .tagOpen } : Lexer).step foreign first =
      ({ lx.startTag false .tagName first with state := .tagName, tagName := [first] }, []) := by
    rw [step_tagOpen_alpha foreign (by exact h.2) (by rfl) halpha hbreak, startTag, hsmall]
    rfl
  have hrest := passes_tagName foreign (lx.startTag false .tagName first) h.2 htail [first]
  refine ⟨_, ⟨_, h.step_open foreign, _, hfirst, hrest⟩, ?_⟩
  constructor
  · exact Or.inl rfl
  · rfl
  · rw [List.reverse_cons]
  · rfl
  · rfl
  · exact h.2

/-- The end of a start tag. -/
theorem InTag.close {name : List Char} {attrs : List (String × String)} (h : InTag lx name attrs) :
    ∃ lx', lx.step foreign '>' =
      (lx', [.startTag ⟨.ofString (String.ofList name), attrs, false⟩]) ∧ lx'.AtData := by
  have hfields := finishAttr_eq lx
  have hname : textOf lx.finishAttr.tagName = String.ofList name := by
    rw [hfields, textOf]
    simp [h.tagName]
  have hisEnd : lx.finishAttr.isEndTag = false := by
    rw [hfields]
    exact h.isEndTag
  have hclosing : lx.finishAttr.isSelfClosing = false := by
    rw [hfields]
    exact h.isSelfClosing
  refine ⟨{ lx.finishAttr with
    state := .data, tagName := [], attrs := [], lastStart := lx.finishAttr.tagName }, ?_, rfl, ?_⟩
  · rw [step_tag_close foreign h.afterReturn h.state, emitTag]
    simp [hisEnd, hname, hclosing, h.attrs]
  · rw [hfields]
    exact h.afterReturn

/-- The end of a start tag that says that it is no element's beginning. -/
theorem InTag.closeEmpty {name : List Char} {attrs : List (String × String)} (h : InTag lx name attrs) :
    ∃ mid lx', Passes foreign lx ['/'] mid ∧ mid.step foreign '>' =
      (lx', [.startTag ⟨.ofString (String.ofList name), attrs, true⟩]) ∧ lx'.AtData := by
  -- the attribute in the making is complete, with the marks of the tag changed
  obtain ⟨done, hdone, hfields⟩ : ∃ done, lx.finishAttr = done ∧
      { lx with state := .selfClosing, isSelfClosing := true }.finishAttr =
        { done with state := .selfClosing, isSelfClosing := true } := by
    refine ⟨_, rfl, ?_⟩
    unfold finishAttr
    split
    · rfl
    · dsimp only
      split <;> rfl
  have hown := finishAttr_eq lx
  rw [hdone] at hown
  have hname : textOf done.tagName = String.ofList name := by
    rw [hown, textOf]
    simp [h.tagName]
  have hisEnd : done.isEndTag = false := by
    rw [hown]
    exact h.isEndTag
  have hattrs : done.attrs = attrs.reverse := by
    rw [← hdone]
    exact h.attrs
  refine ⟨_, { done with
    state := .data, tagName := [], attrs := [], lastStart := done.tagName, isSelfClosing := true },
    passes_one (step_tag_slash foreign h.afterReturn h.state), ?_, rfl, ?_⟩
  · rw [step_eq (by exact h.afterReturn) (by decide)]
    change { lx with state := .selfClosing, isSelfClosing := true }.emitTag = _
    rw [emitTag, hfields]
    simp [hisEnd, hname, hattrs]
  · rw [hown]
    exact h.afterReturn

/-- A start tag is read. -/
theorem runs_startTag (h : lx.AtData) (hescape : EscapesValue escape) {name : List Char}
    {attrs : List (String × String)} (hname : isTagName name = true)
    (hnames : ∀ a ∈ attrs, isAttrName a.1.toList = true)
    (hvalues : ∀ a ∈ attrs, a.2.toList.all isKept = true) (hnodup : (attrs.map (·.1)).Nodup) :
    ∃ mid lx', Passes foreign lx ('<' :: (name ++ attrsText escape attrs)) mid ∧
      mid.step foreign '>' = (lx', [.startTag ⟨.ofString (String.ofList name), attrs, false⟩]) ∧
      lx'.AtData := by
  obtain ⟨named, hstart, hin⟩ := passes_startTag foreign h hname
  obtain ⟨mid, hattrs, hmid⟩ := hin.attrs_of foreign hescape hnames hvalues hnodup
  obtain ⟨lx', hclose, hdata⟩ := hmid.close foreign
  exact ⟨mid, lx', hstart.append hattrs, hclose, hdata⟩

/-- A start tag with one attribute is read, however the value is written. -/
theorem runs_oneAttr (h : lx.AtData) {name written : List Char} {a : String × String}
    (hname : isTagName name = true) (hattr : isAttrName a.1.toList = true)
    (hwritten : WritesAll (· = '"') written a.2.toList) (hvalue : a.2.toList.all isKept = true) :
    ∃ mid lx', Passes foreign lx
        ('<' :: (name ++ ' ' :: (a.1.toList ++ '=' :: '"' :: (written ++ ['"'])))) mid ∧
      mid.step foreign '>' = (lx', [.startTag ⟨.ofString (String.ofList name), [a], false⟩]) ∧
      lx'.AtData := by
  obtain ⟨named, hstart, hin⟩ := passes_startTag foreign h hname
  obtain ⟨mid, hpasses, hmid⟩ := hin.attr foreign hwritten hattr hvalue (by simp)
  obtain ⟨lx', hclose, hdata⟩ := hmid.close foreign
  exact ⟨mid, lx', hstart.append hpasses, hclose, hdata⟩

/-- A start tag that says that it is no element's beginning is read. -/
theorem runs_emptyTag (h : lx.AtData) (hescape : EscapesValue escape) {name : List Char}
    {attrs : List (String × String)} (hname : isTagName name = true)
    (hnames : ∀ a ∈ attrs, isAttrName a.1.toList = true)
    (hvalues : ∀ a ∈ attrs, a.2.toList.all isKept = true) (hnodup : (attrs.map (·.1)).Nodup) :
    ∃ mid lx', Passes foreign lx ('<' :: (name ++ attrsText escape attrs ++ ['/'])) mid ∧
      mid.step foreign '>' = (lx', [.startTag ⟨.ofString (String.ofList name), attrs, true⟩]) ∧
      lx'.AtData := by
  obtain ⟨named, hstart, hin⟩ := passes_startTag foreign h hname
  obtain ⟨behind, hattrs, hbehind⟩ := hin.attrs_of foreign hescape hnames hvalues hnodup
  obtain ⟨mid, lx', hslash, hclose, hdata⟩ := hbehind.closeEmpty foreign
  refine ⟨mid, lx', ?_, hclose, hdata⟩
  rw [List.append_assoc]
  exact hstart.append (hattrs.append hslash)

/-- An end tag is read. -/
theorem runs_endTag (h : lx.AtData) {name : List Char} (hname : isTagName name = true) :
    ∃ mid lx', Passes foreign lx ('<' :: '/' :: name) mid ∧
      mid.step foreign '>' = (lx', [.endTag (.ofString (String.ofList name))]) ∧ lx'.AtData := by
  obtain ⟨first, tail, rfl, halpha, hsmall, hbreak, htail⟩ := isTagName_cons hname
  have hfirst : ({ lx with state := .endTagOpen } : Lexer).step foreign first =
      ({ lx.startTag true .tagName first with state := .tagName, tagName := [first] }, []) := by
    rw [step_endTagOpen_alpha foreign (by exact h.2) (by rfl) halpha hbreak, startTag, hsmall]
    rfl
  have hrest := passes_tagName foreign (lx.startTag true .tagName first) h.2 htail [first]
  refine ⟨_, { lx.startTag true .tagName first with state := .data, tagName := [] },
    ⟨_, h.step_open foreign, _, step_tagOpen_slash foreign h.2 rfl, _, hfirst, hrest⟩, ?_, rfl, h.2⟩
  · rw [step_tag_close foreign (by exact h.2) (.inl (by rfl))]
    simp [emitTag, finishAttr, startTag, textOf]

end Lexer

end PageBlocks.Markup
