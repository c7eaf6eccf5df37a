import PageBlocks.Proofs.Markup.ReadableNames

/-!
What the lexer yields can be read as it will be written. What is in the making has this property all along:
the names of a tag and of its attributes, the text of a comment with the dashes that may end it, and the
name of a document type.
-/
namespace PageBlocks.Markup.Lexer

/-! ### What is in the making -/

/-- The attributes in the making and the name of the document type can be read as they are. -/
structure Names (lx : Lexer) : Prop where
  attrs : ∀ a ∈ lx.attrs, isAttrText a.1.toList = true
  attrName : lx.attrName = [] ∨ isAttrText lx.attrName.reverse = true
  doctype : '>' ∉ (lx.doctype.name.getD "").toList

/-- Whether the name of a tag is in the making or known. -/
def inNaming : LexState → Bool
  | .rawEndTagName _ => true
  | s => inTag s

/-- What a state asks of the tag, comment or declaration in the making. -/
def Fits (lx : Lexer) : Prop :=
  match lx.state with
  | .bogusComment => '>' ∉ lx.comment ∧ '\r' ∉ lx.comment
  | .declaration seen => '>' ∉ seen ∧ '\r' ∉ seen
  | s =>
    (inCommentText s = true → AtComment s lx.comment) ∧
      (inNaming s = true → isTagName lx.tagName.reverse = true)

/-- All that is in the making can be read as it will be written. -/
structure IsReadable (lx : Lexer) : Prop where
  names : Names lx
  fits : Fits lx

/-- A result all of whose tokens can be read as they will be written. -/
structure Result.IsReadable (r : Result) : Prop where
  lexer : r.1.IsReadable
  tokens : ∀ t ∈ r.2, t.IsReadable

variable {lx : Lexer} {r : Result}

/-- In most states nothing is asked. -/
def asksNothing : LexState → Bool
  | .bogusComment | .declaration _ => false
  | s => !inCommentText s && !inNaming s

theorem fits_of_asksNothing (h : asksNothing lx.state = true) : Fits lx := by
  unfold Fits
  cases hs : lx.state <;> rw [hs] at h <;> simp_all [asksNothing, inCommentText, inNaming, inTag]

theorem fits_of_inNaming (h : inNaming lx.state = true) (hname : isTagName lx.tagName.reverse = true) :
    Fits lx := by
  unfold Fits
  cases hs : lx.state <;> rw [hs] at h <;> simp_all [inCommentText, inNaming, inTag]

theorem fits_of_inCommentText (h : inCommentText lx.state = true) (hat : AtComment lx.state lx.comment) :
    Fits lx := by
  unfold Fits
  cases hs : lx.state <;> rw [hs] at h <;> simp_all [inCommentText, inNaming, inTag]

theorem IsReadable.tagName (h : lx.IsReadable) (hstate : inNaming lx.state = true) :
    isTagName lx.tagName.reverse = true := by
  have hfits := h.fits
  unfold Fits at hfits
  cases hs : lx.state <;> rw [hs] at hstate hfits <;> simp_all [inNaming, inTag]

theorem IsReadable.atComment (h : lx.IsReadable) (hstate : inCommentText lx.state = true) :
    AtComment lx.state lx.comment := by
  have hfits := h.fits
  unfold Fits at hfits
  cases hs : lx.state <;> rw [hs] at hstate hfits <;> simp_all [inCommentText]

theorem readable_chars (cs : List Char) : ∀ t ∈ cs.map Token.char, t.IsReadable := by
  intro t ht
  obtain ⟨c, -, rfl⟩ := List.mem_map.mp ht
  trivial

/-! ### Steps -/

/-- Three fields decide about the names. -/
theorem Names.keep (h : Names lx) {lx' : Lexer} (hattrs : lx'.attrs = lx.attrs)
    (hname : lx'.attrName = lx.attrName) (hdoctype : lx'.doctype.name = lx.doctype.name) : Names lx' :=
  ⟨hattrs ▸ h.attrs, hname ▸ h.attrName, hdoctype ▸ h.doctype⟩

theorem Names.goto (h : Names lx) {s : LexState} (hs : asksNothing s = true) :
    Result.IsReadable (lx.goto s) :=
  ⟨⟨h.keep rfl rfl rfl, fits_of_asksNothing hs⟩, List.forall_mem_nil _⟩

theorem Names.emit (h : Names lx) {s : LexState} (hs : asksNothing s = true) (cs : List Char) :
    Result.IsReadable (lx.emit s cs) :=
  ⟨⟨h.keep rfl rfl rfl, fits_of_asksNothing hs⟩, readable_chars cs⟩

theorem Result.IsReadable.after (h : Result.IsReadable r) (cs : List Char) :
    Result.IsReadable (Lexer.after cs r) :=
  ⟨h.lexer, List.forall_mem_append.mpr ⟨readable_chars cs, h.tokens⟩⟩

theorem Result.IsReadable.withFault (h : Result.IsReadable r) (faulty : Bool) :
    Result.IsReadable (Lexer.withFault faulty r) := by
  cases faulty with
  | false => exact h
  | true => exact ⟨h.lexer, List.forall_mem_cons.mpr ⟨trivial, h.tokens⟩⟩

theorem Names.inData (h : Names lx) (c : Char) : Result.IsReadable (lx.inData c) := by
  unfold Lexer.inData
  split_ifs
  · exact h.goto rfl
  · exact h.goto rfl
  · exact h.emit rfl _

theorem Names.inRaw (h : Names lx) (kind : RawKind) (c : Char) : Result.IsReadable (lx.inRaw kind c) := by
  simp only [Lexer.inRaw]
  repeat' split
  all_goals first | exact h.emit rfl _ | exact h.goto rfl

theorem Names.finishAttr (h : Names lx) : Names lx.finishAttr := by
  unfold Lexer.finishAttr
  split
  · exact h
  · rename_i hname
    dsimp only
    split
    · exact ⟨h.attrs, .inl rfl, h.doctype⟩
    · refine ⟨List.forall_mem_cons.mpr ⟨?_, h.attrs⟩, .inl rfl, h.doctype⟩
      rw [textOf, String.toList_ofList]
      exact h.attrName.resolve_left (by simpa using hname)

/-- A tag in the making, with a name. -/
structure Named (lx : Lexer) : Prop where
  names : Names lx
  tagName : isTagName lx.tagName.reverse = true

namespace Named

theorem goto (h : Named lx) {s : LexState} (hs : inNaming s = true) : Result.IsReadable (lx.goto s) :=
  ⟨⟨h.names.keep rfl rfl rfl, fits_of_inNaming hs h.tagName⟩, List.forall_mem_nil _⟩

theorem pushValue (h : Named lx) {s : LexState} (hs : inNaming s = true) (cs : List Char) :
    Result.IsReadable (lx.pushValue s cs) :=
  ⟨⟨h.names.keep rfl rfl rfl, fits_of_inNaming hs h.tagName⟩, List.forall_mem_nil _⟩

theorem startAttr (h : Named lx) {c : Char} (hc : isTagChar (mended c) = true) :
    Result.IsReadable (lx.startAttr c) := by
  have hname := isNameChar_toLower hc
  refine ⟨⟨⟨h.names.finishAttr.attrs, .inr ?_, h.names.finishAttr.doctype⟩, ?_⟩, List.forall_mem_nil _⟩
  · exact isAttrText_begin (isTagChar_of_isNameChar hname)
  · refine fits_of_inNaming rfl ?_
    change isTagName lx.finishAttr.tagName.reverse = true
    rw [tagName_finishAttr]
    exact h.tagName

theorem emitTag (h : Named lx) : Result.IsReadable lx.emitTag := by
  have hfinish := h.names.finishAttr
  unfold Lexer.emitTag
  dsimp only
  split
  · refine ⟨⟨⟨List.forall_mem_nil _, hfinish.attrName, hfinish.doctype⟩, fits_of_asksNothing rfl⟩, ?_⟩
    exact List.forall_mem_singleton.mpr trivial
  · refine ⟨⟨⟨List.forall_mem_nil _, hfinish.attrName, hfinish.doctype⟩, fits_of_asksNothing rfl⟩, ?_⟩
    rw [List.forall_mem_singleton]
    refine ⟨Tag.isNamed_ofString ?_, fun a ha => hfinish.attrs a (List.mem_reverse.mp ha)⟩
    rw [textOf, String.toList_ofList, tagName_finishAttr]
    exact h.tagName

theorem inAttrValue (h : Named lx) (quoting : Quoting) (c : Char) :
    Result.IsReadable (lx.inAttrValue quoting c) := by
  cases quoting <;> simp only [Lexer.inAttrValue] <;> split_ifs
  all_goals first | exact h.goto rfl | exact h.pushValue rfl _ | exact h.emitTag

theorem inBeforeAttrName (h : Named lx) {c : Char} (hc : c ≠ '\r') :
    Result.IsReadable (lx.inBeforeAttrName c) := by
  simp only [Lexer.inBeforeAttrName, beq_iff_eq]
  split_ifs with hspace hslash hclose
  · exact h.goto rfl
  · exact h.goto rfl
  · exact h.emitTag
  · exact h.startAttr (isTagChar_mended (by simpa using hspace) hslash hclose hc)

/-- The name of the tag is read on. -/
theorem inTagName (h : Named lx) (hs : inNaming lx.state = true) {c : Char} (hc : c ≠ '\r') :
    Result.IsReadable (lx.inTagName c) := by
  simp only [Lexer.inTagName, beq_iff_eq]
  split_ifs with hspace hslash hclose
  · exact h.goto rfl
  · exact h.goto rfl
  · exact h.emitTag
  · have hchar := isNameChar_toLower (isTagChar_mended (by simpa using hspace) hslash hclose hc)
    refine ⟨⟨h.names.keep rfl rfl rfl, fits_of_inNaming hs ?_⟩, List.forall_mem_nil _⟩
    change isTagName ((mended c).toLower :: lx.tagName).reverse = true
    rw [List.reverse_cons]
    exact isTagName_push h.tagName hchar

/-- The name of an attribute is read on. -/
theorem inAttrName (h : Named lx) (hs : inNaming lx.state = true) {c : Char} (hc : c ≠ '\r') :
    Result.IsReadable (lx.inAttrName c) := by
  simp only [Lexer.inAttrName, beq_iff_eq]
  split_ifs with hspace hslash hequal hclose
  · exact h.goto rfl
  · exact h.goto rfl
  · exact h.goto rfl
  · exact h.emitTag
  · have hmended := isTagChar_mended (by simpa using hspace) hslash hclose hc
    refine ⟨⟨⟨h.names.attrs, .inr ?_, h.names.doctype⟩, fits_of_inNaming hs h.tagName⟩,
      List.forall_mem_nil _⟩
    change isAttrText ((mended c).toLower :: lx.attrName).reverse = true
    rw [List.reverse_cons]
    have hchar := isTagChar_of_isNameChar (isNameChar_toLower hmended)
    refine isAttrText_push (by simpa using h.names.attrName) hchar ?_
    exact toLower_ne rfl (by decide) (by decide) hequal

theorem inAfterAttrName (h : Named lx) {c : Char} (hc : c ≠ '\r') :
    Result.IsReadable (lx.inAfterAttrName c) := by
  simp only [Lexer.inAfterAttrName, beq_iff_eq]
  split_ifs with hspace hslash hequal hclose
  · exact h.goto rfl
  · exact h.goto rfl
  · exact h.goto rfl
  · exact h.emitTag
  · exact h.startAttr (isTagChar_mended (by simpa using hspace) hslash hclose hc)

theorem inBeforeAttrValue (h : Named lx) (c : Char) : Result.IsReadable (lx.inBeforeAttrValue c) := by
  simp only [Lexer.inBeforeAttrValue]
  split_ifs
  all_goals first | exact h.goto rfl | exact h.emitTag | exact h.inAttrValue _ c

theorem inAfterAttrValue (h : Named lx) {c : Char} (hc : c ≠ '\r') :
    Result.IsReadable (lx.inAfterAttrValue c) := by
  simp only [Lexer.inAfterAttrValue]
  split_ifs
  all_goals first | exact h.goto rfl | exact h.emitTag | exact h.inBeforeAttrName hc

theorem inSelfClosing (h : Named lx) {c : Char} (hc : c ≠ '\r') :
    Result.IsReadable (lx.inSelfClosing c) := by
  simp only [Lexer.inSelfClosing]
  split_ifs
  · exact Named.emitTag ⟨h.names.keep rfl rfl rfl, h.tagName⟩
  · exact h.inBeforeAttrName hc

/-- The name of an end tag in raw text is read on, or it was none. -/
theorem inRawEndTagName (h : Named lx) (hs : inNaming lx.state = true) (kind : RawKind) (c : Char) :
    Result.IsReadable (lx.inRawEndTagName kind c) := by
  simp only [Lexer.inRawEndTagName]
  split_ifs with hspace hslash hclose halpha
  · exact h.goto rfl
  · exact h.goto rfl
  · exact h.emitTag
  · refine ⟨⟨h.names.keep rfl rfl rfl, fits_of_inNaming hs ?_⟩, List.forall_mem_nil _⟩
    change isTagName (c.toLower :: lx.tagName).reverse = true
    rw [List.reverse_cons]
    exact isTagName_push h.tagName (isNameChar_of_isAlpha halpha)
  · exact (h.names.inRaw kind c).after _

end Named

/-! ### References -/

/-- What a target asks of the lexer. -/
structure Ready (target : ReferenceTarget) (lx : Lexer) : Prop where
  names : Names lx
  tagName : ReferenceTarget.isValue target = true → isTagName lx.tagName.reverse = true

namespace Ready

variable {target : ReferenceTarget}

theorem named {quoting : Quoting} (h : Ready (.value quoting) lx) : Named lx := ⟨h.names, h.tagName rfl⟩

theorem goto (h : Ready target lx) (phase : ReferencePhase) :
    Result.IsReadable (lx.goto (.reference target phase)) := by
  cases target with
  | data => exact h.names.goto rfl
  | escapable => exact h.names.goto rfl
  | value quoting => exact h.named.goto rfl

theorem resolve (h : Ready target lx) (cs : List Char) : Result.IsReadable (lx.resolve target cs) := by
  cases target with
  | data => exact h.names.emit rfl cs
  | escapable => exact h.names.emit rfl cs
  | value quoting => exact h.named.pushValue rfl cs

theorem resolved (h : Ready target lx) (cs : List Char) : Ready target (lx.resolve target cs).1 := by
  refine ⟨(h.resolve cs).lexer.names, ?_⟩
  cases target <;> exact h.tagName

theorem inTarget (h : Ready target lx) (c : Char) : Result.IsReadable (lx.inTarget target c) := by
  cases target with
  | data => exact h.names.inData c
  | escapable => exact h.names.inRaw .escapable c
  | value quoting => exact h.named.inAttrValue quoting c

theorem resolveThen (h : Ready target lx) (cs : List Char) (c : Char) :
    Result.IsReadable (lx.resolveThen target cs c) :=
  ⟨((h.resolved cs).inTarget c).lexer,
    List.forall_mem_append.mpr ⟨(h.resolve cs).tokens, ((h.resolved cs).inTarget c).tokens⟩⟩

theorem cleared (h : Ready target lx) : Ready target { lx with afterReturn := false } :=
  ⟨h.names.keep rfl rfl rfl, h.tagName⟩

theorem readAgain (h : Ready target lx) (reading : Reading) (c : Char) :
    Result.IsReadable (lx.readAgain target reading c) := by
  simp only [Lexer.readAgain]
  split
  · exact h.cleared.resolve reading.value
  · exact h.cleared.resolveThen reading.chars c

theorem inUnknown (h : Ready target lx) (c : Char) : Result.IsReadable (lx.inUnknown target c) := by
  simp only [Lexer.inUnknown]
  split
  · exact ⟨((h.resolved [c]).goto .unknown).lexer, (h.resolve [c]).tokens⟩
  · exact h.cleared.inTarget c

theorem inNamed (h : Ready target lx) (seen : List Char) (c : Char) :
    Result.IsReadable (lx.inNamed target seen c) := by
  simp only [Lexer.inNamed]
  split
  · exact h.goto _
  · split
    · exact (h.readAgain _ c).withFault _
    · split
      · exact ⟨((h.resolved _).inUnknown c).lexer,
          List.forall_mem_append.mpr ⟨(h.resolve _).tokens, ((h.resolved _).inUnknown c).tokens⟩⟩
      · exact h.readAgain _ c

theorem inNumber (h : Ready target lx) (base : Nat) (marker : List Char) (value : Nat) (hasDigits : Bool)
    (c : Char) : Result.IsReadable (lx.inNumber target base marker value hasDigits c) := by
  simp only [Lexer.inNumber]
  split
  · exact h.goto _
  · split_ifs
    · exact h.resolveThen _ c
    · exact h.resolve _
    · exact (h.resolveThen _ c).withFault true

theorem inReference (h : Ready target lx) (phase : ReferencePhase) (c : Char) :
    Result.IsReadable (lx.inReference target phase c) := by
  cases phase with
  | ampersand =>
    simp only [Lexer.inReference]
    split_ifs
    · exact h.resolveThen _ c
    · exact h.goto _
    · exact h.inNamed [] c
  | named seen => exact h.inNamed seen c
  | unknown => exact h.inUnknown c
  | numberSign =>
    simp only [Lexer.inReference]
    split_ifs
    · exact h.goto _
    · exact h.inNumber 10 [] 0 false c
  | number base marker value hasDigits => exact h.inNumber base marker value hasDigits c

end Ready

/-! ### Comments and declarations -/

theorem Names.emitComment (h : Names lx) (hsealed : IsSealed lx.comment.reverse) :
    Result.IsReadable lx.emitComment := by
  refine ⟨⟨h.keep rfl rfl rfl, fits_of_asksNothing rfl⟩, List.forall_mem_singleton.mpr ?_⟩
  rw [Token.IsReadable, textOf, String.toList_ofList]
  exact hsealed

/-- A comment is read on. -/
theorem AtComment.push (h : AtComment lx.state lx.comment) (hnames : Names lx) {d : Char} {s : LexState}
    (cs : List Char) (hstep : commentStep lx.state d = some s) (hs : inCommentText s = true)
    (htext : dashesBehind lx.state ++ [d] = cs ++ dashesBehind s) (hcs : '\r' ∉ cs) :
    Result.IsReadable (lx.pushComment s cs) := by
  refine ⟨⟨hnames.keep rfl rfl rfl, fits_of_inCommentText hs ⟨?_, ?_⟩⟩, List.forall_mem_nil _⟩
  · change commentRun .commentStart ((cs.reverse ++ lx.comment).reverse ++ dashesBehind s) = some s
    rw [List.reverse_append, List.reverse_reverse, List.append_assoc, ← htext, ← List.append_assoc]
    refine commentRun_append h.run ?_
    rw [commentRun, List.foldlM_cons, hstep]
    rfl
  · change '\r' ∉ cs.reverse ++ lx.comment
    rw [List.mem_append, List.mem_reverse, not_or]
    exact ⟨hcs, h.noReturn⟩

theorem IsReadable.inComments (h : lx.IsReadable) (hstate : inCommentText lx.state = true) {c : Char}
    (hc : c ≠ '\r') (foreign : Bool) : Result.IsReadable (lx.dispatch foreign c) := by
  have hat := h.atComment hstate
  have hemit := h.names.emitComment hat.isSealed
  have hreturn := mended_ne_return hc
  have hdash : mended c = '-' ↔ c = '-' := mended_eq_iff (by decide) (by decide)
  have hclose : mended c = '>' ↔ c = '>' := mended_eq_iff (by decide) (by decide)
  have hbang : mended c = '!' ↔ c = '!' := mended_eq_iff (by decide) (by decide)
  rw [Lexer.dispatch]
  cases hs : lx.state <;> rw [hs] at hstate <;> simp only [inCommentText] at hstate <;> try cases hstate
  all_goals
    simp only [Lexer.inCommentStart, Lexer.inCommentStartDash, Lexer.inComment, Lexer.inCommentEndDash,
      Lexer.inCommentEnd, Lexer.inCommentEndBang, beq_iff_eq]
    split_ifs
    all_goals first
      | exact hemit
      | refine hat.push h.names (d := mended c) [] ?_ rfl ?_ List.not_mem_nil <;>
          simp_all [commentStep, dashesBehind]
      | refine hat.push h.names (d := mended c) _ ?_ rfl ?_ ?_ <;>
          simp_all [commentStep, dashesBehind, Ne.symm hreturn]

/-- A text without a bracket that closes is read on. -/
theorem Names.inBogusComment (h : Names lx) (hclose : '>' ∉ lx.comment) (hbreak : '\r' ∉ lx.comment)
    {c : Char} (hc : c ≠ '\r') : Result.IsReadable (lx.inBogusComment c) := by
  simp only [Lexer.inBogusComment, beq_iff_eq]
  split
  · refine h.emitComment (isSealed_of_notMem ?_ ?_)
    · rwa [List.mem_reverse]
    · rwa [List.mem_reverse]
  · rename_i hne
    have hmended : mended c ≠ '>' := by
      rw [Ne, mended_eq_iff (by decide) (by decide)]
      exact hne
    refine ⟨⟨h.keep rfl rfl rfl, ?_, ?_⟩, List.forall_mem_nil _⟩
    · exact List.not_mem_cons_of_ne_of_not_mem hmended.symm hclose
    · exact List.not_mem_cons_of_ne_of_not_mem (mended_ne_return hc).symm hbreak

theorem IsReadable.inDeclaration (h : lx.IsReadable) {seen : List Char} (hs : lx.state = .declaration seen)
    {c : Char} (hc : c ≠ '\r') (foreign : Bool) : Result.IsReadable (lx.inDeclaration foreign seen c) := by
  have hfits := h.fits
  unfold Fits at hfits
  rw [hs] at hfits
  obtain ⟨hclose, hbreak⟩ := hfits
  have hnames : Names { lx with comment := seen } := h.names.keep rfl rfl rfl
  simp only [Lexer.inDeclaration]
  split_ifs with hdashes hdoctype hcdata hbegins
  · exact ⟨⟨h.names.keep rfl rfl rfl, fits_of_inCommentText rfl ⟨rfl, List.not_mem_nil⟩⟩,
      List.forall_mem_nil _⟩
  · exact h.names.goto rfl
  · exact h.names.goto rfl
  · -- what begins a keyword has no bracket
    have hclosed : c ≠ '>' := by
      rintro rfl
      have hread : '>' ∈ ('>' :: seen).reverse := by simp
      have hlower : '>' ∈ lowercase ('>' :: seen).reverse := List.mem_map.mpr ⟨'>', hread, by decide⟩
      simp only [Bool.or_eq_true, Bool.and_eq_true, List.isPrefixOf_iff_prefix] at hbegins
      rcases hbegins with (hbegins | hbegins) | ⟨-, hbegins⟩
      · exact absurd (hbegins.subset hread) (by decide)
      · exact absurd (hbegins.subset hlower) (by decide)
      · exact absurd (hbegins.subset hread) (by decide)
    refine ⟨⟨h.names.keep rfl rfl rfl, ?_, ?_⟩, List.forall_mem_nil _⟩
    · exact List.not_mem_cons_of_ne_of_not_mem hclosed.symm hclose
    · exact List.not_mem_cons_of_ne_of_not_mem hc.symm hbreak
  · exact hnames.inBogusComment hclose hbreak hc

theorem Names.breakDoctype (h : Names lx) : Names lx.breakDoctype := h.keep rfl rfl rfl

theorem Names.emitDoctype (h : Names lx) : Result.IsReadable lx.emitDoctype :=
  ⟨⟨⟨h.attrs, h.attrName, List.not_mem_nil⟩, fits_of_asksNothing rfl⟩,
    List.forall_mem_singleton.mpr h.doctype⟩

theorem Names.pushDoctypeName (h : Names lx) {c : Char} (hc : c ≠ '>') :
    Result.IsReadable (lx.pushDoctypeName c) := by
  refine ⟨⟨⟨h.attrs, h.attrName, ?_⟩, fits_of_asksNothing rfl⟩, List.forall_mem_nil _⟩
  have hlower : (mended c).toLower ≠ '>' := toLower_ne rfl (by decide) (by decide) hc
  simpa [Lexer.pushDoctypeName, String.toList_push, Ne.symm hlower] using h.doctype

theorem Names.modifyDoctypeId (h : Names lx) (id : DoctypeId) (f : Option String → String) :
    Names (lx.modifyDoctypeId id f) := by
  cases id <;> exact h.keep rfl rfl rfl

theorem Names.startDoctypeId (h : Names lx) (id : DoctypeId) (quote : Char) :
    Result.IsReadable (lx.startDoctypeId id quote) := (h.modifyDoctypeId id _).goto rfl

theorem Names.inBogusDoctype (h : Names lx) (c : Char) : Result.IsReadable (lx.inBogusDoctype c) := by
  simp only [Lexer.inBogusDoctype]
  split
  · exact h.emitDoctype
  · exact h.goto rfl

theorem IsReadable.inDoctypes (h : lx.IsReadable) (hstate : inDoctype lx.state = true ∨
    ∃ id quote, lx.state = .doctypeId id quote) (foreign : Bool) (c : Char) :
    Result.IsReadable (lx.dispatch foreign c) := by
  have hnames := h.names
  rw [Lexer.dispatch]
  cases hs : lx.state <;> simp only [hs, inDoctype] at hstate
  case doctypeId id quote =>
    simp only [Lexer.inDoctypeId]
    split_ifs
    · exact hnames.goto rfl
    · exact hnames.breakDoctype.emitDoctype
    · have hstays := state_modifyDoctypeId lx id fun s => (s.getD "").push (mended c)
      refine ⟨⟨hnames.modifyDoctypeId id fun s => (s.getD "").push (mended c), fits_of_asksNothing ?_⟩,
        List.forall_mem_nil _⟩
      rw [hstays, hs]
      rfl
  all_goals try simp at hstate
  all_goals
    simp only [Lexer.inBeforeDoctypeName, Lexer.inDoctypeName, Lexer.inAfterDoctypeName,
      Lexer.inAfterDoctypeNameBreak, Lexer.inBeforeDoctypeId, Lexer.inAfterDoctypeId,
      Lexer.inBetweenDoctypeIds, beq_iff_eq]
    repeat' split
    all_goals first
      | exact hnames.goto rfl
      | exact hnames.breakDoctype.goto rfl
      | exact hnames.emitDoctype
      | exact hnames.breakDoctype.emitDoctype
      | exact hnames.inBogusDoctype c
      | exact hnames.breakDoctype.inBogusDoctype c
      | exact hnames.startDoctypeId _ c
      | exact hnames.pushDoctypeName ‹_›

/-! ### Tags -/

theorem Names.startTag (h : Names lx) (isEndTag : Bool) {s : LexState} (hs : inNaming s = true) {c : Char}
    (hc : c.isAlpha = true) : (lx.startTag isEndTag s c).IsReadable :=
  ⟨⟨by simp [Lexer.startTag], .inl rfl, h.doctype⟩, fits_of_inNaming hs (isTagName_begin hc)⟩

theorem Names.cleared (h : Names lx) (comment : List Char) : Names { lx with comment := comment } :=
  h.keep rfl rfl rfl

theorem Names.pending (h : Names lx) (pending : List Char) : Names { lx with pending := pending } :=
  h.keep rfl rfl rfl

/-- Behind the bracket that opens, no name is known yet. -/
theorem Names.inTagOpen (h : Names lx) {c : Char} (hc : c ≠ '\r') :
    Result.IsReadable (lx.inTagOpen c) := by
  simp only [Lexer.inTagOpen]
  split_ifs with hbang hslash hquestion halpha
  · exact ⟨⟨h.keep rfl rfl rfl, List.not_mem_nil, List.not_mem_nil⟩, List.forall_mem_nil _⟩
  · exact h.goto rfl
  · exact (h.cleared []).inBogusComment List.not_mem_nil List.not_mem_nil hc
  · exact ⟨h.startTag false rfl halpha, List.forall_mem_nil _⟩
  · exact (h.inData c).after ['<']

theorem Names.inEndTagOpen (h : Names lx) {c : Char} (hc : c ≠ '\r') :
    Result.IsReadable (lx.inEndTagOpen c) := by
  simp only [Lexer.inEndTagOpen]
  split_ifs with halpha hclose
  · exact ⟨h.startTag true rfl halpha, List.forall_mem_nil _⟩
  · exact (h.goto rfl).withFault true
  · exact (h.cleared []).inBogusComment List.not_mem_nil List.not_mem_nil hc

theorem Names.inRawEndTagOpen (h : Names lx) (kind : RawKind) (c : Char) :
    Result.IsReadable (lx.inRawEndTagOpen kind c) := by
  simp only [Lexer.inRawEndTagOpen]
  split_ifs with halpha
  · have hstart := h.startTag true (s := .rawEndTagName kind) rfl halpha
    exact ⟨⟨hstart.names.keep rfl rfl rfl, hstart.fits⟩, List.forall_mem_nil _⟩
  · exact (h.inRaw kind c).after ['<', '/']

theorem IsReadable.inTags (h : lx.IsReadable) (hstate : inTag lx.state = true) {c : Char} (hc : c ≠ '\r')
    (foreign : Bool) : Result.IsReadable (lx.dispatch foreign c) := by
  have hnaming : inNaming lx.state = true := by
    unfold inNaming
    split
    · rfl
    · exact hstate
  have hnamed : Named lx := ⟨h.names, h.tagName hnaming⟩
  rw [Lexer.dispatch]
  cases hs : lx.state <;> simp only [hs, inTag] at hstate <;> try cases hstate
  case attrValue quoting => exact hnamed.inAttrValue quoting c
  case beforeAttrName => exact hnamed.inBeforeAttrName hc
  case beforeAttrValueBreak => exact hnamed.goto rfl
  case reference target phase =>
    cases target with
    | value quoting => exact Ready.inReference ⟨h.names, fun _ => hnamed.tagName⟩ phase c
    | data => simp at hstate
    | escapable => simp at hstate
  case tagName => exact hnamed.inTagName hnaming hc
  case attrName => exact hnamed.inAttrName hnaming hc
  case afterAttrName => exact hnamed.inAfterAttrName hc
  case beforeAttrValue => exact hnamed.inBeforeAttrValue c
  case afterAttrValue => exact hnamed.inAfterAttrValue hc
  case selfClosing => exact hnamed.inSelfClosing hc

/-! ### Whole steps -/

/-- Reading a character keeps what is in the making readable and yields what is. -/
theorem IsReadable.dispatch (h : lx.IsReadable) {c : Char} (hc : c ≠ '\r') (foreign : Bool) :
    Result.IsReadable (lx.dispatch foreign c) := by
  have hnames := h.names
  by_cases htag : inTag lx.state = true
  · exact h.inTags htag hc foreign
  by_cases hcomment : inCommentText lx.state = true
  · exact h.inComments hcomment hc foreign
  by_cases hdoctype : inDoctype lx.state = true ∨ ∃ id quote, lx.state = .doctypeId id quote
  · exact h.inDoctypes hdoctype foreign c
  rw [Lexer.dispatch]
  cases hs : lx.state <;> simp only [hs, inTag, inCommentText, inDoctype, not_or] at htag hcomment hdoctype
  case bogusComment =>
    have hfits := h.fits
    unfold Fits at hfits
    rw [hs] at hfits
    exact hnames.inBogusComment hfits.1 hfits.2 hc
  case declaration seen => exact h.inDeclaration hs hc foreign
  case reference target phase =>
    refine Ready.inReference ⟨hnames, fun hvalue => ?_⟩ phase c
    cases target <;> simp_all [ReferenceTarget.isValue]
  case tagOpen => exact hnames.inTagOpen hc
  case endTagOpen => exact hnames.inEndTagOpen hc
  case rawEndTagOpen kind => exact hnames.inRawEndTagOpen kind c
  case rawEndTagName kind =>
    have hnaming : inNaming lx.state = true := by
      rw [hs]
      rfl
    exact Named.inRawEndTagName ⟨hnames, h.tagName hnaming⟩ hnaming kind c
  all_goals try simp at htag hcomment hdoctype
  all_goals
    simp only [Lexer.inRawLess, Lexer.inScriptDash, Lexer.inScriptDashDash, Lexer.inScriptInner,
      Lexer.inCdata, Lexer.inCdataBracket, Lexer.inCdataEnd]
    repeat' split
    all_goals first
      | exact hnames.inData c
      | exact hnames.inRaw _ c
      | exact (hnames.inRaw _ c).after _
      | exact hnames.goto rfl
      | exact hnames.emit rfl _
      | exact (hnames.pending _).emit rfl _
      | exact (hnames.emit rfl _).after _

theorem IsReadable.clear (h : lx.IsReadable) (afterReturn : Bool) :
    IsReadable { lx with afterReturn := afterReturn } :=
  ⟨h.names.keep rfl rfl rfl, h.fits⟩

theorem IsReadable.fits_behindBreak (h : lx.IsReadable) :
    Fits { lx with state := behindBreak lx.state, afterReturn := false } := by
  have hcases : behindBreak lx.state = lx.state ∨ lx.state = .beforeAttrValue ∨
      behindBreak lx.state = .afterDoctypeNameBreak := by
    unfold behindBreak
    split
    · exact .inr (.inl ‹_›)
    · exact .inr (.inr rfl)
    · exact .inl rfl
  rcases hcases with hsame | hvalue | hname
  · rw [hsame]
    exact h.fits
  · rw [hvalue]
    exact fits_of_inNaming rfl (h.tagName (by rw [hvalue]; rfl))
  · rw [hname]
    exact fits_of_asksNothing rfl

theorem IsReadable.step (h : lx.IsReadable) (foreign : Bool) (c : Char) :
    Result.IsReadable (lx.step foreign c) := by
  rw [Lexer.step]
  split_ifs with hskip hreturn
  · exact ⟨⟨h.names.keep rfl rfl rfl, h.fits_behindBreak⟩, List.forall_mem_nil _⟩
  · exact IsReadable.dispatch (h.clear true) (by decide) foreign
  · exact IsReadable.dispatch (h.clear false) (by simpa using hreturn) foreign

theorem readable_finishReference (target : ReferenceTarget) (phase : ReferencePhase) :
    ∀ t ∈ finishReference target phase, t.IsReadable := by
  unfold finishReference
  split
  · exact List.forall_mem_nil _
  · cases phase with
    | ampersand => exact readable_chars ['&']
    | numberSign => exact readable_chars ['&', '#']
    | unknown => exact List.forall_mem_nil _
    | number base marker value hasDigits =>
      dsimp only
      split
      · exact List.forall_mem_cons.mpr ⟨trivial, readable_chars [_]⟩
      · exact readable_chars _
    | named seen =>
      dsimp only
      split
      · exact List.forall_mem_cons.mpr ⟨trivial, readable_chars _⟩
      · exact readable_chars _

/-- What the end of the text yields can be read as well. -/
theorem IsReadable.finish (h : lx.IsReadable) : ∀ t ∈ lx.finish, t.IsReadable := by
  have hbroken : ∀ t ∈ lx.breakDoctype.emitDoctype.2, t.IsReadable :=
    h.names.breakDoctype.emitDoctype.tokens
  have hcomment : inCommentText lx.state = true → ∀ t ∈ lx.emitComment.2, t.IsReadable := fun hs =>
    (h.names.emitComment (h.atComment hs).isSealed).tokens
  have hfits := h.fits
  unfold Fits at hfits
  rw [Lexer.finish]
  refine List.forall_mem_append.mpr ⟨?_, List.forall_mem_singleton.mpr trivial⟩
  cases hs : lx.state <;> rw [hs] at hfits hcomment
  case bogusComment =>
    refine (h.names.emitComment (isSealed_of_notMem ?_ ?_)).tokens
    · rw [List.mem_reverse]
      exact hfits.1
    · rw [List.mem_reverse]
      exact hfits.2
  case declaration seen =>
    refine List.forall_mem_singleton.mpr ?_
    rw [Token.IsReadable, textOf, String.toList_ofList]
    refine isSealed_of_notMem ?_ ?_
    · rw [List.mem_reverse]
      exact hfits.1
    · rw [List.mem_reverse]
      exact hfits.2
  case reference target phase => exact readable_finishReference target phase
  case bogusDoctype => exact h.names.emitDoctype.tokens
  case rawEndTagName kind => exact readable_chars _
  case rawLess kind =>
    rcases kind with _ | _ | _ | depth
    case commented => cases depth <;> first | exact List.forall_mem_nil _ | exact readable_chars ['<']
    all_goals exact readable_chars ['<']
  all_goals first
    | exact List.forall_mem_nil _
    | exact hbroken
    | exact hcomment rfl
    | exact readable_chars ['<']
    | exact readable_chars ['<', '/']
    | exact readable_chars [']']
    | exact readable_chars [']', ']']

/-- The lexer before the first character. -/
theorem isReadable_start : start.IsReadable :=
  ⟨⟨List.forall_mem_nil _, .inl rfl, List.not_mem_nil⟩, fits_of_asksNothing rfl⟩

/-- To read on in another mode asks nothing. -/
theorem IsReadable.setMode (h : lx.IsReadable) (mode : TextMode) : (lx.setMode mode).IsReadable := by
  cases mode <;>
    exact ⟨h.names.keep rfl rfl rfl, fits_of_asksNothing rfl⟩

end PageBlocks.Markup.Lexer
