import Mathlib.Tactic.SplitIfs
import PageBlocks.Proofs.Markup.Running

/-!
Text that is written as it stands. To a reader that takes it for markup it shows start tags of its own, and
the same ones wherever in running text it stands, provided that it leads back to running text. Two lexers
are compared for this, one before the text as a whole and one where the text stands: from the first bracket
on they are at the same place in the same tag, comment or declaration.
-/

namespace PageBlocks.Markup.Lexer

/-- The lexer stands in a tag. -/
def inTag : LexState → Bool
  | .tagName | .beforeAttrName | .attrName | .afterAttrName | .beforeAttrValue | .beforeAttrValueBreak
  | .attrValue _ | .afterAttrValue | .selfClosing | .reference (.value _) _ => true
  | _ => false

/-- The lexer stands behind a bracket that opens, but not in a tag. -/
def inMark : LexState → Bool
  | .tagOpen | .endTagOpen | .bogusComment | .declaration _ | .commentStart | .commentStartDash
  | .comment | .commentEndDash | .commentEnd | .commentEndBang | .doctype | .beforeDoctypeName
  | .doctypeName | .afterDoctypeName _ | .afterDoctypeNameBreak | .afterDoctypeKeyword _
  | .beforeDoctypeId _ | .doctypeId _ _ | .afterDoctypeId _ | .betweenDoctypeIds | .bogusDoctype => true
  | _ => false

/-- Two lexers that read on in the same way, as far as start tags go. -/
inductive Alike (a b : Lexer) : Prop
  /-- In running text. -/
  | text : Within .data a.state → Within .data b.state → Alike a b
  /-- In the same tag. -/
  | tag : inTag a.state = true → a.state = b.state → a.afterReturn = b.afterReturn →
      a.isEndTag = b.isEndTag → a.tagName = b.tagName → Alike a b
  /-- At the same place in what is no tag, or not yet. -/
  | mark : inMark a.state = true → a.state = b.state → a.afterReturn = b.afterReturn → Alike a b

/-- Two results that lead to lexers which read on in the same way, and show the same start tags. -/
def AlikeResults (r r' : Result) : Prop := Alike r.1 r'.1 ∧ startedBy r.2 = startedBy r'.2

variable {a b : Lexer}

/-- Two lexers in the same tag, apart from where in it they stand. -/
structure SameTag (a b : Lexer) : Prop where
  afterReturn : a.afterReturn = b.afterReturn
  isEndTag : a.isEndTag = b.isEndTag
  tagName : a.tagName = b.tagName

namespace SameTag

theorem goto (h : SameTag a b) {s : LexState} (hs : inTag s = true) :
    AlikeResults (a.goto s) (b.goto s) :=
  ⟨.tag hs rfl h.afterReturn h.isEndTag h.tagName, rfl⟩

theorem pushValue (h : SameTag a b) {s : LexState} (hs : inTag s = true) (cs : List Char) :
    AlikeResults (a.pushValue s cs) (b.pushValue s cs) :=
  ⟨.tag hs rfl h.afterReturn h.isEndTag h.tagName, rfl⟩

theorem finishAttr (h : SameTag a b) : SameTag a.finishAttr b.finishAttr := by
  constructor
  · rw [afterReturn_finishAttr, afterReturn_finishAttr, h.afterReturn]
  · rw [isEndTag_finishAttr, isEndTag_finishAttr, h.isEndTag]
  · rw [tagName_finishAttr, tagName_finishAttr, h.tagName]

theorem startAttr (h : SameTag a b) (c : Char) : AlikeResults (a.startAttr c) (b.startAttr c) :=
  ⟨.tag rfl rfl h.finishAttr.afterReturn h.finishAttr.isEndTag h.finishAttr.tagName, rfl⟩

theorem emitTag (h : SameTag a b) : AlikeResults a.emitTag b.emitTag := by
  rw [Lexer.emitTag, Lexer.emitTag, h.finishAttr.isEndTag, h.finishAttr.tagName]
  split
  · exact ⟨.text (.inl rfl) (.inl rfl), rfl⟩
  · exact ⟨.text (.inl rfl) (.inl rfl), rfl⟩

theorem inAttrValue (h : SameTag a b) (quoting : Quoting) (c : Char) :
    AlikeResults (a.inAttrValue quoting c) (b.inAttrValue quoting c) := by
  cases quoting <;> simp only [Lexer.inAttrValue] <;> split_ifs
  all_goals first | exact h.goto rfl | exact h.pushValue rfl _ | exact h.emitTag

theorem inBeforeAttrName (h : SameTag a b) (c : Char) :
    AlikeResults (a.inBeforeAttrName c) (b.inBeforeAttrName c) := by
  simp only [Lexer.inBeforeAttrName]
  split_ifs
  all_goals first | exact h.goto rfl | exact h.emitTag | exact h.startAttr c

/-! ### References in values -/

theorem resolve (h : SameTag a b) (quoting : Quoting) (cs : List Char) :
    AlikeResults (a.resolve (.value quoting) cs) (b.resolve (.value quoting) cs) :=
  h.pushValue rfl cs

theorem resolveThen (h : SameTag a b) (quoting : Quoting) (cs : List Char) (c : Char) :
    AlikeResults (a.resolveThen (.value quoting) cs c) (b.resolveThen (.value quoting) cs c) := by
  have hresolved : SameTag (a.resolve (.value quoting) cs).1 (b.resolve (.value quoting) cs).1 :=
    ⟨h.afterReturn, h.isEndTag, h.tagName⟩
  exact hresolved.inAttrValue quoting c

end SameTag

theorem AlikeResults.withFault {r r' : Result} (h : AlikeResults r r') (faulty : Bool) :
    AlikeResults (withFault faulty r) (withFault faulty r') := by
  cases faulty <;> exact h

namespace SameTag

theorem cleared (h : SameTag a b) :
    SameTag { a with afterReturn := false } { b with afterReturn := false } :=
  ⟨rfl, h.isEndTag, h.tagName⟩

theorem readAgain (h : SameTag a b) (quoting : Quoting) (r : Reading) (c : Char) :
    AlikeResults (a.readAgain (.value quoting) r c) (b.readAgain (.value quoting) r c) := by
  simp only [Lexer.readAgain, h.afterReturn]
  split
  · exact h.cleared.resolve quoting r.value
  · exact h.cleared.resolveThen quoting r.chars c

theorem inUnknown (h : SameTag a b) (quoting : Quoting) (c : Char) :
    AlikeResults (a.inUnknown (.value quoting) c) (b.inUnknown (.value quoting) c) := by
  simp only [Lexer.inUnknown]
  split
  · exact ⟨.tag rfl rfl h.afterReturn h.isEndTag h.tagName, rfl⟩
  · exact h.cleared.inAttrValue quoting c

theorem inNamed (h : SameTag a b) (quoting : Quoting) (seen : List Char) (c : Char) :
    AlikeResults (a.inNamed (.value quoting) seen c) (b.inNamed (.value quoting) seen c) := by
  simp only [Lexer.inNamed]
  split
  · exact h.goto rfl
  · split
    · exact (h.readAgain quoting _ c).withFault _
    · split
      · have hresolved : SameTag (a.resolve (.value quoting) (Reading.literal seen.reverse).chars).1
            (b.resolve (.value quoting) (Reading.literal seen.reverse).chars).1 :=
          ⟨h.afterReturn, h.isEndTag, h.tagName⟩
        exact hresolved.inUnknown quoting c
      · exact h.readAgain quoting _ c

theorem inNumber (h : SameTag a b) (quoting : Quoting) (base : Nat) (marker : List Char) (value : Nat)
    (hasDigits : Bool) (c : Char) :
    AlikeResults (a.inNumber (.value quoting) base marker value hasDigits c)
      (b.inNumber (.value quoting) base marker value hasDigits c) := by
  simp only [Lexer.inNumber]
  split
  · exact h.goto rfl
  · split_ifs
    · exact h.resolveThen quoting _ c
    · exact h.resolve quoting _
    · exact (h.resolveThen quoting _ c).withFault true

theorem inReference (h : SameTag a b) (quoting : Quoting) (phase : ReferencePhase) (c : Char) :
    AlikeResults (a.inReference (.value quoting) phase c) (b.inReference (.value quoting) phase c) := by
  cases phase with
  | ampersand =>
    simp only [Lexer.inReference, h.afterReturn]
    split_ifs
    · exact h.resolveThen quoting _ c
    · exact h.goto rfl
    · exact h.inNamed quoting [] c
  | named seen => exact h.inNamed quoting seen c
  | unknown => exact h.inUnknown quoting c
  | numberSign =>
    simp only [Lexer.inReference]
    split_ifs
    · exact h.goto rfl
    · exact h.inNumber quoting 10 [] 0 false c
  | number base marker value hasDigits => exact h.inNumber quoting base marker value hasDigits c

/-- Two lexers at the same place in the same tag read on in the same way. -/
theorem dispatch (h : SameTag a b) (htag : inTag a.state = true) (hstate : a.state = b.state) (c : Char) :
    AlikeResults (a.dispatch false c) (b.dispatch false c) := by
  rw [Lexer.dispatch, Lexer.dispatch, ← hstate]
  cases hs : a.state <;> simp only [hs, inTag] at htag <;> try cases htag
  case attrValue quoting => exact h.inAttrValue quoting c
  case beforeAttrName => exact h.inBeforeAttrName c
  case beforeAttrValueBreak => exact h.goto rfl
  case reference target phase =>
    cases target with
    | value quoting => exact h.inReference quoting phase c
    | data => simp at htag
    | escapable => simp at htag
  case tagName =>
    simp only [inTagName]
    split_ifs
    all_goals first | exact h.goto rfl | exact h.emitTag | skip
    exact ⟨.tag (by rw [hs]; rfl) hstate h.afterReturn h.isEndTag (by rw [h.tagName]), rfl⟩
  case attrName =>
    simp only [inAttrName]
    split_ifs
    all_goals first | exact h.goto rfl | exact h.emitTag | skip
    exact ⟨.tag (by simp only [pushName, hs]; rfl) hstate h.afterReturn h.isEndTag h.tagName, rfl⟩
  case afterAttrName =>
    simp only [inAfterAttrName]
    split_ifs
    all_goals first | exact h.goto rfl | exact h.emitTag | exact h.startAttr c
  case beforeAttrValue =>
    simp only [inBeforeAttrValue]
    split_ifs
    all_goals first | exact h.goto rfl | exact h.emitTag | exact h.inAttrValue _ c
  case afterAttrValue =>
    simp only [inAfterAttrValue]
    split_ifs
    all_goals first | exact h.goto rfl | exact h.emitTag | exact h.inBeforeAttrName c
  case selfClosing =>
    simp only [inSelfClosing]
    split_ifs
    · exact SameTag.emitTag ⟨h.afterReturn, h.isEndTag, h.tagName⟩
    · exact h.inBeforeAttrName c

end SameTag

theorem alike_startDoctypeId (hreturn : a.afterReturn = b.afterReturn) (id : DoctypeId) (quote : Char) :
    AlikeResults (a.startDoctypeId id quote) (b.startDoctypeId id quote) := by
  cases id <;> exact ⟨.mark rfl rfl hreturn, rfl⟩

/-- Two lexers at the same place in what is no tag read on in the same way. -/
theorem dispatch_mark (hmark : inMark a.state = true) (hstate : a.state = b.state)
    (hreturn : a.afterReturn = b.afterReturn) (c : Char) :
    AlikeResults (a.dispatch false c) (b.dispatch false c) := by
  rw [Lexer.dispatch, Lexer.dispatch, ← hstate]
  cases hs : a.state <;> simp only [hs, inMark] at hmark <;> try cases hmark
  case doctypeId id quote =>
    simp only [inDoctypeId]
    split_ifs
    · exact ⟨.mark rfl rfl hreturn, rfl⟩
    · exact ⟨.text (.inl rfl) (.inl rfl), rfl⟩
    · cases id
      all_goals exact ⟨.mark (by simp only [modifyDoctypeId, hs]; rfl) hstate hreturn, rfl⟩
  all_goals
    simp only [inTagOpen, inEndTagOpen, inBogusComment, inDeclaration, inCommentStart, inCommentStartDash,
      inComment, inCommentEndDash, inCommentEnd, inCommentEndBang, inBeforeDoctypeName, inDoctypeName,
      inAfterDoctypeName, inAfterDoctypeNameBreak, inBeforeDoctypeId, inAfterDoctypeId,
      inBetweenDoctypeIds, inBogusDoctype, inData, Bool.false_and, Bool.or_false]
    repeat' split
    all_goals first
      | exact ⟨.mark rfl rfl hreturn, rfl⟩
      | exact ⟨.text (.inl rfl) (.inl rfl), rfl⟩
      | exact ⟨.text (.inr ⟨_, rfl⟩) (.inr ⟨_, rfl⟩), rfl⟩
      | exact ⟨.tag rfl rfl hreturn rfl rfl, rfl⟩
      | exact alike_startDoctypeId hreturn _ c
      | cases ‹false = true›

theorem behindBreak_tag {s : LexState} (h : inTag s = true) : inTag (behindBreak s) = true := by
  unfold behindBreak
  split
  · rfl
  · cases h
  · exact h

theorem behindBreak_mark {s : LexState} (h : inMark s = true) : inMark (behindBreak s) = true := by
  unfold behindBreak
  split
  · cases h
  · rfl
  · exact h

/-- Two lexers that read on in the same way do so behind a character. -/
theorem Alike.step (h : Alike a b) (c : Char) : AlikeResults (a.step false c) (b.step false c) := by
  cases h with
  | text ha hb =>
    by_cases hc : c = '<'
    · subst hc
      obtain ⟨hastate, hastill, hareturn⟩ := ends_data.step false ha
      obtain ⟨hbstate, hbstill, hbreturn⟩ := ends_data.step false hb
      refine ⟨.mark ?_ (hastate.trans hbstate.symm) (hareturn.trans hbreturn.symm), ?_⟩
      · rw [hastate]
        rfl
      · rw [hastill.started, hbstill.started]
    · obtain ⟨hawithin, hastill⟩ := ends_data.step_other false ha hc
      obtain ⟨hbwithin, hbstill⟩ := ends_data.step_other false hb hc
      exact ⟨.text hawithin hbwithin, by rw [hastill.started, hbstill.started]⟩
  | tag htag hstate hreturn hend hname =>
    have hdispatch : ∀ (afterReturn : Bool) (d : Char),
        AlikeResults ({ a with afterReturn := afterReturn }.dispatch false d)
          ({ b with afterReturn := afterReturn }.dispatch false d) := fun afterReturn d =>
      SameTag.dispatch (a := { a with afterReturn := afterReturn })
        (b := { b with afterReturn := afterReturn }) ⟨rfl, hend, hname⟩ htag hstate d
    rw [Lexer.step, Lexer.step, ← hreturn]
    split_ifs
    · exact ⟨.tag (behindBreak_tag htag) (congrArg behindBreak hstate) rfl hend hname, rfl⟩
    · exact hdispatch true '\n'
    · exact hdispatch false c
  | mark hmark hstate hreturn =>
    have hdispatch : ∀ (afterReturn : Bool) (d : Char),
        AlikeResults ({ a with afterReturn := afterReturn }.dispatch false d)
          ({ b with afterReturn := afterReturn }.dispatch false d) := fun afterReturn d =>
      dispatch_mark (a := { a with afterReturn := afterReturn })
        (b := { b with afterReturn := afterReturn }) hmark hstate rfl d
    rw [Lexer.step, Lexer.step, ← hreturn]
    split_ifs
    · exact ⟨.mark (behindBreak_mark hmark) (congrArg behindBreak hstate) rfl, rfl⟩
    · exact hdispatch true '\n'
    · exact hdispatch false c

/-- Two lexers that read on in the same way do so over a whole text. -/
theorem Alike.run (h : Alike a b) (cs : List Char) : AlikeResults (a.run cs) (b.run cs) := by
  induction cs generalizing a b with
  | nil => exact ⟨h, rfl⟩
  | cons c cs ih =>
    obtain ⟨hmid, hfirst⟩ := h.step c
    obtain ⟨hend, hrest⟩ := ih hmid
    rw [run_cons, run_cons]
    exact ⟨hend, by rw [startedBy_append, startedBy_append, hfirst, hrest]⟩

/-- Where one of them stands in running text, the other one does. -/
theorem Alike.within (h : Alike a b) (hb : Within .data b.state) : Within .data a.state := by
  cases h with
  | text ha _ => exact ha
  | tag htag hstate =>
    rcases hb with hb | ⟨phase, hb⟩ <;> rw [hstate, hb] at htag <;> cases htag
  | mark hmark hstate =>
    rcases hb with hb | ⟨phase, hb⟩ <;> rw [hstate, hb] at hmark <;> cases hmark

/-- The start tags that a text shows where it is read as markup from its beginning. -/
def shownIn (cs : List Char) : List Tag := startedBy (start.run cs).2

/-- Whether a text read as markup from its beginning leads back to running text. -/
def IsWhole (cs : List Char) : Prop := Within .data (start.run cs).1.state

/-- Whether a state is one of running text. -/
def isText : LexState → Bool
  | .data | .reference .data _ => true
  | _ => false

theorem isText_iff {s : LexState} : isText s = true ↔ Within .data s := by
  constructor
  · intro h
    unfold isText at h
    split at h
    · exact .inl rfl
    · exact .inr ⟨_, rfl⟩
    · cases h
  · rintro (rfl | ⟨phase, rfl⟩) <;> rfl

instance (cs : List Char) : Decidable (IsWhole cs) :=
  decidable_of_iff (isText (start.run cs).1.state = true) isText_iff

/-- A whole text shows the same start tags wherever it stands. -/
theorem IsWhole.shows {cs : List Char} (h : IsWhole cs) : Shows cs (shownIn cs) := by
  intro lx hlx
  obtain ⟨halike, hsame⟩ := (Alike.text (a := lx) (b := start) hlx (.inl rfl)).run cs
  exact ⟨halike.within h, hsame⟩

end PageBlocks.Markup.Lexer
