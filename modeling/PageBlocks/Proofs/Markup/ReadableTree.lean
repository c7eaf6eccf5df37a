import PageBlocks.Proofs.Markup.ReadableCells

/-!
The page that is read from a text can be read again as it is written. Whatever the rules of the
construction do with a token that the lexer yields, the tree stays readable.
-/
namespace PageBlocks.Markup

open Lexer

namespace Construction.IsReadable

variable {c : Construction}

/-! ### Before the body -/

theorem acceptDoctype (h : c.IsReadable) {d : Doctype} (hd : (Token.doctype d).IsReadable) :
    (c.acceptDoctype d).IsReadable := by
  unfold Construction.acceptDoctype
  split
  · exact h.ofArena ((h.1.add (.doctype (d.name.getD "")) hd).append Arena.page _)
  · exact h

variable {t : Token} {s : StartTag}

theorem inInitial (h : c.IsReadable) (ht : t.IsReadable) : (c.inInitial t).1.IsReadable := by
  unfold Construction.inInitial
  repeat' split
  · exact h
  · exact h.putCommentIn _ ht
  · exact h

theorem insertRootBare (h : c.IsReadable) : (c.insertRoot []).IsReadable :=
  h.insertRoot (List.forall_mem_nil _)

theorem inBeforeHtml (h : c.IsReadable) (ht : t.IsReadable) : (c.inBeforeHtml t).1.IsReadable := by
  unfold Construction.inBeforeHtml
  repeat' split
  · exact h
  · exact h.putCommentIn _ ht
  · exact (h.insertRoot (isReadable_htmlAttrs ht)).withMode _
  · exact h.insertRootBare.again _
  · exact h.insertRootBare.again _
  · exact h
  · exact h.insertRootBare.again _

theorem insertHead (h : c.IsReadable) (hattrs : (htmlAttrs s).IsReadable) :
    (c.insertHead s).IsReadable := by
  have hhead : Tag.head.IsReadable := ⟨by decide, by decide⟩
  have hopen := h.openElement .html hhead hattrs
  unfold Construction.insertHead
  generalize c.openElement .html .head (htmlAttrs s) = opened at hopen
  exact hopen

theorem inBeforeHead (h : c.IsReadable) (ht : t.IsReadable) : (c.inBeforeHead t).1.IsReadable := by
  have hmissing : (c.insertHead ⟨.head, [], false⟩).IsReadable := h.insertHead (List.forall_mem_nil _)
  unfold Construction.inBeforeHead
  dsimp only
  repeat' split
  · exact h
  · exact h.putComment ht
  · exact h.mergeRoot ht
  · exact h.insertHead (isReadable_htmlAttrs ht)
  · exact hmissing
  · exact hmissing
  · exact h
  · exact hmissing

theorem openTemplate (h : c.IsReadable) (hs : (Token.startTag s).IsReadable) :
    (c.openTemplate s).IsReadable := by
  have hinsert := (h.insert hs).pushMarker
  unfold Construction.openTemplate
  generalize (c.insert s).pushMarker = opened at hinsert
  exact hinsert

theorem closeTemplate (h : c.IsReadable) : c.closeTemplate.IsReadable := by
  unfold Construction.closeTemplate
  split
  · exact ((h.popImplied _).popThroughTag .template).clearToMarker
  · exact h

theorem startHeadContent (h : c.IsReadable) (hs : (Token.startTag s).IsReadable) :
    (c.startHeadContent s).1.IsReadable := by
  unfold Construction.startHeadContent
  repeat' split
  · exact h.insertVoid hs
  · exact h.insertRaw hs _
  · exact h.insertRaw hs _
  · exact h.openTemplate hs
  · exact h.insertRaw hs _

theorem inHead (h : c.IsReadable) (ht : t.IsReadable) : (c.inHead t).1.IsReadable := by
  unfold Construction.inHead
  dsimp only
  repeat' split
  · exact h.putChar _
  · exact h
  · exact h.putComment ht
  · exact h.mergeRoot ht
  · exact h.startHeadContent ht
  · exact h
  · exact h.pop.again _
  · exact h.pop.withMode _
  · exact h.pop.again _
  · exact h.pop.again _
  · exact h.pop.again _
  · exact h.closeTemplate
  · exact h
  · exact h.pop.again _

theorem startLateHeadContent (h : c.IsReadable) (hs : (Token.startTag s).IsReadable) :
    (c.startLateHeadContent s).1.IsReadable := by
  unfold Construction.startLateHeadContent
  split
  · exact h.startHeadContent hs
  · have hhead : Tag.head.IsReadable := ⟨by decide, by decide⟩
    have hlate : ∀ head, { c with opens := ⟨head, .html, .head⟩ :: c.opens }.IsReadable := fun head =>
      ⟨h.1, List.forall_mem_cons.mpr ⟨hhead, h.2.1⟩, h.2.2⟩
    exact ((hlate _).startHeadContent hs).removeOpen _

theorem inAfterHead (h : c.IsReadable) (ht : t.IsReadable) : (c.inAfterHead t).1.IsReadable := by
  have hmissing : (c.insertBare .body).IsReadable := h.insertBare ⟨by decide, by decide⟩
  unfold Construction.inAfterHead
  dsimp only
  repeat' split
  · exact h.putChar _
  · exact h
  · exact h.putComment ht
  · exact h.mergeRoot ht
  · exact (h.insert ht).noFrameset.withMode _
  · exact (h.insert ht).withMode _
  · exact h.startLateHeadContent ht
  · exact h
  · exact hmissing.again _
  · exact h.closeTemplate
  · exact hmissing.again _
  · exact hmissing.again _
  · exact hmissing.again _
  · exact h
  · exact hmissing.again _

/-! ### Running text -/

theorem charInBody (h : c.IsReadable) (ch : Char) : (c.charInBody ch).IsReadable := by
  unfold Construction.charInBody
  split
  · exact h
  · exact (h.reconstruct.choose h.reconstruct.noFrameset).putChar ch

theorem mergeBody (h : c.IsReadable) (hs : (Token.startTag s).IsReadable) :
    (c.mergeBody s).IsReadable := by
  unfold Construction.mergeBody
  split
  · split
    · exact h
    · exact h.noFrameset.ofArena (h.1.addMissingAttrs _ (isReadable_htmlAttrs hs))
  · exact h

theorem startFrameset (h : c.IsReadable) (hs : (Token.startTag s).IsReadable) :
    (c.startFrameset s).IsReadable := by
  unfold Construction.startFrameset
  split
  · rename_i body _ _
    have hroot : ∀ e ∈ c.opens.getLast?.toList, e ∈ c.opens := fun e he =>
      List.mem_of_getLast? (Option.mem_toList.mp he)
    exact (((h.ofOpens hroot).ofArena (h.1.detach body.id)).insert hs).withMode _
  · exact h

theorem startForm (h : c.IsReadable) (hs : (Token.startTag s).IsReadable) :
    (c.startForm s).IsReadable := by
  have hopen := h.closeOpenParagraph.openElement .html hs.1.isReadable (isReadable_htmlAttrs hs)
  unfold Construction.startForm
  dsimp only
  split
  · exact h
  · generalize c.closeOpenParagraph.openElement .html s.tag (htmlAttrs s) = opened at hopen
    split
    · exact hopen
    · exact hopen

theorem startItem (h : c.IsReadable) (hs : (Token.startTag s).IsReadable) :
    (c.startItem s).IsReadable := by
  unfold Construction.startItem
  dsimp only
  split
  · exact ((h.noFrameset.popImpliedEndsExcept _).popThroughTag _).closeOpenParagraph.insert hs
  · exact h.noFrameset.closeOpenParagraph.insert hs

theorem startButton (h : c.IsReadable) (hs : (Token.startTag s).IsReadable) :
    (c.startButton s).IsReadable :=
  (((h.popImpliedEnds.popThroughTag .button).choose h).reconstruct.insert hs).noFrameset

theorem startNobr (h : c.IsReadable) (hs : (Token.startTag s).IsReadable) : (c.startNobr s).IsReadable :=
  ((h.reconstruct.closeFormatting .nobr).reconstruct.choose h.reconstruct).insertFormatting hs

theorem startTable (h : c.IsReadable) (hs : (Token.startTag s).IsReadable) : (c.startTable s).IsReadable :=
  ((h.choose h.closeOpenParagraph).insert hs).noFrameset.withMode _

theorem startSelect (h : c.IsReadable) (hs : (Token.startTag s).IsReadable) :
    (c.startSelect s).IsReadable := by
  have hinsert := (h.reconstruct.insert hs).noFrameset
  unfold Construction.startSelect
  generalize (c.reconstruct.insert s).noFrameset = inserted at hinsert
  dsimp only
  split <;> exact hinsert.withMode _

theorem startBodyVoid (h : c.IsReadable) (hs : (Token.startTag s).IsReadable) :
    (c.startBodyVoid s).IsReadable :=
  (h.reconstruct.insertVoid hs).choose (h.reconstruct.insertVoid hs).noFrameset

theorem startRuby (h : c.IsReadable) (hs : (Token.startTag s).IsReadable) : (c.startRuby s).IsReadable :=
  (h.choose (h.popImpliedEnds.choose (h.popImpliedEndsExcept .rtc))).insert hs

theorem startRawInBody (h : c.IsReadable) (hs : (Token.startTag s).IsReadable) :
    (c.startRawInBody s).1.IsReadable := by
  unfold Construction.startRawInBody
  split
  · exact h.noFrameset.skipping.insertRaw hs _
  · exact h.closeOpenParagraph.reconstruct.noFrameset.insertRaw hs _
  · exact h.noFrameset.insertRaw hs _
  · exact h.insertRaw hs _

/-- An element of another vocabulary. -/
theorem insertIn (h : c.IsReadable) (space : Space) (hs : (Token.startTag s).IsReadable) {tag : Tag}
    (htag : tag.IsReadable) : (c.insertIn space s tag).IsReadable := by
  unfold Construction.insertIn
  dsimp only
  split
  · exact h.putElement space htag (isReadable_attrsIn space hs)
  · exact h.openElement space htag (isReadable_attrsIn space hs)

theorem startInBody (h : c.IsReadable) (hs : (Token.startTag s).IsReadable) :
    (c.startInBody s).1.IsReadable := by
  have himage : Tag.img.IsNamed := ⟨by decide, by decide +kernel⟩
  unfold Construction.startInBody
  refine either (h.mergeRoot hs) ?_
  refine either (h.startHeadContent hs) ?_
  refine either (h.mergeBody hs) ?_
  refine either (h.startFrameset hs) ?_
  refine either (h.closeOpenParagraph.insert hs) ?_
  refine either ((h.closeOpenParagraph.pop.choose h.closeOpenParagraph).insert hs) ?_
  refine either (h.closeOpenParagraph.insert hs).noFrameset.skipping ?_
  refine either (h.startForm hs) ?_
  refine either (h.startItem hs) ?_
  refine either (h.closeOpenParagraph.insert hs) ?_
  refine either (h.startButton hs) ?_
  refine either (h.closeNestedLink.reconstruct.insertFormatting hs) ?_
  refine either (h.reconstruct.insertFormatting hs) ?_
  refine either (h.startNobr hs) ?_
  refine either (h.reconstruct.insert hs).pushMarker.noFrameset ?_
  refine either (h.startTable hs) ?_
  refine either (h.startBodyVoid hs) ?_
  refine either (h.insertVoid hs) ?_
  refine either (h.closeOpenParagraph.insertVoid hs).noFrameset ?_
  refine either (h.startBodyVoid ⟨himage, hs.2⟩) ?_
  refine either (h.startRawInBody hs) ?_
  refine either (h.startSelect hs) ?_
  refine either ((h.pop.choose h).reconstruct.insert hs) ?_
  refine either (h.startRuby hs) ?_
  refine either (h.insertIn .mathml hs hs.1.isReadable) ?_
  refine either (h.insertIn .svg hs hs.1.isReadable) ?_
  exact either h (h.reconstruct.insert hs)

theorem endBlock (h : c.IsReadable) (tag : Tag) : (c.endBlock tag).IsReadable :=
  (h.popImpliedEnds.popThroughTag tag).choose h

theorem endForm (h : c.IsReadable) : c.endForm.IsReadable := by
  unfold Construction.endForm
  refine choose (h.endBlock .form) ?_
  split
  · exact h
  · exact choose (h.popImpliedEnds.removeOpen _) h

theorem endParagraph (h : c.IsReadable) : c.endParagraph.IsReadable :=
  (h.choose (h.insertBare ⟨by decide, by decide⟩)).closeParagraph

theorem endItem (h : c.IsReadable) (tag : Tag) : (c.endItem tag).IsReadable :=
  ((h.popImpliedEndsExcept tag).popThroughTag tag).choose h

theorem endHeading (h : c.IsReadable) : c.endHeading.IsReadable :=
  (h.popImpliedEnds.popThrough _).choose h

theorem endInBody (h : c.IsReadable) (tag : Tag) : (c.endInBody tag).1.IsReadable := by
  have hbreak : Tag.br.IsNamed := ⟨by decide, by decide +kernel⟩
  unfold Construction.endInBody
  refine either h.closeTemplate ?_
  refine either ((h.withMode .afterBody).choose h) ?_
  refine either (either (h.again .afterBody) h) ?_
  refine either (h.endBlock tag) ?_
  refine either h.endForm ?_
  refine either h.endParagraph ?_
  refine either (h.endItem tag) ?_
  refine either h.endHeading ?_
  refine either (h.closeFormatting tag) ?_
  refine either ((h.endBlock tag).clearToMarker.choose h) ?_
  exact either (h.startBodyVoid ⟨hbreak, List.forall_mem_nil _⟩) (h.closeAnyTag tag)

theorem finishTemplates (h : c.IsReadable) : c.finishTemplates.1.IsReadable :=
  either (h.popThroughTag .template).clearToMarker h

theorem inBody (h : c.IsReadable) (ht : t.IsReadable) : (c.inBody t).1.IsReadable := by
  unfold Construction.inBody
  split
  · exact h.charInBody _
  · exact h.putComment ht
  · exact h.startInBody ht
  · exact h.endInBody _
  · exact either h h.finishTemplates
  · exact h

theorem inText (h : c.IsReadable) (t : Token) : (c.inText t).1.IsReadable := by
  unfold Construction.inText
  split
  · exact h.putChar _
  · exact h.pop.withMode _
  · exact h.pop.again _
  · exact h

/-! ### Tables -/

theorem misplaced (h : c.IsReadable) (ht : t.IsReadable) : (c.misplaced t).1.IsReadable := by
  have hbody := IsReadable.inBody (c := { c with fostering := true }) h ht
  unfold Construction.misplaced
  generalize Construction.inBody { c with fostering := true } t = placed at hbody
  exact hbody

theorem charInTable (h : c.IsReadable) (ht : t.IsReadable) : (c.charInTable t).1.IsReadable :=
  either h (h.misplaced ht)

theorem flushTableText (h : c.IsReadable) : c.flushTableText.IsReadable := by
  have hempty : { c with tableText := [] }.IsReadable := h
  have hkept (text : List Char) :
      (text.foldl Construction.putChar { c with tableText := [] }).IsReadable :=
    List.foldlRecOn text _ hempty fun _ h ch _ => h.putChar ch
  have hmoved (text : List Char) :
      (text.foldl (fun c ch => (Construction.misplaced c (.char ch)).1)
        { c with tableText := [] }).IsReadable :=
    List.foldlRecOn text _ hempty fun _ h ch _ => h.misplaced (t := .char ch) trivial
  exact (hkept _).choose (hmoved _)

theorem inTableText (h : c.IsReadable) (t : Token) : (c.inTableText t).1.IsReadable := by
  unfold Construction.inTableText
  split
  · refine h.choose ?_
    exact h
  · exact h.flushTableText.again _

theorem popToTable (h : c.IsReadable) : c.popToTable.IsReadable := h.popTo _

theorem startInTable (h : c.IsReadable) (hs : (Token.startTag s).IsReadable) :
    (c.startInTable s).1.IsReadable := by
  have hgroup : Tag.colgroup.IsReadable := ⟨by decide, by decide⟩
  have hrows : Tag.tbody.IsReadable := ⟨by decide, by decide⟩
  have hform : Tag.form.IsReadable := ⟨by decide, by decide⟩
  unfold Construction.startInTable
  split
  · exact (h.popToTable.pushMarker.insert hs).withMode _
  · exact (h.popToTable.insert hs).withMode _
  · exact (h.popToTable.insertBare hgroup).again _
  · exact (h.popToTable.insert hs).withMode _
  · exact (h.popToTable.insert hs).withMode _
  · exact (h.popToTable.insert hs).withMode _
  · exact (h.popToTable.insertBare hrows).again _
  · exact (h.popToTable.insertBare hrows).again _
  · exact (h.popToTable.insertBare hrows).again _
  · exact either (h.popThroughTag .table).resetMode h
  · exact h.startHeadContent hs
  · exact h.startHeadContent hs
  · exact h.startHeadContent hs
  · exact either (h.insertVoid hs) (h.misplaced hs)
  · have hput := h.putElement .html hform (isReadable_htmlAttrs hs)
    refine either ?_ h
    generalize c.putElement .html .form (htmlAttrs s) = put at hput
    exact hput
  · exact h.misplaced hs

theorem endInTable (h : c.IsReadable) (tag : Tag) : (c.endInTable tag).1.IsReadable := by
  unfold Construction.endInTable
  split
  · exact (h.popThroughTag .table).resetMode.choose h
  all_goals first
    | exact h.closeTemplate
    | exact h.misplaced trivial
    | exact h

theorem inTable (h : c.IsReadable) (ht : t.IsReadable) : (c.inTable t).1.IsReadable := by
  unfold Construction.inTable
  split
  · exact h.charInTable trivial
  · exact h.putComment ht
  · exact h.startInTable ht
  · exact h.endInTable _
  · exact h.inBody trivial
  · exact h

theorem endCaption (h : c.IsReadable) : c.endCaption.IsReadable :=
  (h.popImpliedEnds.popThroughTag .caption).clearToMarker

theorem inCaption (h : c.IsReadable) (ht : t.IsReadable) : (c.inCaption t).1.IsReadable := by
  unfold Construction.inCaption
  split
  · exact either (either (h.endCaption.again _) h) (h.inBody ht)
  · exact either (either h (either (h.endCaption.withMode _) (h.endCaption.again _)))
      (either h (h.inBody ht))
  · exact h.inBody ht

theorem endColumnGroup (h : c.IsReadable) : c.endColumnGroup.1.IsReadable := either (h.pop.again _) h

theorem inColumnGroup (h : c.IsReadable) (ht : t.IsReadable) : (c.inColumnGroup t).1.IsReadable := by
  unfold Construction.inColumnGroup
  split
  · exact either (h.putChar _) h.endColumnGroup
  · exact h.putComment ht
  · exact either (h.mergeRoot ht)
      (either (h.insertVoid ht) (either (h.startHeadContent ht) h.endColumnGroup))
  · exact either ((h.pop.withMode _).choose h) (either h (either h.closeTemplate h.endColumnGroup))
  · exact h.inBody trivial
  · exact h

theorem popToBodyContext (h : c.IsReadable) : c.popToBodyContext.IsReadable := h.popTo _

theorem popToRowContext (h : c.IsReadable) : c.popToRowContext.IsReadable := h.popTo _

theorem leaveTableBody (h : c.IsReadable) : c.leaveTableBody.1.IsReadable :=
  either (h.popToBodyContext.pop.again _) h

theorem inTableBody (h : c.IsReadable) (ht : t.IsReadable) : (c.inTableBody t).1.IsReadable := by
  have hrow : Tag.tr.IsReadable := ⟨by decide, by decide⟩
  unfold Construction.inTableBody
  split
  · refine either ((h.popToBodyContext.insert ht).withMode _) ?_
    exact either ((h.popToBodyContext.insertBare hrow).again _) (either h.leaveTableBody (h.inTable ht))
  · refine either ((h.popToBodyContext.pop.withMode _).choose h) (either h.leaveTableBody ?_)
    split
    all_goals first | exact h | exact h.inTable ht
  · exact h.inTable ht

theorem leaveRow (h : c.IsReadable) : c.leaveRow.1.IsReadable := either (h.popToRowContext.pop.again _) h

theorem inRow (h : c.IsReadable) (ht : t.IsReadable) : (c.inRow t).1.IsReadable := by
  unfold Construction.inRow
  split
  · refine either ((h.popToRowContext.insert ht).withMode _).pushMarker ?_
    exact either h.leaveRow (h.inTable ht)
  · refine either ((h.popToRowContext.pop.withMode _).choose h) (either h.leaveRow ?_)
    refine either (either h.leaveRow h) ?_
    split
    all_goals first | exact h | exact h.inTable ht
  · exact h.inTable ht

theorem leaveCell (h : c.IsReadable) : c.leaveCell.1.IsReadable :=
  (h.popImpliedEnds.popThrough _).clearToMarker.again _

theorem inCell (h : c.IsReadable) (ht : t.IsReadable) : (c.inCell t).1.IsReadable := by
  unfold Construction.inCell
  split
  · exact either (either h.leaveCell h) (h.inBody ht)
  · refine either (((h.popImpliedEnds.popThroughTag _).clearToMarker.withMode _).choose h) ?_
    refine either (either h.leaveCell h) ?_
    split
    all_goals first | exact h | exact h.inBody ht
  · exact h.inBody ht

/-! ### Selections and templates -/

theorem popIf (h : c.IsReadable) (tag : Tag) : (c.popIf tag).IsReadable := h.pop.choose h

theorem endOptionGroup (h : c.IsReadable) : c.endOptionGroup.IsReadable := (h.pop.choose h).popIf .optgroup

theorem endSelect (h : c.IsReadable) : c.endSelect.IsReadable :=
  (h.popThroughTag .select).resetMode.choose h

theorem inSelect (h : c.IsReadable) (ht : t.IsReadable) : (c.inSelect t).1.IsReadable := by
  unfold Construction.inSelect
  split
  · exact h.choose (h.putChar _)
  · exact h.putComment ht
  · split
    · exact h.mergeRoot ht
    · exact (h.popIf .option).insert ht
    · exact ((h.popIf .option).popIf .optgroup).insert ht
    · exact h.endSelect
    · exact either h.endSelect h
    · exact either h.endSelect h
    · exact either h.endSelect h
    · exact h.startHeadContent ht
    · exact h.startHeadContent ht
    · exact h
  · split
    · exact h.endOptionGroup
    · exact h.popIf .option
    · exact h.endSelect
    · exact h.closeTemplate
    · exact h
  · exact h.inBody trivial
  · exact h

theorem inSelectInTable (h : c.IsReadable) (ht : t.IsReadable) : (c.inSelectInTable t).1.IsReadable := by
  have hleave : (c.popThroughTag .select).resetMode.IsReadable := h.popThroughTag .select
  unfold Construction.inSelectInTable
  split
  · exact either hleave (h.inSelect ht)
  · exact either (either hleave h) (h.inSelect ht)
  · exact h.inSelect ht

theorem turnTemplate (h : c.IsReadable) (mode : Mode) : (c.turnTemplate mode).1.IsReadable := h

theorem inTemplate (h : c.IsReadable) (ht : t.IsReadable) : (c.inTemplate t).1.IsReadable := by
  unfold Construction.inTemplate
  split
  · exact h.inBody ht
  · exact h.inBody ht
  · refine either (h.startHeadContent ht) ?_
    split <;> exact h.turnTemplate _
  · exact h.closeTemplate.choose h
  · exact h.finishTemplates
  · exact h

/-! ### Framesets and the end of the page -/

theorem inAfterBody (h : c.IsReadable) (ht : t.IsReadable) : (c.inAfterBody t).1.IsReadable := by
  unfold Construction.inAfterBody
  split
  · exact either (h.charInBody _) (h.again _)
  · split
    · exact h.putCommentIn _ ht
    · exact h
  · exact either (h.mergeRoot ht) (h.again _)
  · exact either (h.withMode _) (h.again _)
  · exact h

theorem inFrameset (h : c.IsReadable) (ht : t.IsReadable) : (c.inFrameset t).1.IsReadable := by
  unfold Construction.inFrameset
  split
  · exact either (h.putChar _) h
  · exact h.putComment ht
  · split
    · exact h.mergeRoot ht
    · exact h.insert ht
    · exact h.insertVoid ht
    · exact h.startHeadContent ht
    · exact h
  · exact either (h.pop.choose (h.pop.withMode _)) h
  · exact h

theorem inAfterFrameset (h : c.IsReadable) (ht : t.IsReadable) : (c.inAfterFrameset t).1.IsReadable := by
  unfold Construction.inAfterFrameset
  split
  · exact either (h.putChar _) h
  · exact h.putComment ht
  · split
    · exact h.mergeRoot ht
    · exact h.startHeadContent ht
    · exact h
  · exact (h.withMode .afterAfterFrameset).choose h
  · exact h

theorem inAfterAfterBody (h : c.IsReadable) (ht : t.IsReadable) : (c.inAfterAfterBody t).1.IsReadable := by
  unfold Construction.inAfterAfterBody
  split
  · exact either (h.charInBody _) (h.again _)
  · exact h.putCommentIn _ ht
  · exact either (h.mergeRoot ht) (h.again _)
  · exact h.again _
  · exact h

theorem inAfterAfterFrameset (h : c.IsReadable) (ht : t.IsReadable) :
    (c.inAfterAfterFrameset t).1.IsReadable := by
  unfold Construction.inAfterAfterFrameset
  split
  · exact (h.charInBody _).choose h
  · exact h.putCommentIn _ ht
  · split
    · exact h.mergeRoot ht
    · exact h.startHeadContent ht
    · exact h
  · exact h

/-! ### The step -/

theorem applyMode (h : c.IsReadable) (ht : t.IsReadable) : (c.applyMode t).1.IsReadable := by
  unfold Construction.applyMode
  split
  · exact h.inInitial ht
  · exact h.inBeforeHtml ht
  · exact h.inBeforeHead ht
  · exact h.inHead ht
  · exact h.inAfterHead ht
  · exact h.inBody ht
  · exact h.inText t
  · exact h.inTable ht
  · exact h.inTableText t
  · exact h.inCaption ht
  · exact h.inColumnGroup ht
  · exact h.inTableBody ht
  · exact h.inRow ht
  · exact h.inCell ht
  · exact h.inSelect ht
  · exact h.inSelectInTable ht
  · exact h.inTemplate ht
  · exact h.inAfterBody ht
  · exact h.inFrameset ht
  · exact h.inAfterFrameset ht
  · exact h.inAfterAfterBody ht
  · exact h.inAfterAfterFrameset ht

theorem leaveIsland (h : c.IsReadable) : c.leaveIsland.IsReadable :=
  h.ofOpens fun _ he => List.mem_of_mem_tail ((List.dropWhile_sublist _).subset he)

/-- The elements that an end tag in an island leaves open were open. -/
theorem mem_of_foreignEnd {name : String} {opens rest : List OpenElement}
    (h : foreignEnd name opens = .close rest) : ∀ e ∈ rest, e ∈ opens := by
  fun_induction foreignEnd name opens with
  | case1 => cases h
  | case2 => cases h
  | case3 e below _ hsame =>
    cases h
    exact fun x hx => List.mem_cons_of_mem e hx
  | case4 => cases h
  | case5 => cases h
  | case6 e below _ _ _ _ _ ih => exact fun x hx => List.mem_cons_of_mem e (ih h x hx)
  | case7 => cases h

theorem inForeign (h : c.IsReadable) (ht : t.IsReadable) : (c.inForeign t).1.IsReadable := by
  unfold Construction.inForeign
  split
  · exact either (h.putChar _) ((h.choose h.noFrameset).putChar _)
  · exact h.putComment ht
  · refine either h.leaveIsland ?_
    split
    · exact h.insertIn _ ht (isReadable_tagIn _ ht.1)
    · exact h
  · split
    · rename_i opens hclose
      exact h.ofOpens (mem_of_foreignEnd hclose)
    · exact h
    · exact h.applyMode ht
  · exact h

theorem consider (h : c.IsReadable) (n : Nat) (ht : t.IsReadable) :
    (Construction.consider n c t).1.IsReadable := by
  induction n generalizing c with
  | zero => exact h
  | succ n ih =>
    have hnext : (if c.isForeign t then c.inForeign t else c.applyMode t).1.IsReadable :=
      either (h.inForeign ht) (h.applyMode ht)
    unfold Construction.consider
    generalize (if c.isForeign t then c.inForeign t else c.applyMode t) = r at hnext
    obtain ⟨c', next⟩ := r
    cases next with
    | again => exact ih hnext
    | done => exact hnext
    | read mode => exact hnext
    | scriptEnd => exact hnext

/-- The construction stays readable with each token. -/
theorem accept (h : c.IsReadable) (ht : t.IsReadable) : (c.accept t).1.IsReadable := by
  have hclear : { c with skipsLineFeed := false }.IsReadable := h
  unfold Construction.accept
  dsimp only
  split
  · exact h
  · exact hclear.acceptDoctype ht
  · split
    · exact h
    · exact hclear.consider _ ht
  · exact hclear.consider _ ht

end Construction.IsReadable

/-! ### The parser -/

/-- All that the parser holds can be read as it will be written. -/
def Parser.IsReadable (p : Parser) : Prop := p.lexer.IsReadable ∧ p.construction.IsReadable

namespace Parser

variable {p : Parser}

theorem isReadable_start : start.IsReadable := by
  refine ⟨Lexer.isReadable_start, fun cell hcell => ?_, List.forall_mem_nil _, List.forall_mem_nil _⟩
  rw [Array.mem_singleton.mp hcell]
  trivial

theorem IsReadable.accept (h : p.IsReadable) {t : Token} (ht : t.IsReadable) :
    (p.accept t).IsReadable := by
  have haccept := h.2.accept ht
  unfold Parser.accept
  generalize p.construction.accept t = r at haccept
  obtain ⟨c, answer⟩ := r
  cases answer with
  | readOn => exact ⟨h.1, haccept⟩
  | readAs mode => exact ⟨h.1.setMode mode, haccept⟩
  | readAfresh => exact ⟨h.1, haccept⟩

theorem IsReadable.acceptAll (h : p.IsReadable) {ts : List Token} (hts : ∀ t ∈ ts, t.IsReadable) :
    (ts.foldl Parser.accept p).IsReadable :=
  List.foldlRecOn ts _ h fun _ h t ht => h.accept (hts t ht)

theorem IsReadable.step (h : p.IsReadable) (ch : Char) : (p.step ch).IsReadable := by
  unfold Parser.step
  split
  · exact h
  · have hstep := h.1.step p.construction.isInIsland ch
    exact IsReadable.acceptAll (p := { p with lexer := _, isFresh := false }) ⟨hstep.lexer, h.2⟩
      hstep.tokens

theorem IsReadable.steps (h : p.IsReadable) (cs : List Char) : (cs.foldl Parser.step p).IsReadable :=
  List.foldlRecOn cs _ h fun _ h c _ => h.step c

end Parser

/-! ### The finished tree -/

/-- An element as a page can have it: it can be read as it is written, and it is a style sheet only under
the name of one. -/
structure Element.IsRead (e : Element) : Prop where
  readable : e.IsReadable
  style : Text.lower e.tag = "style" → e.tag = "style"

theorem Arena.IsReadable.data {a : Arena} (h : a.IsReadable) (id : CellId) : (a.data id).IsReadable := by
  unfold Arena.data Arena.cell
  by_cases hid : id < a.cells.size
  · rw [Array.getD_eq_getD_getElem?, Array.getElem?_eq_getElem hid]
    exact h _ (Array.getElem_mem hid)
  · rw [Array.getD_eq_getD_getElem?, Array.getElem?_eq_none (Nat.le_of_not_lt hid)]
    trivial

theorem Arena.IsReadable.finish {a : Arena} (h : a.IsReadable) {done : Array Node}
    (hdone : ∀ id, (done.getD id default).Sound Element.IsRead) (id : CellId) :
    (a.finish done id).Sound Element.IsRead := by
  have hdata := h.data id
  unfold Arena.finish
  split <;> rename_i hcell <;> rw [hcell] at hdata
  · trivial
  · exact hdata
  · exact hdata
  · trivial
  · rename_i space tag attrs
    refine ⟨⟨⟨hdata.1.text, hdata.2⟩, hdata.1.style⟩, Node.soundAll_iff.mpr fun n hn => ?_⟩
    obtain ⟨child, -, rfl⟩ := List.mem_map.mp hn
    exact hdone child

theorem Arena.IsReadable.toDocument {a : Arena} (h : a.IsReadable) :
    Node.SoundAll Element.IsRead a.toDocument.children := by
  have hfold : ∀ (order : List CellId) (done : Array Node),
      (∀ id, (done.getD id default).Sound Element.IsRead) →
      ∀ id, ((order.foldl (fun done id => done.setIfInBounds id (a.finish done id)) done).getD id
        default).Sound Element.IsRead := by
    intro order done hdone
    refine List.foldlRecOn (motive := fun done : Array Node =>
      ∀ id, (done.getD id default).Sound Element.IsRead) order _ hdone fun done hdone next _ id => ?_
    have hnext := h.finish hdone next
    have hid := hdone id
    rw [Array.getD_eq_getD_getElem?] at hid ⊢
    rw [Array.getElem?_setIfInBounds]
    split
    · split
      · exact hnext
      · trivial
    · exact hid
  refine Node.soundAll_iff.mpr fun n hn => ?_
  obtain ⟨child, -, rfl⟩ := List.mem_map.mp hn
  refine hfold _ _ (fun id => ?_) child
  rw [Array.getD_eq_getD_getElem?, Array.getElem?_replicate]
  split <;> trivial

/-- The page that a text says can be read again as it is written. -/
theorem Document.sound_ofText (text : String) :
    Node.SoundAll Element.IsRead (Document.ofText text).children := by
  have hread := Parser.isReadable_start.steps text.toList
  exact (hread.acceptAll hread.1.finish).2.1.toDocument

end PageBlocks.Markup
