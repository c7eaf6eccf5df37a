import PageBlocks.Page.Landmarks
import PageBlocks.Page.Styles
import PageBlocks.Proofs.Page.ReadText

/-!
Elements that hold a text. A paragraph, a list with one item or a quotation with a class attribute, written
as the markup of a page, is read as that element alone, whatever the text and the classes are, and yields
one block.
-/
namespace PageBlocks

open Markup Parser

/-! ### Pages in one piece -/

namespace Page

theorem takeFirst?_eq_none {p : Node → Bool} {ns : List Node} (h : ∀ n ∈ ns, p n = false) :
    takeFirst? p ns = none := by
  have hdrop : ns.dropWhile (fun n => !p n) = [] :=
    List.dropWhile_eq_nil_iff.mpr fun n hn => by rw [h n hn]; rfl
  rw [takeFirst?, List.span_eq_takeWhile_dropWhile, hdrop]

/-- A page without style sheets, header and footer in its body stays as it is. -/
theorem parts_ofBody {ns : List Node} (hstyles : withoutStylesIn ns = ns)
    (hmarks : ∀ l : Landmark, ∀ n ∈ ns, l.marks n = false) (wanted : Bool) :
    Parts.of wanted (withoutStyles (Document.ofBody ns)) = .whole (Document.ofBody ns) := by
  have hpage : withoutStyles (Document.ofBody ns) = Document.ofBody ns := by
    simp [withoutStyles, Document.ofBody, withoutStylesIn, withoutStyles?, hstyles, isStyle]
  have htake : ∀ l : Landmark, takeLandmark l (Document.ofBody ns) = (none, Document.ofBody ns) := by
    intro l
    rw [takeLandmark, bodyChildren_ofBody, takeFirst?_eq_none (hmarks l)]
  rw [hpage]
  cases wanted with
  | false => rfl
  | true =>
    rw [Parts.of, if_pos rfl, Parts.split, htake]
    dsimp only
    rw [htake]
    rfl

end Page

/-! ### Elements around a text -/

/-- A text that is escaped and prepared is read where text can stand. -/
theorem Preparation.reads_prepared (p : Preparation) {l : Layer} {ls : List Layer} {text : String}
    (htext : isKeptText text = true) (hne : text ≠ "")
    (htakes : Tag.takesText (Layer.tags (l :: ls)) = true) (hdone : l.done = []) :
    Reads ((escapeText text).toList.flatMap p.prepareChar) (l :: ls)
      ({ l with done := [.text (p.readText text)] } :: ls) := by
  have hkept : (text.toList.map p.readChar).all isKept = true := by
    have hread := p.isKeptText_readText htext
    rwa [isKeptText, Preparation.readText, String.toList_ofList] at hread
  have hwritten := p.writesAll_prepared Markup.escapesText Preparation.writesAscii_escapeTextChar text.toList
  have hreads : Reads _ (l :: ls) ({ l with done := _ } :: ls) := reads_written hwritten hkept (.inl htakes)
  have hsome : p.readText text ≠ "" := by
    simpa [Preparation.readText] using hne
  have hfold := Node.foldl_pushChar_nil hsome
  rw [Preparation.readText, String.toList_ofList] at hfold
  rw [hdone, hfold] at hreads
  rwa [escapeText, String.toList_ofList]

namespace CaptureKind

/-- The tag of the elements of a kind. -/
def tag : CaptureKind → String
  | .paragraph => "p"
  | .list ordered => if ordered then "ol" else "ul"
  | .table => "table"
  | .blockquote => "blockquote"

/-- The content of an element of a kind that holds a text. -/
def holding : CaptureKind → String → List Node
  | .list _, text => [.element ⟨.html, "li", []⟩ [.text text]]
  | _, text => [.text text]

/-- The markup of an element of a kind with a class attribute that holds a text. -/
def heldMarkup (kind : CaptureKind) (classes text : String) : String :=
  Gutenberg.element kind.tag (Emit.escapeValue classes) "" (Node.markupOf (kind.holding text))

/-- The element of a kind with a class attribute. -/
def classed (kind : CaptureKind) (classes : String) : Element :=
  ⟨.html, kind.tag, attrsOf kind.tag [("class", classes)]⟩

variable {kind : CaptureKind}

/-- The elements can begin a page and hold text, and their tags say what they are. -/
theorem tag_spec (h : kind ≠ .table) :
    isTagName kind.tag.toList = true ∧ kind.tag.toList.all Text.isAscii = true ∧
      Tag.begins [.body, .html] (.ofString kind.tag) = true ∧
      (Tag.ofString kind.tag).sort.isOfText = true ∧
      Tag.takesText [.ofString kind.tag, .body, .html] = true ∧
      Role.ofTag (Text.lower kind.tag) = .capture kind := by
  cases kind with
  | paragraph => decide +kernel
  | list ordered => cases ordered <;> decide +kernel
  | table => exact absurd rfl h
  | blockquote => decide +kernel

theorem get?_classed (classes key : String) :
    (kind.classed classes).get? key = [("class", classes)].lookup key := get?_attrsOf ..

/-! ### Reading -/

/-- The content of an element that holds a text is read inside the element. -/
theorem reads_holding (p : Preparation) (h : kind ≠ .table) {text : String}
    (htext : isKeptText text = true) (hne : text ≠ "") (own : Attributes) :
    Reads ((Node.markupOf (kind.holding text)).toList.flatMap p.prepareChar)
      (⟨.ofString kind.tag, own, []⟩ :: bodyLayers [])
      (⟨.ofString kind.tag, own, kind.holding (p.readText text)⟩ :: bodyLayers []) := by
  obtain ⟨-, -, hbegins, -, htakes, -⟩ := tag_spec h
  have hplain : ∀ value, Node.markupOf [.text value] = escapeText value := by
    intro value
    simp [Node.markupOf, Node.writeAll, Node.write]
  have hself : Reads ((Node.markupOf [.text text]).toList.flatMap p.prepareChar)
      (⟨.ofString kind.tag, own, []⟩ :: bodyLayers [])
      (⟨.ofString kind.tag, own, [.text (p.readText text)]⟩ :: bodyLayers []) := by
    rw [hplain]
    exact p.reads_prepared htext hne htakes rfl
  cases kind with
  | paragraph => exact hself
  | blockquote => exact hself
  | table => exact absurd rfl h
  | list ordered =>
    have hitem : isWritable "li" [] = true ∧
        Tag.begins [.ofString (CaptureKind.list ordered).tag, .body, .html] (.ofString "li") = true ∧
        Tag.takesText [.ofString "li", .ofString (CaptureKind.list ordered).tag, .body, .html] = true := by
      cases ordered <;> decide +kernel
    obtain ⟨hwritable, hbeginsItem, htakesItem⟩ := hitem
    have hmarkup : (Node.markupOf [.element ⟨.html, "li", []⟩ [.text text]]).toList =
        startText Emit.escapeValueChar "li" [] ++ ((escapeText text).toList ++ endText "li") := by
      simp [Node.markupOf, Node.writeAll, Node.write, Element.isVoid, voidTags, Element.hasRawText,
        rawTextTags, Element.startTag, Element.writtenAttrs, Element.endTag, startText, endText,
        attrsText]
    have hascii : (startText Emit.escapeValueChar "li" []).all Text.isAscii = true ∧
        (endText "li").all Text.isAscii = true := by decide +kernel
    rw [holding, hmarkup, List.flatMap_append, List.flatMap_append, p.flatMap_prepareChar hascii.1,
      p.flatMap_prepareChar hascii.2]
    exact reads_element ⟨.ofString (CaptureKind.list ordered).tag, own, []⟩ (bodyLayers [])
      Emit.escapesValue hwritable hbeginsItem (.inside hbegins .body)
      (p.reads_prepared htext hne htakesItem rfl)

/-- The parts of the markup that are written in ASCII need no preparation. -/
theorem toList_prepare_heldMarkup (p : Preparation) (h : kind ≠ .table) (classes text : String) :
    (p.prepare (heldMarkup kind classes text)).toList =
      oneAttrText kind.tag "class" ((Emit.escapeValue classes).toList.flatMap p.prepareChar) ++
        ((Node.markupOf (kind.holding text)).toList.flatMap p.prepareChar ++ endText kind.tag) := by
  obtain ⟨-, hascii, -⟩ := tag_spec h
  have hparts : (heldMarkup kind classes text).toList =
      '<' :: (kind.tag.toList ++ " class=\"".toList) ++ (Emit.escapeValue classes).toList ++
        "\">".toList ++ (Node.markupOf (kind.holding text)).toList ++ endText kind.tag := by
    simp [heldMarkup, Gutenberg.element, endText]
  have hopen : ('<' :: (kind.tag.toList ++ " class=\"".toList)).all Text.isAscii = true := by
    rw [List.all_cons, List.all_append, hascii]
    decide
  have hclose : (endText kind.tag).all Text.isAscii = true := by
    rw [endText, List.cons_append, List.cons_append, List.all_cons, List.all_cons, List.all_append, hascii]
    decide
  have hmid : "\">".toList.all Text.isAscii = true := by decide
  rw [p.toList_prepare, hparts, List.flatMap_append, List.flatMap_append, List.flatMap_append,
    List.flatMap_append, p.flatMap_prepareChar hopen, p.flatMap_prepareChar hmid,
    p.flatMap_prepareChar hclose]
  simp [oneAttrText]

/-- The markup of an element that holds a text is read as that element alone. -/
theorem read_heldMarkup (p : Preparation) (h : kind ≠ .table) {classes text : String}
    (hclasses : isKeptText classes = true) (htext : isKeptText text = true) (hne : text ≠ "") :
    p.read (heldMarkup kind classes text) =
      Document.ofBody [.element (kind.classed (p.readText classes)) (kind.holding (p.readText text))] := by
  obtain ⟨hname, -, hbegins, hsort, -, -⟩ := tag_spec h
  have hchars := toList_prepare_heldMarkup p h classes text
  have hwritten : WritesAll (· = '"') ((Emit.escapeValue classes).toList.flatMap p.prepareChar)
      (p.readText classes).toList := by
    rw [p.toList_readText, Emit.escapeValue, String.toList_ofList]
    exact p.writesAll_prepared Emit.escapesValue Preparation.writesAscii_escapeValueChar classes.toList
  have hvalue : (p.readText classes).toList.all isKept = true := p.isKeptText_readText hclasses
  have hkey : isAttrName "class".toList = true := by decide
  have hreads := reads_oneAttr ⟨.body, [], []⟩ [rootLayer] hname hkey hwritten hvalue hbegins .body
    (reads_holding p h htext hne _)
  have hpage := ofText_of_oneAttr hname hkey hwritten hvalue (by rw [hsort, Bool.true_or]) hreads
  rwa [← hchars, String.ofList_toList] at hpage

/-! ### Blocks -/

/-- The content without its tags is the text. -/
theorem textOf_holding (kind : CaptureKind) (text : String) : Node.textOf (kind.holding text) = text := by
  cases kind <;> simp [holding, Node.textOf, Node.appendTexts, Node.appendText]

/-- The element is captured, and no other part of the page counts. -/
theorem bodyBlocks_ofBody (h : kind ≠ .table) (wanted : Bool) (stamps : Stamps) (classes text : String)
    (hblank : Text.isAllBlank text = false) :
    (Page.Parts.of wanted (Page.withoutStyles
      (Document.ofBody [.element (kind.classed classes) (kind.holding text)]))).bodyBlocks stamps =
      [captureBlock stamps kind (kind.classed classes) (kind.holding text)] := by
  obtain ⟨-, -, -, -, -, hrole⟩ := tag_spec h
  have htags : kind.tag ≠ "style" ∧ kind.tag ≠ "header" ∧ kind.tag ≠ "footer" := by
    cases kind with
    | list ordered => cases ordered <;> decide
    | _ => decide
  have hstyles : Page.withoutStylesIn [.element (kind.classed classes) (kind.holding text)] =
      [.element (kind.classed classes) (kind.holding text)] := by
    have hstyle : Page.isStyle (kind.classed classes) = false := beq_false_of_ne htags.1
    have hinside : Page.withoutStylesIn (kind.holding text) = kind.holding text := by
      cases kind <;> rfl
    simp [Page.withoutStylesIn, Page.withoutStyles?, hstyle, hinside]
  have hmarks : ∀ l : Page.Landmark, ∀ n ∈ [Node.element (kind.classed classes) (kind.holding text)],
      l.marks n = false := by
    intro l n hn
    obtain rfl := List.mem_singleton.mp hn
    have htag : (kind.tag == l.tag) = false := by
      cases l with
      | header => exact beq_false_of_ne htags.2.1
      | footer => exact beq_false_of_ne htags.2.2
    rw [Page.Landmark.marks, get?_classed]
    exact (Bool.or_false _).trans htag
  have hyields : (Node.element (kind.classed classes) (kind.holding text)).yields stamps true =
      [captureBlock stamps kind (kind.classed classes) (kind.holding text)] := by
    rw [Node.yields, classed, hrole, textOf_holding, hblank]
    cases kind <;> rfl
  rw [Page.parts_ofBody hstyles hmarks, Page.Parts.bodyBlocks, Page.Parts.whole, Document.blocks,
    bodyChildren_ofBody, blocksIn_eq, Node.yieldsAll, Node.yieldsAll, hyields, List.append_nil]

end CaptureKind

end PageBlocks
