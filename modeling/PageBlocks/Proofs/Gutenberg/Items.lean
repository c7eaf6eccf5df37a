import PageBlocks.Proofs.Emit.ItemReader
import PageBlocks.Proofs.Emit.WrittenTag
import PageBlocks.Proofs.Gutenberg.Kinds
import PageBlocks.Proofs.Json.Fields

/-!
What Gutenberg blocks show. A block says some things twice, in its attributes and in its markup: the level
and the anchor of a heading, the attachment of an image. Both are read and must say the same. Values in
the markup come back whatever characters they have, as the mark of its escapes is escaped itself.
-/
namespace PageBlocks.Gutenberg

open Emit Image Markup.Parser

/-! ### How a block is read -/

/-- The first tag of the markup of a block, and what follows it. -/
def Block.firstTag (b : Block) : WrittenTag × List Char := WrittenTag.read '>' b.html.toList

/-- The tag behind the first one. -/
def Block.nextTag (b : Block) : WrittenTag := (WrittenTag.read '>' b.firstTag.2).1

/-- What stands in the element that the markup of a block is. -/
def Block.content? (b : Block) : Option String :=
  (b.firstTag.2.dropSuffix? (endText b.firstTag.1.name)).map String.ofList

/-- The name of the block of a captured element. -/
def nameOf : CaptureKind → String
  | .paragraph => "core/paragraph"
  | .list _ => "core/list"
  | .table => "core/table"
  | .blockquote => "core/quote"

/-- The number of the attachment that the class of an image names. -/
def attachmentOf? (classes : String) : Option Nat :=
  let lead := "wp-image-".toList
  if lead.isPrefixOf classes.toList then
    numeral? (String.ofList (classes.toList.drop lead.length))
  else none

/-- How blocks are read. -/
def reader : ItemReader Block where
  isItem b := "core/".toList <+: b.name.toList
  level? b :=
    if b.name = "core/heading" then
      agreed ((b.attrs.lookup "level").bind fun level => level.asNumber?.bind HeadingLevel.ofNat?)
        (HeadingLevel.ofTag? b.firstTag.1.name)
    else none
  text? b :=
    if b.name = "core/heading" then
      some (unescape markupEscapes (String.ofList (b.firstTag.2.takeWhile (· != '<'))))
    else none
  anchor? b :=
    if b.name = "core/heading" then
      agreed ((b.attrs.lookup "anchor").mapM Json.asText?)
        (some (b.firstTag.1.value? markupEscapes "id"))
    else none
  url? b := if b.name = "core/image" then b.nextTag.value? markupEscapes "src" else none
  attachment? b :=
    if b.name = "core/image" then
      agreed ((b.attrs.lookup "id").mapM Json.asNumber?)
        ((b.nextTag.value? markupEscapes "class").mapM attachmentOf?)
    else none
  markup? b := if b.name = "core/html" then some b.html else none
  part
    | .table, html => html.outer
    | _, html => html.inner
  captured? kind b := if b.name = nameOf kind then b.content? else none
  plain? b := if b.name = "core/paragraph" then paragraphText? b.html else none
  valueComesBack _ := True
  markupComesBack _ := True
  partComesBack _ _ := True

theorem isName_tag (level : HeadingLevel) : isName level.tag = true := by
  rcases level.value_cases with rfl | rfl | rfl | rfl | rfl | rfl <;> decide +kernel

/-! ### Headings -/

/-- The attributes of the element of a heading. -/
def headingAttrs (anchor : Option String) : List (String × String) :=
  ("class", "wp-block-heading") :: (anchor.map fun v => ("id", v)).toList

theorem isName_headingAttrs (anchor : Option String) : ∀ a ∈ headingAttrs anchor, isName a.1 = true := by
  cases anchor <;> simp [headingAttrs] <;> decide

theorem toList_headingBlock (level : HeadingLevel) (text : String) (anchor : Option String) :
    (headingBlock level text anchor).html.toList =
      startText escapeValueChar level.tag (headingAttrs anchor) ++
        ((escapeText text).toList ++ endText level.tag) := by
  have hclass : escapeValue "wp-block-heading" = "wp-block-heading" := by decide +kernel
  have hhtml : (headingBlock level text anchor).html =
      element level.tag (escapeValue "wp-block-heading") (optAttr "id" anchor) (escapeText text) := by
    rw [hclass]
    rfl
  rw [hhtml, toList_element level.tag "wp-block-heading" (escapeText text) (toList_optAttr "id" anchor)]
  rfl

/-- The attributes of the element of an image. -/
def imageAttrs (i : Placed) : List (String × String) :=
  [("src", i.url), ("alt", i.source.altText)] ++ (i.source.title.map fun v => ("title", v)).toList ++
    (i.attachmentId.map fun id => ("class", "wp-image-" ++ toString id.toNat)).toList

/-- The digits of a number are written as they are. -/
theorem escaped_digits (n : Nat) :
    (Nat.toDigits 10 n).flatMap escapeValueChar = Nat.toDigits 10 n := by
  have hself : ∀ c ∈ Nat.toDigits 10 n, escapeValueChar c = [c] := by
    intro c hc
    have hdigit := Json.isDigit_of_mem_digits hc
    unfold escapeValueChar escapeTextChar
    split
    · cases hdigit
    · split
      · cases hdigit
      · cases hdigit
      · cases hdigit
      · rfl
  rw [List.flatMap_congr hself, List.flatMap_singleton']

theorem toList_imageBlock (i : Placed) :
    (imageBlock i).html.toList =
      startText escapeValueChar "figure" [("class", "wp-block-image size-full")] ++
        ('<' :: ("img".toList ++ (Markup.attrsText escapeValueChar (imageAttrs i) ++ ['/'])) ++
          '>' :: "</figure>".toList) := by
  have hfigure : startText escapeValueChar "figure" [("class", "wp-block-image size-full")] =
      "<figure class=\"wp-block-image size-full\">".toList := by decide +kernel
  rw [hfigure]
  -- which attributes there are decides how the pieces of text between the values join
  cases hattachment : i.attachmentId <;> cases htitle : i.source.title <;>
    simp [imageBlock, Block.simple, Block.html, imageAttrs, hattachment, htitle, optAttr,
      escapeValue, Markup.attrsText, Markup.attrText, escaped_digits] <;>
    rfl

theorem isName_imageAttrs (i : Placed) : ∀ a ∈ imageAttrs i, isName a.1 = true := by
  have hplain : isName "src" = true ∧ isName "alt" = true ∧ isName "title" = true ∧
      isName "class" = true := by decide
  obtain ⟨hsrc, halt, htitle, hclass⟩ := hplain
  intro a ha
  simp only [imageAttrs, List.mem_append, List.mem_cons, List.not_mem_nil, or_false,
    Option.mem_toList, Option.map_eq_some_iff] at ha
  rcases ha with ((rfl | rfl) | ⟨title, -, rfl⟩) | ⟨id, -, rfl⟩
  · exact hsrc
  · exact halt
  · exact htitle
  · exact hclass

end PageBlocks.Gutenberg
