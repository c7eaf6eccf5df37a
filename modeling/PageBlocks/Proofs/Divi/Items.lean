import PageBlocks.Emit.Divi
import PageBlocks.Proofs.Emit.ItemReader
import PageBlocks.Proofs.Emit.WrittenTag

/-!
What Divi modules show. A module is one shortcode around a content; its text gives back the tag with its
attributes and the content as they were written. Values and literal content in which no escape sequence
of shortcodes stands come back as they were.
-/
namespace PageBlocks.Divi

open Emit Image Shortcode

/-! ### How a module is read -/

/-- The tag and the content of a shortcode, if the text is one. -/
def readModule? (text : String) : Option (WrittenTag × String) :=
  let (tag, rest) := WrittenTag.read ']' text.toList
  if text.toList.head? = some '[' then
    (rest.dropSuffix? ("[/" ++ tag.name ++ "]").toList).map fun content =>
      (tag, String.ofList content)
  else none

/-- The tags of modules. -/
def moduleTags : List String := ["et_pb_heading", "et_pb_image", "et_pb_text", "et_pb_code"]

/-- The opening of a module with a tag. -/
def opening? (tag text : String) : Option WrittenTag :=
  ((readModule? text).map Prod.fst).filter fun found => found.name == tag

/-- The content of a shortcode with a tag. -/
def inside? (tag text : String) : Option String :=
  ((readModule? text).filter fun found => found.1.name == tag).map Prod.snd

/-- No shortcode begins or ends in a content. -/
def IsLiteral (content : String) : Prop := '[' ∉ content.toList ∧ ']' ∉ content.toList

/-- How modules are read. A module is one shortcode with its tag; unless it shows text, whose markup
stands in it as it is, it has no other shortcode in it. All that stands in the module of a text is its
markup. -/
def reader : ItemReader String where
  isItem text :=
    ∃ found ∈ readModule? text, found.1.name ∈ moduleTags ∧
      (found.1.name = "et_pb_text" ∨ IsLiteral found.2)
  level? text :=
    ((opening? "et_pb_heading" text).bind (·.value? attrEscapes "title_level")).bind
      HeadingLevel.ofTag?
  text? text := (opening? "et_pb_heading" text).bind (·.value? attrEscapes "title")
  anchor? text := (opening? "et_pb_heading" text).map (·.value? attrEscapes "module_id")
  url? text := (opening? "et_pb_image" text).bind (·.value? attrEscapes "src")
  attachment? text :=
    (opening? "et_pb_image" text).bind fun found =>
      (found.value? attrEscapes "attachment_id").mapM numeral?
  markup? text := (inside? "et_pb_code" text).map (unescape literalEscapes)
  part _ html := html.outer
  captured?
    | .paragraph, text | .blockquote, text => inside? "et_pb_text" text
    | .table, text | .list _, text => (inside? "et_pb_code" text).map (unescape literalEscapes)
  plain? text := (inside? "et_pb_text" text).bind paragraphText?
  valueComesBack := IsClear attrEscapes
  markupComesBack := IsClear literalEscapes
  partComesBack
    | .paragraph, _ | .blockquote, _ => True
    | .table, markup | .list _, markup => IsClear literalEscapes markup

theorem toList_around (code : Shortcode) (content : String) :
    (code.around content).toList =
      '[' :: (code.tag.toList ++ (Markup.attrsText attrChar code.attrs ++ [])) ++
        ']' :: (content.toList ++ ("[/" ++ code.tag ++ "]").toList) := by
  have hattrs : (String.join (code.attrs.map writtenAttr)).toList =
      Markup.attrsText attrChar code.attrs := by
    simp [Markup.attrsText, Markup.attrText, writtenAttr, attrText, Function.comp_def,
      List.flatMap_def]
  simp [around, opening, hattrs]

/-- A shortcode whose tag and attributes have plain names. -/
def IsPlain (code : Shortcode) : Prop :=
  isName code.tag = true ∧ ∀ a ∈ code.attrs, isName a.1 = true

theorem IsPlain.withAttr {code : Shortcode} (h : IsPlain code) {name : String}
    (hname : isName name = true) (value : String) : IsPlain (code.withAttr name value) := by
  refine ⟨h.1, fun a ha => ?_⟩
  rcases List.mem_append.mp ha with ha | ha
  · exact h.2 a ha
  · obtain rfl := List.mem_singleton.mp ha
    exact hname

theorem IsPlain.withAttr? {code : Shortcode} (h : IsPlain code) {name : String}
    (hname : isName name = true) (value : Option String) : IsPlain (code.withAttr? name value) := by
  cases value with
  | none => exact h
  | some value => exact h.withAttr hname value

theorem isPlain_element {tag : String} (htag : isName tag = true) (version : String) :
    IsPlain (element tag version) := by
  refine ⟨htag, ?_⟩
  simp only [element, List.forall_mem_cons]
  decide

/-- What is written as literal content is no shortcode. -/
theorem isLiteral_literal (content : String) : IsLiteral (literal content) := by
  have hchar : ∀ c, '[' ∉ literalChar c ∧ ']' ∉ literalChar c := by
    intro c
    unfold literalChar
    split
    · decide
    · decide
    · rename_i hopen hclose
      simp only [List.mem_singleton]
      exact ⟨fun h => hopen h.symm, fun h => hclose h.symm⟩
  rw [IsLiteral, literal, String.toList_ofList]
  exact ⟨notMem_escaped (fun c => (hchar c).1) _, notMem_escaped (fun c => (hchar c).2) _⟩

/-- The shortcode of a heading. -/
def headingCode (version : String) (level : HeadingLevel) (text : String) (anchor : Option String) :
    Shortcode :=
  (((element "et_pb_heading" version).withAttr "title" text).withAttr "title_level" level.tag).withAttr?
    "module_id" anchor

theorem tag_headingCode (version : String) (level : HeadingLevel) (text : String)
    (anchor : Option String) : (headingCode version level text anchor).tag = "et_pb_heading" := by
  cases anchor <;> rfl

theorem isPlain_headingCode (version : String) (level : HeadingLevel) (text : String)
    (anchor : Option String) : IsPlain (headingCode version level text anchor) :=
  (((isPlain_element (by decide) version).withAttr (by decide) text).withAttr (by decide)
    level.tag).withAttr? (by decide) anchor

/-- The shortcode of an image. -/
def imageCode (version : String) (i : Placed) : Shortcode :=
  ((((element "et_pb_image" version).withAttr "src" i.url).withAttr? "alt" i.source.alt).withAttr?
    "title_text" i.source.title).withAttr? "attachment_id"
      (i.attachmentId.map fun id => toString id.toNat)

theorem tag_imageCode (version : String) (i : Placed) : (imageCode version i).tag = "et_pb_image" := by
  rw [imageCode]
  cases i.source.alt <;> cases i.source.title <;> cases i.attachmentId <;> rfl

theorem isPlain_imageCode (version : String) (i : Placed) : IsPlain (imageCode version i) :=
  ((((isPlain_element (by decide) version).withAttr (by decide) i.url).withAttr? (by decide)
    i.source.alt).withAttr? (by decide) i.source.title).withAttr? (by decide) _

end PageBlocks.Divi
