import PageBlocks.Emit.Escape
import PageBlocks.Image.Placement
import PageBlocks.Json.Value
import PageBlocks.Text.Replace

/-!
Gutenberg: a page is a list of blocks with attributes and markup. In the text of a post each block
stands between two comments, the first of which has its attributes in JSON; these are written so that
they cannot end the comment.
-/
namespace PageBlocks.Gutenberg

/-- A block of a page. -/
inductive Block where
  | mk (name : String) (attrs : Json.Fields) (html : String) (inner : List Block)
  deriving Inhabited

namespace Block

def name : Block → String
  | mk name _ _ _ => name

/-- The attributes in the order of their keys. -/
def attrs : Block → Json.Fields
  | mk _ attrs _ _ => attrs

def html : Block → String
  | mk _ _ html _ => html

mutual

def toJson : Block → Json
  | mk name attrs html inner =>
    .obj [("blockName", .str name), ("attrs", .obj attrs), ("innerBlocks", .arr (toJsons inner)),
      ("innerHTML", .str html), ("innerContent", .arr [.str html])]

def toJsons : List Block → List Json
  | [] => []
  | b :: rest => b.toJson :: toJsons rest

end

/-- A block without blocks inside. -/
def simple (name : String) (attrs : Json.Fields) (html : String) : Block :=
  mk name attrs.sorted html []

end Block

/-- ` name="value"`, if there is a value. -/
def optAttr (name : String) : Option String → String
  | some value => " " ++ name ++ "=\"" ++ Emit.escapeValue value ++ "\""
  | none => ""

/-- An element with a class attribute and further attributes, around markup. -/
def element (tag classes attrs inner : String) : String :=
  "<" ++ tag ++ " class=\"" ++ classes ++ "\"" ++ attrs ++ ">" ++ inner ++ "</" ++ tag ++ ">"

def headingBlock (level : HeadingLevel) (text : String) (anchor : Option String) : Block :=
  .simple "core/heading"
    (("level", .nat level.value) :: (anchor.map fun anchor => ("anchor", Json.str anchor)).toList)
    (element level.tag "wp-block-heading" (optAttr "id" anchor) (Emit.escapeText text))

def imageBlock (i : Image.Placed) : Block :=
  let idClass := match i.attachmentId with
    | some id => " class=\"wp-image-" ++ toString id.toNat ++ "\""
    | none => ""
  .simple "core/image"
    ((i.attachmentId.map fun id => ("id", Json.word id)).toList ++
      [("sizeSlug", .str "full"), ("linkDestination", .str "none")])
    ("<figure class=\"wp-block-image size-full\"><img src=\"" ++ Emit.escapeValue i.url ++
      "\" alt=\"" ++ Emit.escapeValue i.source.altText ++ "\"" ++ optAttr "title" i.source.title ++
      idClass ++ "/></figure>")

def capturedBlock (kind : CaptureKind) (html : Captured) : Block :=
  let classes := Emit.escapeValue html.classes
  match kind with
  | .paragraph =>
    .simple "core/paragraph" [("className", .str html.classes)] (element "p" classes "" html.inner)
  | .list ordered =>
    .simple "core/list" [("ordered", .bool ordered)]
      (element (if ordered then "ol" else "ul") classes "" html.inner)
  | .table =>
    .simple "core/table" [] ("<figure class=\"wp-block-table\">" ++ html.outer ++ "</figure>")
  | .blockquote =>
    .simple "core/quote" [] (element "blockquote" ("wp-block-quote " ++ classes) "" html.inner)

/-- The block for a block of a page. -/
def blockOf : PageBlocks.Block Image.Placed → Block
  | .heading level text anchor => headingBlock level text anchor
  | .image i => imageBlock i
  | .captured kind html => capturedBlock kind html
  | .embed markup => .simple "core/html" [] markup
  | .plainText value =>
    .simple "core/paragraph" [] ("<p>" ++ Emit.escapeText value ++ "</p>")

/-! ### The text of a post -/

/-- What JSON text must not show inside a comment, and how it is written there instead. -/
def guards : List (List Char × List Char) :=
  [("--".toList, "\\u002d\\u002d".toList),
    ("<".toList, "\\u003c".toList),
    (">".toList, "\\u003e".toList),
    ("&".toList, "\\u0026".toList),
    ("\\\"".toList, "\\u0022".toList)]

/-- JSON text with one exchange made after the other. -/
def guarded (cs : List Char) : List Char :=
  guards.foldl (fun cs (pattern, new) => Text.replaceAll pattern new cs) cs

/-- The attributes of a block as they stand in a comment. -/
def attrsText (attrs : Json.Fields) : String := String.ofList (guarded (Json.obj attrs).toText.toList)

/-- The name of a block in comments. -/
def shortName (name : String) : String :=
  let lead := "core/".toList
  if lead.isPrefixOf name.toList then String.ofList (name.toList.drop lead.length) else name

def blockText (b : Block) : String :=
  let attrs := if b.attrs.isEmpty then "" else " " ++ attrsText b.attrs
  "<!-- wp:" ++ shortName b.name ++ attrs ++ " -->\n" ++ b.html ++ "\n<!-- /wp:" ++
    shortName b.name ++ " -->"

/-- The text of a post. Blocks inside other blocks do not show. -/
def postText (blocks : List Block) : String := "\n\n".intercalate (blocks.map blockText)

end PageBlocks.Gutenberg
