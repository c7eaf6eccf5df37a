import PageBlocks.Markup.Construction.Formatting
import PageBlocks.Text.Ascii

/-!
Islands of other vocabularies. Inside `svg` and `math` the usual rules are suspended: start tags open
elements of the same vocabulary, with the capitals that its names have, until a tag is met that can
only be HTML.
-/
namespace PageBlocks.Markup.Construction

/-- Elements of SVG whose names have capitals. -/
def svgTags : List String := [
  "altGlyph", "altGlyphDef", "altGlyphItem", "animateColor", "animateMotion", "animateTransform",
  "clipPath", "feBlend", "feColorMatrix", "feComponentTransfer", "feComposite",
  "feConvolveMatrix", "feDiffuseLighting", "feDisplacementMap", "feDistantLight", "feDropShadow",
  "feFlood", "feFuncA", "feFuncB", "feFuncG", "feFuncR", "feGaussianBlur", "feImage", "feMerge",
  "feMergeNode", "feMorphology", "feOffset", "fePointLight", "feSpecularLighting", "feSpotLight",
  "feTile", "feTurbulence", "foreignObject", "glyphRef", "linearGradient", "radialGradient",
  "textPath"]

/-- Attributes of SVG whose names have capitals. -/
def svgAttrs : List String := [
  "attributeName", "attributeType", "baseFrequency", "baseProfile", "calcMode", "clipPathUnits",
  "diffuseConstant", "edgeMode", "filterUnits", "glyphRef", "gradientTransform", "gradientUnits",
  "kernelMatrix", "kernelUnitLength", "keyPoints", "keySplines", "keyTimes", "lengthAdjust",
  "limitingConeAngle", "markerHeight", "markerUnits", "markerWidth", "maskContentUnits",
  "maskUnits", "numOctaves", "pathLength", "patternContentUnits", "patternTransform",
  "patternUnits", "pointsAtX", "pointsAtY", "pointsAtZ", "preserveAlpha", "preserveAspectRatio",
  "primitiveUnits", "refX", "refY", "repeatCount", "repeatDur", "requiredExtensions",
  "requiredFeatures", "specularConstant", "specularExponent", "spreadMethod", "startOffset",
  "stdDeviation", "stitchTiles", "surfaceScale", "systemLanguage", "tableValues", "targetX",
  "targetY", "textLength", "viewBox", "viewTarget", "xChannelSelector", "yChannelSelector",
  "zoomAndPan"]

/-- The name of the list that `s` is without its capitals, or `s` itself. -/
def withCapitals (names : List String) (s : String) : String :=
  (names.find? fun name => Text.lower name == s).getD s

/-- Attribute names of other vocabularies, as they stand in a tag. -/
def foreignName : String → AttrName
  | "xlink:actuate" => ⟨.xlink, "actuate"⟩
  | "xlink:arcrole" => ⟨.xlink, "arcrole"⟩
  | "xlink:href" => ⟨.xlink, "href"⟩
  | "xlink:role" => ⟨.xlink, "role"⟩
  | "xlink:show" => ⟨.xlink, "show"⟩
  | "xlink:title" => ⟨.xlink, "title"⟩
  | "xlink:type" => ⟨.xlink, "type"⟩
  | "xml:base" => ⟨.xml, "base"⟩
  | "xml:lang" => ⟨.xml, "lang"⟩
  | "xml:space" => ⟨.xml, "space"⟩
  | "xmlns" => ⟨.xmlns, "xmlns"⟩
  | "xmlns:xlink" => ⟨.xmlns, "xlink"⟩
  | name => ⟨.plain, name⟩

/-- The attributes of a start tag in a vocabulary. -/
def attrsIn (space : Space) (t : StartTag) : Attributes :=
  let name (s : String) : String :=
    match space with
    | .html => s
    | .svg => withCapitals svgAttrs s
    | .mathml => if s == "definitionurl" then "definitionURL" else s
  .ofList (t.attrs.map fun (s, value) => ⟨foreignName (name s), value⟩)

/-- The name of a start tag in a vocabulary. -/
def tagIn (space : Space) (tag : Tag) : Tag :=
  match space, tag with
  | .svg, .other name => .other (withCapitals svgTags name)
  | _, tag => tag

/-- Open an element of a vocabulary; one that closes itself holds nothing. -/
def insertIn (c : Construction) (space : Space) (t : StartTag) (tag : Tag) : Construction :=
  let attrs := attrsIn space t
  if t.selfClosing then (c.putElement space tag attrs).1 else (c.openElement space tag attrs).1

/-- Whether a token falls under the rules for other vocabularies. -/
def isForeign (c : Construction) (t : Token) : Bool :=
  match c.opens with
  | [] => false
  | e :: _ =>
    match e.space, t with
    | .html, _ | _, .eof => false
    | .mathml, .char _ => !e.isMathTextPoint
    | .mathml, .startTag s =>
      !(e.isMathTextPoint && s.tag != .mglyph && s.tag != .malignmark) &&
        !(e.tag == .other "annotation-xml" && s.tag == .svg)
    | .svg, .char _ | .svg, .startTag _ => !e.isSvgHtmlPoint
    | _, _ => true

/-- Pop the elements of the island down to HTML or to a place where HTML can stand. -/
def leaveIsland (c : Construction) : Construction :=
  let isHtmlPlace (e : OpenElement) : Bool :=
    e.space == .html || e.isMathTextPoint || e.isSvgHtmlPoint
  { c with opens := c.opens.tail.dropWhile fun e => !isHtmlPlace e }

/-- Whether a start tag can only be HTML. -/
def leavesIsland (t : StartTag) : Bool :=
  t.tag.endsForeign ||
    (t.tag == .font && t.attrs.any fun (name, _) => name == "color" || name == "face" || name == "size")

/-- The outcome of an end tag in an island, looking down the stack. -/
inductive ForeignEnd where
  /-- The elements that stay open. -/
  | close (opens : List OpenElement)
  /-- Nothing fits. -/
  | ignore
  /-- The end tag belongs to HTML around the island. -/
  | leave

def foreignEnd (name : String) : List OpenElement → ForeignEnd
  | [] => .ignore
  | [_] => .ignore
  | e :: below =>
    if Text.sameIgnoringCase e.tag.toString name then .close below
    else
      match below with
      | [_] => .ignore
      | next :: _ => if next.space == .html then .leave else foreignEnd name below
      | [] => .ignore

end PageBlocks.Markup.Construction
