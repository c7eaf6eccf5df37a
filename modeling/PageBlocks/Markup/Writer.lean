import PageBlocks.Markup.Node

/-!
Writing a tree as markup. Text and attribute values are escaped, except for the text directly inside
an element whose content is raw; an empty element has no end tag and its children are left out.
-/
namespace PageBlocks.Markup

/-- How a character of running text is written. -/
def escapeTextChar : Char → List Char
  | '&' => "&amp;".toList
  | '\u00a0' => "&nbsp;".toList
  | '<' => "&lt;".toList
  | '>' => "&gt;".toList
  | c => [c]

/-- How a character of a quoted attribute value is written. -/
def escapeValueChar : Char → List Char
  | '&' => "&amp;".toList
  | '\u00a0' => "&nbsp;".toList
  | '"' => "&quot;".toList
  | c => [c]

def escapeText (s : String) : String := String.ofList (s.toList.flatMap escapeTextChar)

def escapeValue (s : String) : String := String.ofList (s.toList.flatMap escapeValueChar)

/-- HTML elements that hold nothing and are written without an end tag. -/
def voidTags : List String :=
  ["area", "base", "basefont", "bgsound", "br", "col", "embed", "frame", "hr", "img", "input",
    "keygen", "link", "meta", "param", "source", "track", "wbr"]

/-- HTML elements whose direct text is written as it stands. -/
def rawTextTags : List String :=
  ["style", "script", "xmp", "iframe", "noembed", "noframes", "plaintext", "noscript"]

namespace Element

def isVoid (e : Element) : Bool := e.space == .html && voidTags.contains e.tag

def hasRawText (e : Element) : Bool := e.space == .html && rawTextTags.contains e.tag

/-- ` name="value"` for each attribute. -/
def writtenAttrs (attrs : Attributes) : String :=
  attrs.foldl (fun acc a => acc ++ " " ++ a.name.written ++ "=\"" ++ escapeValue a.value ++ "\"") ""

def startTag (e : Element) : String := "<" ++ e.tag ++ writtenAttrs e.attrs ++ ">"

def endTag (e : Element) : String := "</" ++ e.tag ++ ">"

end Element

namespace Node

mutual

/-- Append the markup of a node; `raw` tells that its parent has raw text. -/
def write (raw : Bool) (acc : String) : Node → String
  | text value => if raw then acc ++ value else acc ++ escapeText value
  | comment value => acc ++ "<!--" ++ value ++ "-->"
  | doctype name => acc ++ "<!DOCTYPE " ++ name ++ ">"
  | element self children =>
    if self.isVoid then acc ++ self.startTag
    else writeAll self.hasRawText (acc ++ self.startTag) children ++ self.endTag

/-- Append the markup of each node of a list. -/
def writeAll (raw : Bool) (acc : String) : List Node → String
  | [] => acc
  | n :: rest => writeAll raw (n.write raw acc) rest

end

/-- The markup of a node that stands by itself. -/
def toMarkup (n : Node) : String := n.write false ""

/-- The markup of nodes that stand by themselves, one after the other. -/
def markupOf (ns : List Node) : String := writeAll false "" ns

end Node

/-- The markup of a whole page. -/
def Document.toMarkup (d : Document) : String := Node.markupOf d.children

end PageBlocks.Markup
