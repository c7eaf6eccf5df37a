/-!
Shortcodes: tags in square brackets. The values of attributes must not contain double quotes or square
brackets, which are written as a percent sign and two digits; content that is not meant as shortcodes
has its brackets written as character references.
-/
namespace PageBlocks

structure Shortcode where
  tag : String
  /-- The attributes in the order in which they are written. -/
  attrs : List (String × String)
  deriving DecidableEq

namespace Shortcode

/-- How a character of an attribute value is written. -/
def attrChar : Char → List Char
  | '"' => ['%', '2', '2']
  | '[' => ['%', '9', '1']
  | ']' => ['%', '9', '3']
  | c => [c]

/-- An attribute value as it is written. -/
def attrText (s : String) : String := String.ofList (s.toList.flatMap attrChar)

/-- How a character of content without shortcodes is written. -/
def literalChar : Char → List Char
  | '[' => "&#91;".toList
  | ']' => "&#93;".toList
  | c => [c]

/-- Content without shortcodes as it is written. -/
def literal (s : String) : String := String.ofList (s.toList.flatMap literalChar)

/-- Add an attribute at the end. -/
def withAttr (s : Shortcode) (name value : String) : Shortcode :=
  { s with attrs := s.attrs ++ [(name, value)] }

/-- Add an attribute that may be absent. -/
def withAttr? (s : Shortcode) (name : String) : Option String → Shortcode
  | some value => s.withAttr name value
  | none => s

def writtenAttr (a : String × String) : String := " " ++ a.1 ++ "=\"" ++ attrText a.2 ++ "\""

/-- The opening tag without its closing bracket. -/
def opening (s : Shortcode) : String := "[" ++ s.tag ++ String.join (s.attrs.map writtenAttr)

/-- The shortcode around a content. -/
def around (s : Shortcode) (content : String) : String :=
  s.opening ++ "]" ++ content ++ "[/" ++ s.tag ++ "]"

/-- The shortcode as a single tag. -/
def alone (s : Shortcode) : String := s.opening ++ " /]"

end Shortcode

end PageBlocks
