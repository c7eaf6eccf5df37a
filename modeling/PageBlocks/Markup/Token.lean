import PageBlocks.Markup.Tag

/-!
The tokens of a page: what the characters of its text say one after the other, before they are put
together to a tree.
-/
namespace PageBlocks.Markup

/-- A start tag: attributes in the order of the text, of equal names only the first. -/
structure StartTag where
  tag : Tag
  attrs : List (String × String)
  selfClosing : Bool
  deriving Inhabited

/-- A document type declaration as far as it can be read. -/
structure Doctype where
  name : Option String
  publicId : Option String
  systemId : Option String
  /-- The declaration is broken. -/
  broken : Bool
  deriving Inhabited

/-- How the text after a start tag is to be read. -/
inductive TextMode where
  /-- Character references count, tags do not. -/
  | escapable
  /-- Nothing counts but the end tag. -/
  | rawText
  /-- As `rawText`, but a script can hide its own end tag in a comment. -/
  | script
  /-- Nothing counts any more. -/
  | plain
  deriving DecidableEq

/-- What the construction of the tree asks of the reading of the text that follows. -/
inductive Answer where
  | readOn
  /-- Read what follows in a mode of its own. -/
  | readAs (mode : TextMode)
  /-- A script has ended: read what follows like a text that begins there. -/
  | readAfresh
  deriving DecidableEq

inductive Token where
  | doctype (declaration : Doctype)
  | startTag (tag : StartTag)
  | endTag (tag : Tag)
  | comment (value : String)
  | char (c : Char)
  /-- A place where the text is broken. It leaves no trace in the tree, but a line break that
  follows it no longer follows the tag before it. -/
  | fault
  | eof

end PageBlocks.Markup
