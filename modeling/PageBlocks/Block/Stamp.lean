import PageBlocks.Block.Node
import PageBlocks.Markup.Node
import PageBlocks.Text.Blank

/-!
Stamps. Each captured element is given a utility class that tells what it is. A class that is there
already is not given twice.
-/
namespace PageBlocks

/-- The utility classes of the kinds of captured elements. -/
structure Stamps where
  paragraph : String
  table : String
  list : String
  blockquote : String
  deriving DecidableEq

namespace Stamps

/-- The utility classes that begin with `lead`. -/
def ofLead (lead : String) : Stamps :=
  ⟨lead ++ "-paragraph", lead ++ "-table", lead ++ "-list", lead ++ "-blockquote"⟩

/-- The utility class of a kind. -/
def of (s : Stamps) : CaptureKind → String
  | .paragraph => s.paragraph
  | .list _ => s.list
  | .table => s.table
  | .blockquote => s.blockquote

end Stamps

/-- A class attribute with a stamp added at its end, unless it is among the classes. -/
def stampClasses (classes stamp : String) : String :=
  let classes := Text.trim classes
  if (Text.words classes).contains stamp then classes
  else if classes.isEmpty then stamp
  else classes ++ " " ++ stamp

namespace Markup.Element

/-- The class attribute of an element with a stamp. -/
def stampedClasses (e : Element) (stamp : String) : String :=
  stampClasses ((e.get? "class").getD "") stamp

/-- An element with a stamp. -/
def stamp (e : Element) (stamp : String) : Element := e.set "class" (e.stampedClasses stamp)

theorem get?_stamp (e : Element) (stamp : String) :
    (e.stamp stamp).get? "class" = some (e.stampedClasses stamp) :=
  Attributes.get?_set ..

end Markup.Element

end PageBlocks
