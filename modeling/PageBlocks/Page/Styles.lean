import PageBlocks.Markup.Node
import PageBlocks.Style.Parser

/-!
Style sheets of a page. They are taken out of the page wherever they stand, so that no style text can
get into a block.
-/
namespace PageBlocks.Page

open Markup

/-- Whether an element holds a style sheet. -/
def isStyle (e : Element) : Bool := e.tag == "style"

mutual

/-- What is left of a node without style sheets, if anything. -/
def withoutStyles? : Node → Option Node
  | .element e children =>
    if isStyle e then none else some (.element e (withoutStylesIn children))
  | n => some n

def withoutStylesIn : List Node → List Node
  | [] => []
  | n :: rest => (withoutStyles? n).toList ++ withoutStylesIn rest

end

/-- A page without its style sheets. -/
def withoutStyles (d : Document) : Document := ⟨withoutStylesIn d.children⟩

/-- The rules of the style sheets of a page, in document order. -/
def styleRules (d : Document) : List Style.Rule :=
  ((Node.elementsOf d.children).filter fun (e, _) => isStyle e).flatMap fun (_, children) =>
    Style.parse (Node.textOf children)

end PageBlocks.Page
