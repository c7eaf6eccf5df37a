import PageBlocks.Markup.Attribute

/-!
The tree of a page. Elements carry their vocabulary, their local name, their attributes in order and
their children. What stands inside a `template` is not part of the tree.
-/
namespace PageBlocks.Markup

/-- The vocabulary of an element. -/
inductive Space where
  | html | svg | mathml
  deriving DecidableEq, Inhabited

/-- What an element is apart from its children. -/
structure Element where
  space : Space
  tag : String
  attrs : Attributes
  deriving DecidableEq, Inhabited

namespace Element

def get? (e : Element) (name : String) : Option String := e.attrs.get? name

def set (e : Element) (name value : String) : Element :=
  { e with attrs := e.attrs.set name value }

end Element

inductive Node where
  | text (value : String)
  | comment (value : String)
  | doctype (name : String)
  | element (self : Element) (children : List Node)
  deriving Inhabited

/-- A page: what stands at the top, in order. -/
structure Document where
  children : List Node
  deriving Inhabited

namespace Node

def children : Node → List Node
  | element _ children => children
  | _ => []

def element? : Node → Option Element
  | element self _ => some self
  | _ => none

mutual

/-- Append the text below a node, in document order. -/
def appendText (acc : String) : Node → String
  | text value => acc ++ value
  | element _ children => appendTexts acc children
  | _ => acc

/-- Append the text below each node of a list. -/
def appendTexts (acc : String) : List Node → String
  | [] => acc
  | n :: rest => appendTexts (n.appendText acc) rest

end

/-- All text below a node. -/
def textContent (n : Node) : String := n.appendText ""

/-- All text below the nodes of a list. -/
def textOf (ns : List Node) : String := appendTexts "" ns

mutual

/-- Put the elements of a tree, with their children, in document order before a list. -/
def prependElements (n : Node) (after : List (Element × List Node)) : List (Element × List Node) :=
  match n with
  | element self children => (self, children) :: prependElementsOf children after
  | _ => after

def prependElementsOf (ns : List Node) (after : List (Element × List Node)) :
    List (Element × List Node) :=
  match ns with
  | [] => after
  | n :: rest => n.prependElements (prependElementsOf rest after)

end

/-- The elements of a list of trees with their children, in document order. -/
def elementsOf (ns : List Node) : List (Element × List Node) := prependElementsOf ns []

mutual

/-- The first element with a tag, with its children, in document order. -/
def find? (tag : String) : Node → Option (Element × List Node)
  | element self children => if self.tag == tag then some (self, children) else findIn? tag children
  | _ => none

def findIn? (tag : String) : List Node → Option (Element × List Node)
  | [] => none
  | n :: rest =>
    match n.find? tag with
    | some found => some found
    | none => findIn? tag rest

end

mutual

/-- Change the children of the first element with a tag, in document order. -/
def modifyFirst? (tag : String) (f : List Node → List Node) : Node → Option Node
  | element self children =>
    if self.tag == tag then some (element self (f children))
    else (modifyFirstIn? tag f children).map (element self)
  | _ => none

def modifyFirstIn? (tag : String) (f : List Node → List Node) : List Node → Option (List Node)
  | [] => none
  | n :: rest =>
    match n.modifyFirst? tag f with
    | some changed => some (changed :: rest)
    | none => (modifyFirstIn? tag f rest).map (n :: ·)

end

end Node

namespace Document

/-- The children of the content container: those of the first `body`, or of the page if there is
none. -/
def bodyChildren (d : Document) : List Node :=
  match Node.findIn? "body" d.children with
  | some (_, children) => children
  | none => d.children

/-- Change the children of the content container. -/
def modifyBody (d : Document) (f : List Node → List Node) : Document :=
  match Node.modifyFirstIn? "body" f d.children with
  | some children => ⟨children⟩
  | none => ⟨f d.children⟩

end Document

end PageBlocks.Markup
