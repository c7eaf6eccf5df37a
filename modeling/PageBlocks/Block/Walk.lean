import PageBlocks.Block.Role
import PageBlocks.Block.Stamp
import PageBlocks.Markup.Writer

/-!
The walk: from the tree of a page to its blocks. It goes through the tree in document order and keeps
the nodes that it has yet to visit on a stack, so that the depth of the tree does not matter. It leaves
its stamps behind on the elements that it captures.
-/
namespace PageBlocks

open Markup

/-- What becomes of an element. -/
inductive Fate where
  /-- At most one block takes the place of the element. -/
  | yield (block : Option (Block ImageRef))
  /-- The element is captured with a stamp. -/
  | capture (kind : CaptureKind)
  /-- The children are visited; in a container, text that stands by itself is kept. -/
  | visit (container : Bool)

namespace Fate

def headingBlock (level : HeadingLevel) (e : Element) (children : List Node) :
    Option (Block ImageRef) :=
  (Text.trimmed? (Node.textOf children)).map fun text =>
    .heading level text ((e.get? "id").bind Text.trimmed?)

def imageBlock (e : Element) : Option (Block ImageRef) :=
  ((e.get? "src").bind Text.trimmed?).map fun src => .image ⟨src, e.get? "alt", e.get? "title"⟩

/-- The fate of an element. A paragraph without text is opened for the images in it. -/
def ofElement (e : Element) (children : List Node) : Fate :=
  match Role.ofTag (Text.lower e.tag) with
  | .heading level => .yield (headingBlock level e children)
  | .image => .yield (imageBlock e)
  | .capture .paragraph =>
    if Text.isAllBlank (Node.textOf children) then .visit false else .capture .paragraph
  | .capture kind => .capture kind
  | .embed => .yield (some (.embed (Node.element e children).toMarkup))
  | .group => .visit true
  | .unrecognized => .visit false

end Fate

/-- The block of an element that is captured. -/
def captureBlock (stamps : Stamps) (kind : CaptureKind) (e : Element) (children : List Node) :
    Block ImageRef :=
  let stamp := stamps.of kind
  .captured kind {
    inner := String.join (children.map Node.toMarkup)
    outer := (Node.element (e.stamp stamp) children).toMarkup
    classes := e.stampedClasses stamp }

/-- The block of text that stands by itself. -/
def textBlock (container : Bool) (value : String) : Option (Block ImageRef) :=
  if container then (Text.trimmed? value).map .plainText else none

mutual

/-- The number of nodes of a tree. -/
def Markup.Node.size : Node → Nat
  | .element _ children => sizeOfAll children + 1
  | _ => 1

def Markup.Node.sizeOfAll : List Node → Nat
  | [] => 0
  | n :: rest => n.size + sizeOfAll rest

end

/-- The nodes that wait for their visit, each with whether it stands in a container. -/
abbrev Pending := List (Bool × Node)

namespace Pending

/-- The number of nodes that may have to be visited. -/
def size (p : Pending) : Nat := Node.sizeOfAll (p.map (·.2))

/-- Visit nodes before all others. -/
def push (container : Bool) (ns : List Node) (p : Pending) : Pending :=
  ns.map (container, ·) ++ p

theorem sizeOfAll_append (ms ns : List Node) :
    Node.sizeOfAll (ms ++ ns) = Node.sizeOfAll ms + Node.sizeOfAll ns := by
  induction ms with
  | nil => simp [Node.sizeOfAll]
  | cons m ms ih => simp [Node.sizeOfAll, ih, Nat.add_assoc]

theorem size_push (container : Bool) (ns : List Node) (p : Pending) :
    (push container ns p).size = Node.sizeOfAll ns + p.size := by
  simp [push, size, List.map_append, List.map_map, Function.comp_def, sizeOfAll_append]

theorem size_cons (container : Bool) (n : Node) (p : Pending) :
    size ((container, n) :: p) = n.size + p.size := rfl

theorem size_pos (n : Node) : 0 < n.size := by
  cases n <;> simp [Node.size]

end Pending

/-- Visit the pending nodes. The blocks found so far are kept in reverse. -/
def blocksFrom (stamps : Stamps) (found : List (Block ImageRef)) (p : Pending) :
    List (Block ImageRef) :=
  match p with
  | [] => found.reverse
  | (container, .text value) :: p =>
    blocksFrom stamps ((textBlock container value).toList ++ found) p
  | (_, .element e children) :: p =>
    match Fate.ofElement e children with
    | .yield block => blocksFrom stamps (block.toList ++ found) p
    | .capture kind => blocksFrom stamps (captureBlock stamps kind e children :: found) p
    | .visit container => blocksFrom stamps found (Pending.push container children p)
  | (_, .comment _) :: p => blocksFrom stamps found p
  | (_, .doctype _) :: p => blocksFrom stamps found p
termination_by Pending.size p
decreasing_by
  all_goals simp [Pending.size_cons, Pending.size_push, Node.size]

/-- The blocks of the children of a container. -/
def blocksIn (stamps : Stamps) (children : List Node) : List (Block ImageRef) :=
  blocksFrom stamps [] (Pending.push true children [])

/-- The blocks of a page. -/
def Markup.Document.blocks (stamps : Stamps) (d : Document) : List (Block ImageRef) :=
  blocksIn stamps d.bodyChildren

mutual

/-- A tree after the walk: the captured elements bear their stamps. -/
def Markup.Node.stamp (stamps : Stamps) : Node → Node
  | .element e children =>
    match Fate.ofElement e children with
    | .yield _ => .element e children
    | .capture kind => .element (e.stamp (stamps.of kind)) children
    | .visit _ => .element e (stampAll stamps children)
  | n => n

def Markup.Node.stampAll (stamps : Stamps) : List Node → List Node
  | [] => []
  | n :: rest => n.stamp stamps :: stampAll stamps rest

end

/-- A page after the walk. -/
def Markup.Document.stamp (stamps : Stamps) (d : Document) : Document :=
  d.modifyBody (Node.stampAll stamps)

end PageBlocks
