import PageBlocks.Markup.Node
import PageBlocks.Markup.Tag

/-!
The tree while it is being built. Nodes live in numbered cells and are moved about freely: a cell
knows its parent and its children, and an operation that attaches a node first takes it away from
where it was. When the page is complete, `toNode` reads the finished tree off the cells.
-/
namespace PageBlocks.Markup

/-- The number of a cell. -/
abbrev CellId := Nat

/-- What a cell holds besides its links. -/
inductive CellData where
  /-- The root of the page, or of the contents of a template. -/
  | root
  | text (value : String)
  | comment (value : String)
  | doctype (name : String)
  | element (space : Space) (tag : Tag) (attrs : Attributes)
  deriving Inhabited

structure Cell where
  data : CellData
  parent : Option CellId
  children : Array CellId
  /-- Where the children of a template go. -/
  contents : Option CellId
  deriving Inhabited

structure Arena where
  cells : Array Cell

namespace Arena

/-- The cell of the page itself. -/
def page : CellId := 0

/-- An empty page. -/
def empty : Arena := ⟨#[⟨.root, none, #[], none⟩]⟩

def cell (a : Arena) (id : CellId) : Cell := a.cells.getD id default

def data (a : Arena) (id : CellId) : CellData := (a.cell id).data

def parent? (a : Arena) (id : CellId) : Option CellId := (a.cell id).parent

def children (a : Arena) (id : CellId) : Array CellId := (a.cell id).children

def contents? (a : Arena) (id : CellId) : Option CellId := (a.cell id).contents

def modify (a : Arena) (id : CellId) (f : Cell → Cell) : Arena := ⟨a.cells.modify id f⟩

/-- A new cell, attached to nothing. -/
def add (a : Arena) (data : CellData) : Arena × CellId :=
  let id := a.cells.size
  (⟨a.cells.push ⟨data, none, #[], none⟩⟩, id)

/-- A new element; a template of HTML gets a root for its contents. -/
def addElement (a : Arena) (space : Space) (tag : Tag) (attrs : Attributes) : Arena × CellId :=
  if space = .html ∧ tag = .template then
    let (a, contents) := a.add .root
    let (a, id) := a.add (.element space tag attrs)
    (a.modify id fun c => { c with contents := some contents }, id)
  else a.add (.element space tag attrs)

/-- Take a node away from its parent. -/
def detach (a : Arena) (id : CellId) : Arena :=
  match a.parent? id with
  | none => a
  | some parent =>
    let a := a.modify parent fun c => { c with children := c.children.erase id }
    a.modify id fun c => { c with parent := none }

/-- Make a node the last child of another. -/
def append (a : Arena) (parent id : CellId) : Arena :=
  let a := a.detach id
  let a := a.modify parent fun c => { c with children := c.children.push id }
  a.modify id fun c => { c with parent := some parent }

/-- Put a node right before a sibling that has a parent. -/
def insertBefore (a : Arena) (sibling id : CellId) : Arena :=
  let a := a.detach id
  match a.parent? sibling with
  | none => a
  | some parent =>
    let place (c : Cell) : Cell :=
      { c with children := c.children.insertIdxIfInBounds ((c.children.idxOf? sibling).getD 0) id }
    (a.modify parent place).modify id fun c => { c with parent := some parent }

/-- Move all children of one node behind those of another. -/
def moveChildren (a : Arena) (source target : CellId) : Arena :=
  (a.children source).foldl (fun a id => a.append target id) a

def isText (a : Arena) (id : CellId) : Bool :=
  match a.data id with
  | .text _ => true
  | _ => false

/-- Add a character to a text node. -/
def pushChar (a : Arena) (id : CellId) (c : Char) : Arena :=
  a.modify id fun cell =>
    match cell with
    | ⟨.text value, parent, children, contents⟩ => ⟨.text (value.push c), parent, children, contents⟩
    | other => other

/-- Add a character at the end of a node, to its last child if that is text. -/
def appendChar (a : Arena) (parent : CellId) (c : Char) : Arena :=
  match (a.children parent).back? with
  | some last =>
    if a.isText last then a.pushChar last c
    else
      let (a, id) := a.add (.text (String.singleton c))
      a.append parent id
  | none =>
    let (a, id) := a.add (.text (String.singleton c))
    a.append parent id

/-- The sibling right before a node. -/
def previous? (a : Arena) (id : CellId) : Option CellId := do
  let parent ← a.parent? id
  let place ← (a.children parent).idxOf? id
  if place = 0 then none else (a.children parent)[place - 1]?

/-- Add a character right before a node, to the sibling there if that is text. -/
def insertCharBefore (a : Arena) (sibling : CellId) (c : Char) : Arena :=
  let fresh :=
    let (a, id) := a.add (.text (String.singleton c))
    a.insertBefore sibling id
  match a.previous? sibling with
  | some previous => if a.isText previous then a.pushChar previous c else fresh
  | none => fresh

/-- Give an element those of the attributes that it lacks. -/
def addMissingAttrs (a : Arena) (id : CellId) (attrs : Attributes) : Arena :=
  a.modify id fun c =>
    match c.data with
    | .element space tag own => { c with data := .element space tag (own.addMissing attrs) }
    | _ => c

/-- The cells below those on the stack in reverse document order, added to `seen`. -/
def preorder (a : Arena) : Nat → List CellId → List CellId → List CellId
  | 0, _, seen => seen
  | _, [], seen => seen
  | fuel + 1, id :: stack, seen => a.preorder fuel ((a.children id).toList ++ stack) (id :: seen)

/-- The finished node of a cell, given the finished nodes of its children. -/
def finish (a : Arena) (done : Array Node) (id : CellId) : Node :=
  match a.data id with
  | .text value => .text value
  | .comment value => .comment value
  | .doctype name => .doctype name
  | .root => .text ""
  | .element space tag attrs =>
    .element ⟨space, tag.toString, attrs⟩
      ((a.children id).toList.map fun child => done.getD child default)

/-- The finished page. Children are finished before their parents. -/
def toDocument (a : Arena) : Document :=
  let order := a.preorder a.cells.size (a.children page).toList []
  let done := order.foldl (fun done id => done.setIfInBounds id (a.finish done id))
    (Array.replicate a.cells.size default)
  ⟨(a.children page).toList.map fun id => done.getD id default⟩

end Arena

end PageBlocks.Markup
