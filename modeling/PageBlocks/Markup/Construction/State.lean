import PageBlocks.Markup.Arena
import PageBlocks.Markup.Token
import PageBlocks.Text.Blank

/-!
The construction of a tree from tokens: its state and the operations on the stack of open elements.
The stack is a list whose head is the current element and whose last member is the root element.
-/
namespace PageBlocks.Markup

/-- The rules that are in force. -/
inductive Mode where
  | initial | beforeHtml | beforeHead | inHead | afterHead | inBody | text
  | inTable | inTableText | inCaption | inColumnGroup | inTableBody | inRow | inCell
  | inSelect | inSelectInTable | inTemplate | afterBody | inFrameset | afterFrameset
  | afterAfterBody | afterAfterFrameset
  deriving DecidableEq, Inhabited

/-- An element that is still open. -/
structure OpenElement where
  id : CellId
  space : Space
  tag : Tag
  deriving Inhabited

namespace OpenElement

/-- An element of HTML whose tag has the property. -/
def has (e : OpenElement) (p : Tag → Bool) : Bool := e.space == .html && p e.tag

def named (e : OpenElement) (tag : Tag) : Bool := e.space == .html && e.tag == tag

/-- Elements of MathML whose content is text of the page. -/
def isMathTextPoint (e : OpenElement) : Bool :=
  e.space == .mathml && [Tag.other "mi", .other "mo", .other "mn", .other "ms", .other "mtext"].contains e.tag

/-- Elements of SVG whose content is HTML again. -/
def isSvgHtmlPoint (e : OpenElement) : Bool :=
  e.space == .svg && [Tag.other "foreignObject", .other "desc", .title].contains e.tag

def isSpecial (e : OpenElement) : Bool := e.has Tag.isSpecial

end OpenElement

/-- A member of the list of formatting elements. -/
inductive Formatting where
  /-- Formatting before it does not reach inside. -/
  | marker
  | element (id : CellId) (tag : Tag) (attrs : Attributes)
  deriving Inhabited

def Formatting.isMarker : Formatting → Bool
  | .marker => true
  | .element .. => false

def Formatting.is (id : CellId) : Formatting → Bool
  | .marker => false
  | .element own _ _ => own == id

/-- Where a node goes. -/
inductive Place where
  | lastChild (parent : CellId)
  /-- Right before a table, or inside the element below it on the stack if the table is in no tree. -/
  | beforeTable (table below : CellId)

structure Construction where
  arena : Arena
  mode : Mode
  /-- The mode to go back to after text or table text. -/
  returnMode : Mode
  templateModes : List Mode
  opens : List OpenElement
  /-- The formatting elements, the latest first. -/
  formatting : List Formatting
  head : Option CellId
  form : Option CellId
  framesetAllowed : Bool
  /-- Nodes misplaced in a table go before it. -/
  fostering : Bool
  /-- A line feed that comes next does not count. -/
  skipsLineFeed : Bool
  /-- The page has no proper document type. -/
  vintage : Bool
  /-- Text in a table that waits for its end, in reverse. -/
  tableText : List Char

/-- What is to be done after a rule has been applied. -/
inductive Next where
  | done
  /-- Consider the same token again. -/
  | again
  /-- Read the following text in a mode of its own. -/
  | read (mode : TextMode)
  /-- A script has ended. -/
  | scriptEnd

namespace Construction

def start : Construction where
  arena := .empty
  mode := .initial
  returnMode := .initial
  templateModes := []
  opens := []
  formatting := []
  head := none
  form := none
  framesetAllowed := true
  fostering := false
  skipsLineFeed := false
  vintage := false
  tableText := []

/-- The result of a rule. -/
abbrev Outcome := Construction × Next

def done (c : Construction) : Outcome := (c, .done)

/-- Consider the token again in another mode. -/
def again (c : Construction) (mode : Mode) : Outcome := ({ c with mode := mode }, .again)

/-! ### The stack -/

def currentIs (c : Construction) (tag : Tag) : Bool :=
  match c.opens with
  | e :: _ => e.named tag
  | [] => false

def currentHas (c : Construction) (p : Tag → Bool) : Bool :=
  match c.opens with
  | e :: _ => e.has p
  | [] => false

def pop (c : Construction) : Construction := { c with opens := c.opens.tail }

/-- Whether some element of HTML with the tag is open. -/
def isOpen (c : Construction) (tag : Tag) : Bool := c.opens.any (·.named tag)

/-- Whether an element is open. -/
def holds (c : Construction) (id : CellId) : Bool := c.opens.any (·.id == id)

/-- Pop elements up to and including the first one that satisfies the condition. -/
def popThrough (c : Construction) (p : OpenElement → Bool) : Construction :=
  { c with opens := (c.opens.dropWhile fun e => !p e).tail }

def popThroughTag (c : Construction) (tag : Tag) : Construction := c.popThrough (·.named tag)

/-- Pop elements until the current one satisfies the condition. -/
def popTo (c : Construction) (p : Tag → Bool) : Construction :=
  { c with opens := c.opens.dropWhile fun e => !e.has p }

/-- Pop elements whose end tags may be left out. -/
def popImplied (c : Construction) (p : Tag → Bool) : Construction :=
  { c with opens := c.opens.dropWhile fun e => e.has p }

def popImpliedEnds (c : Construction) : Construction := c.popImplied Tag.closesImplicitly

def popImpliedEndsExcept (c : Construction) (tag : Tag) : Construction :=
  c.popImplied fun t => t.closesImplicitly && t != tag

/-- Take an element off the stack, wherever it is. -/
def removeOpen (c : Construction) (id : CellId) : Construction :=
  { c with opens := c.opens.eraseP (·.id == id) }

/-! ### Scopes -/

/-- Whether a target is open above the first barrier. -/
@[specialize] def reaches (target barrier : OpenElement → Bool) : List OpenElement → Bool
  | [] => false
  | e :: rest => if target e then true else if barrier e then false else reaches target barrier rest

def boundsScope (e : OpenElement) : Bool :=
  match e.space with
  | .html => e.tag.isScopeBarrier
  | .svg => e.isSvgHtmlPoint
  | .mathml => e.isMathTextPoint

def inScope (c : Construction) (target : OpenElement → Bool) : Bool :=
  reaches target boundsScope c.opens

def tagInScope (c : Construction) (tag : Tag) : Bool := c.inScope (·.named tag)

def tagInListScope (c : Construction) (tag : Tag) : Bool :=
  reaches (·.named tag) (fun e => boundsScope e || e.named .ol || e.named .ul) c.opens

def tagInButtonScope (c : Construction) (tag : Tag) : Bool :=
  reaches (·.named tag) (fun e => boundsScope e || e.named .button) c.opens

def inTableScope (c : Construction) (p : Tag → Bool) : Bool :=
  reaches (·.has p) (·.has Tag.isTableScopeBarrier) c.opens

def tagInTableScope (c : Construction) (tag : Tag) : Bool := c.inTableScope (· == tag)

def tagInSelectScope (c : Construction) (tag : Tag) : Bool :=
  reaches (·.named tag) (fun e => !(e.named .optgroup || e.named .option)) c.opens

/-! ### Placing nodes -/

/-- Where the children of an open element go. -/
def contentsOf (c : Construction) (e : OpenElement) : CellId := (c.arena.contents? e.id).getD e.id

/-- The place for what is misplaced in a table: before the innermost table, or inside the innermost
template if that is nearer. -/
def fosterPlace (c : Construction) : List OpenElement → Place
  | [] => .lastChild Arena.page
  | [root] => if root.named .template then .lastChild (c.contentsOf root) else .lastChild root.id
  | e :: below :: rest =>
    if e.named .template then .lastChild (c.contentsOf e)
    else if e.named .table then .beforeTable e.id below.id
    else c.fosterPlace (below :: rest)

/-- The place for a node that belongs inside `target`. -/
def placeIn (c : Construction) (target : OpenElement) : Place :=
  if c.fostering && target.has Tag.isTablePart then c.fosterPlace c.opens
  else .lastChild (c.contentsOf target)

/-- The place for a node that belongs inside the current element. -/
def place (c : Construction) : Place :=
  match c.opens with
  | e :: _ => c.placeIn e
  | [] => .lastChild Arena.page

def putNode (c : Construction) (place : Place) (id : CellId) : Construction :=
  match place with
  | .lastChild parent => { c with arena := c.arena.append parent id }
  | .beforeTable table below =>
    if (c.arena.parent? table).isSome then { c with arena := c.arena.insertBefore table id }
    else { c with arena := c.arena.append below id }

/-- Put a node inside the current element. -/
def putHere (c : Construction) (id : CellId) : Construction := c.putNode c.place id

def putChar (c : Construction) (ch : Char) : Construction :=
  match c.place with
  | .lastChild parent => { c with arena := c.arena.appendChar parent ch }
  | .beforeTable table below =>
    if (c.arena.parent? table).isSome then { c with arena := c.arena.insertCharBefore table ch }
    else { c with arena := c.arena.appendChar below ch }

def putComment (c : Construction) (value : String) : Construction :=
  let (arena, id) := c.arena.add (.comment value)
  { c with arena := arena }.putHere id

/-- Put a comment at the end of a given node. -/
def putCommentIn (c : Construction) (parent : CellId) (value : String) : Construction :=
  let (arena, id) := c.arena.add (.comment value)
  { c with arena := arena.append parent id }

/-- A new element at its place, not open. -/
def putElement (c : Construction) (space : Space) (tag : Tag) (attrs : Attributes) :
    Construction × CellId :=
  let (arena, id) := c.arena.addElement space tag attrs
  ({ c with arena := arena }.putHere id, id)

/-- A new element at its place that becomes the current one. -/
def openElement (c : Construction) (space : Space) (tag : Tag) (attrs : Attributes) :
    Construction × CellId :=
  let (c, id) := c.putElement space tag attrs
  ({ c with opens := ⟨id, space, tag⟩ :: c.opens }, id)

/-- The attributes of a start tag of HTML. -/
def htmlAttrs (t : StartTag) : Attributes :=
  .ofList (t.attrs.map fun (name, value) => ⟨.plain name, value⟩)

/-- Open the element of a start tag. -/
def insert (c : Construction) (t : StartTag) : Construction :=
  (c.openElement .html t.tag (htmlAttrs t)).1

/-- Put the element of a start tag that holds nothing. -/
def insertVoid (c : Construction) (t : StartTag) : Construction :=
  (c.putElement .html t.tag (htmlAttrs t)).1

/-- Open an element that no tag asked for. -/
def insertBare (c : Construction) (tag : Tag) : Construction := (c.openElement .html tag []).1

/-- The root element. -/
def insertRoot (c : Construction) (attrs : Attributes) : Construction :=
  let (arena, id) := c.arena.addElement .html .html attrs
  { c with arena := arena.append Arena.page id, opens := ⟨id, .html, .html⟩ :: c.opens }

/-- Open the element of a start tag and read its text in a mode of its own. -/
def insertRaw (c : Construction) (t : StartTag) (mode : TextMode) : Outcome :=
  ({ c.insert t with mode := .text, returnMode := c.mode }, .read mode)

/-! ### Paragraphs -/

def closeParagraph (c : Construction) : Construction :=
  (c.popImpliedEndsExcept .p).popThroughTag .p

/-- Close the paragraph that is open, if any. -/
def closeOpenParagraph (c : Construction) : Construction :=
  if c.tagInButtonScope .p then c.closeParagraph else c

/-- Give the root element those attributes that it lacks. -/
def mergeRoot (c : Construction) (t : StartTag) : Construction :=
  if c.isOpen .template then c
  else
    match c.opens.getLast? with
    | some root => { c with arena := c.arena.addMissingAttrs root.id (htmlAttrs t) }
    | none => c

/-- The body, if it is the second member of the stack from below. -/
def body? (c : Construction) : Option OpenElement :=
  match c.opens.reverse with
  | _ :: e :: _ => if e.named .body then some e else none
  | _ => none

/-- The mode that fits the stack. -/
def fittingMode (c : Construction) : List OpenElement → Mode
  | [] => .inBody
  | e :: below =>
    let last := below.isEmpty
    if e.space ≠ .html then c.fittingMode below
    else
      match e.tag with
      | .select =>
        match below.find? fun a => a.named .template || a.named .table with
        | some a => if a.tag = .table then .inSelectInTable else .inSelect
        | none => .inSelect
      | .td | .th => if last then c.fittingMode below else .inCell
      | .tr => .inRow
      | .tbody | .thead | .tfoot => .inTableBody
      | .caption => .inCaption
      | .colgroup => .inColumnGroup
      | .table => .inTable
      | .template => c.templateModes.headD .inBody
      | .head => if last then c.fittingMode below else .inHead
      | .body => .inBody
      | .frameset => .inFrameset
      | .html => if c.head.isNone then .beforeHead else .afterHead
      | _ => c.fittingMode below

def resetMode (c : Construction) : Construction := { c with mode := c.fittingMode c.opens }

end Construction

end PageBlocks.Markup
