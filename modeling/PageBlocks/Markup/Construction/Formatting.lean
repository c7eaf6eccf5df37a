import PageBlocks.Markup.Construction.State

/-!
Formatting elements. An element such as `b` that is cut short by the end of a block is opened again
behind it, and the end tag of a formatting element that reaches out of a block splits the element in
two: one part outside the block and one inside.
-/
namespace PageBlocks.Markup.Construction

/-- The entries that still wait to be opened again, the latest first. -/
def cutShort (c : Construction) : List Formatting :=
  c.formatting.takeWhile fun
    | .marker => false
    | .element id _ _ => !c.holds id

/-- Open the given entries again, the earliest first; the list of formatting elements is without
them. -/
def reopen (c : Construction) (entries : List Formatting) : Construction :=
  entries.foldr
    (fun entry c =>
      match entry with
      | .marker => c
      | .element _ tag attrs =>
        let (c, id) := c.openElement .html tag attrs
        { c with formatting := .element id tag attrs :: c.formatting })
    c

/-- Open again the formatting elements that were cut short. -/
def reconstruct (c : Construction) : Construction :=
  match c.cutShort with
  | [] => c
  | entries => reopen { c with formatting := c.formatting.drop entries.length } entries

def pushMarker (c : Construction) : Construction :=
  { c with formatting := .marker :: c.formatting }

/-- Forget the formatting elements up to and including the last marker. -/
def clearToMarker (c : Construction) : Construction :=
  { c with formatting := (c.formatting.dropWhile fun f => !f.isMarker).tail }

def forget (c : Construction) (id : CellId) : Construction :=
  { c with formatting := c.formatting.eraseP (Formatting.is id) }

def isFormatting (c : Construction) (id : CellId) : Bool := c.formatting.any (Formatting.is id)

def sinceMarker (c : Construction) : List Formatting :=
  c.formatting.takeWhile fun f => !f.isMarker

/-- The latest formatting element with a tag behind the last marker. -/
def latestFormatting? (c : Construction) (tag : Tag) : Option (CellId × Attributes) :=
  c.sinceMarker.findSome? fun
    | .element id own attrs => if own = tag then some (id, attrs) else none
    | .marker => none

/-- Of elements that are alike, only the three latest are kept. -/
def forgetFourth (c : Construction) (tag : Tag) (attrs : Attributes) : Construction :=
  let alike := c.sinceMarker.filterMap fun
    | .element id own ownAttrs => if own = tag ∧ ownAttrs = attrs then some id else none
    | .marker => none
  if alike.length < 3 then c
  else
    match alike.getLast? with
    | some id => c.forget id
    | none => c

/-- Open a formatting element. -/
def insertFormatting (c : Construction) (t : StartTag) : Construction :=
  let attrs := htmlAttrs t
  let (c, id) := (c.forgetFourth t.tag attrs).openElement .html t.tag attrs
  { c with formatting := .element id t.tag attrs :: c.formatting }

/-- Close the innermost element with a tag, unless a special element is in between. -/
def closeAnyTag (c : Construction) (tag : Tag) : Construction :=
  if reaches (·.named tag) OpenElement.isSpecial c.opens then
    (c.popImpliedEndsExcept tag).popThroughTag tag
  else c

/-! ### Splitting a formatting element -/

/-- The elements between the block and the formatting element while they are walked through. -/
structure SplitWalk where
  tree : Construction
  /-- The elements that stay open, innermost first. -/
  kept : List OpenElement
  /-- The node to be moved into the next element. -/
  inner : CellId
  /-- The formatting entry behind which the new one goes. -/
  bookmark : Option CellId

/-- Make a fresh copy of an element without its children and put `inner` into it. -/
def SplitWalk.copy (w : SplitWalk) (e : OpenElement) (attrs : Attributes) : SplitWalk :=
  let (arena, id) := w.tree.arena.addElement .html e.tag attrs
  let arena := arena.append id w.inner
  let entry (f : Formatting) : Formatting := if f.is e.id then .element id e.tag attrs else f
  { tree := { w.tree with arena := arena, formatting := w.tree.formatting.map entry }
    kept := w.kept ++ [⟨id, .html, e.tag⟩]
    inner := id
    bookmark := w.bookmark.or (some id) }

/-- Walk through one element; the count is its distance from the block. Only formatting elements at
most three steps away are kept. -/
def SplitWalk.step (w : SplitWalk) (e : OpenElement) (count : Nat) : SplitWalk :=
  let attrs := w.tree.formatting.findSome? fun
    | .element id _ attrs => if id = e.id then some attrs else none
    | .marker => none
  match attrs with
  | none => w
  | some attrs => if count > 3 then { w with tree := w.tree.forget e.id } else w.copy e attrs

/-- Put a new entry in the place of an old one or, with a bookmark, right behind the entry of that
element. -/
def moveEntry (formatting : List Formatting) (old : CellId) (bookmark : Option CellId)
    (entry : Formatting) : List Formatting :=
  match bookmark with
  | none => formatting.map fun f => if f.is old then entry else f
  | some id =>
    (formatting.flatMap fun f => if f.is id then [entry, f] else [f]).eraseP (Formatting.is old)

/-- Split the formatting element `e` at the block below which it was closed. The stack is
`higher ++ block :: between ++ e :: ancestor :: below`. -/
def splitAt (c : Construction) (e : OpenElement) (attrs : Attributes)
    (higher : List OpenElement) (block : OpenElement) (between : List OpenElement)
    (below : List OpenElement) : Construction :=
  let walk := between.zipIdx.foldl (fun (w : SplitWalk) (x, i) => w.step x (i + 1))
    ⟨c, [], block.id, none⟩
  let c := walk.tree
  let c := { c with arena := c.arena.detach walk.inner }
  let c :=
    match below with
    | ancestor :: _ => c.putNode (c.placeIn ancestor) walk.inner
    | [] => c
  let (arena, id) := c.arena.addElement .html e.tag attrs
  let arena := (arena.moveChildren block.id id).append block.id id
  { c with
    arena := arena
    formatting := moveEntry c.formatting e.id walk.bookmark (.element id e.tag attrs)
    opens := higher ++ ⟨id, .html, e.tag⟩ :: block :: walk.kept ++ below }

/-- The members of a list before the last one with a property, that member, and those after it. -/
def splitAtLast (p : OpenElement → Bool) (es : List OpenElement) :
    Option (List OpenElement × OpenElement × List OpenElement) :=
  match (es.reverse.span fun e => !p e) with
  | (_, []) => none
  | (after, e :: before) => some (before.reverse, e, after.reverse)

/-- One attempt to close a formatting element. The flag tells whether to try again. -/
def closeFormattingOnce (c : Construction) (tag : Tag) : Construction × Bool :=
  match c.latestFormatting? tag with
  | none => (c.closeAnyTag tag, false)
  | some (id, attrs) =>
    match c.opens.span (·.id != id) with
    | (_, []) => (c.forget id, false)
    | (above, e :: below) =>
      if !c.inScope (·.id == id) then (c, false)
      else
        match splitAtLast OpenElement.isSpecial above with
        | none => ({ c.forget id with opens := below }, false)
        | some (higher, block, between) => (c.splitAt e attrs higher block between below, true)

/-- Try to close a formatting element up to a number of times. -/
def closeFormattingUpTo : Nat → Construction → Tag → Construction
  | 0, c, _ => c
  | n + 1, c, tag =>
    match c.closeFormattingOnce tag with
    | (c, true) => closeFormattingUpTo n c tag
    | (c, false) => c

/-- Close a formatting element on behalf of its end tag. -/
def closeFormatting (c : Construction) (tag : Tag) : Construction :=
  match c.opens with
  | e :: rest =>
    if e.named tag && !c.isFormatting e.id then { c with opens := rest }
    else closeFormattingUpTo 8 c tag
  | [] => c

/-- Close a link inside which another one begins. -/
def closeNestedLink (c : Construction) : Construction :=
  match c.latestFormatting? .a with
  | some (id, _) => ((c.closeFormatting .a).forget id).removeOpen id
  | none => c

end PageBlocks.Markup.Construction
