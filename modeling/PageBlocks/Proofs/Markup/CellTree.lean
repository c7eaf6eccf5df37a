import PageBlocks.Proofs.Markup.LinkedTree

/-!
Trees of HTML elements and text that stand in cells, as they are built from plain markup. What an arena
shows depends on the cells of the tree alone, and the finished page is the tree that the arena shows below
the page.
-/
namespace PageBlocks.Markup

/-- A tree of HTML elements and text whose nodes know the cells in which they stand. -/
inductive CellTree where
  | text (id : CellId) (value : String)
  | element (id : CellId) (tag : Tag) (attrs : Attributes) (children : List CellTree)
  deriving Inhabited

namespace CellTree

/-- The cell of the topmost node. -/
def root : CellTree → CellId
  | text id _ => id
  | element id _ _ _ => id

mutual

/-- The cells of a tree in document order. -/
def ids : CellTree → List CellId
  | text id _ => [id]
  | element id _ _ children => id :: idsAll children

def idsAll : List CellTree → List CellId
  | [] => []
  | t :: ts => t.ids ++ idsAll ts

end

mutual

/-- The tree without its cells. -/
def node : CellTree → Node
  | text _ value => .text value
  | element _ tag attrs children => .element ⟨.html, tag.toString, attrs⟩ (nodes children)

def nodes : List CellTree → List Node
  | [] => []
  | t :: ts => t.node :: nodes ts

end

mutual

/-- The arena holds the tree in its cells. -/
def Shown (a : Arena) : CellTree → Prop
  | text id value => a.data id = .text value ∧ a.children id = #[]
  | element id tag attrs children =>
    a.data id = .element .html tag attrs ∧
      (a.children id).toList = children.map CellTree.root ∧ ShownAll a children

def ShownAll (a : Arena) : List CellTree → Prop
  | [] => True
  | t :: ts => t.Shown a ∧ ShownAll a ts

end

theorem nodes_eq_map (ts : List CellTree) : nodes ts = ts.map node := by
  induction ts with
  | nil => rfl
  | cons t ts ih => rw [nodes, ih, List.map_cons]

theorem idsAll_eq_flatMap (ts : List CellTree) : idsAll ts = ts.flatMap ids := by
  induction ts with
  | nil => rfl
  | cons t ts ih => rw [idsAll, ih, List.flatMap_cons]

theorem shownAll_iff {a : Arena} {ts : List CellTree} :
    ShownAll a ts ↔ ∀ t ∈ ts, t.Shown a := by
  induction ts with
  | nil => simp [ShownAll]
  | cons t ts ih => rw [ShownAll, ih, List.forall_mem_cons]

mutual

/-- What an arena shows depends on the cells of the tree alone. -/
theorem Shown.congr {a a' : Arena} {t : CellTree} (h : t.Shown a)
    (hcells : ∀ id ∈ t.ids, a'.cell id = a.cell id) : t.Shown a' := by
  match t with
  | text id value =>
    have hcell := hcells id List.mem_cons_self
    rw [Shown, Arena.data, Arena.children, hcell]
    exact h
  | element id tag attrs children =>
    have hcell := hcells id List.mem_cons_self
    rw [Shown, Arena.data, Arena.children, hcell]
    exact ⟨h.1, h.2.1, ShownAll.congr h.2.2 fun id hid => hcells id (List.mem_cons_of_mem _ hid)⟩

theorem ShownAll.congr {a a' : Arena} {ts : List CellTree} (h : ShownAll a ts)
    (hcells : ∀ id ∈ idsAll ts, a'.cell id = a.cell id) : ShownAll a' ts := by
  match ts with
  | [] => trivial
  | t :: ts =>
    exact ⟨Shown.congr h.1 fun id hid => hcells id (List.mem_append_left _ hid),
      ShownAll.congr h.2 fun id hid => hcells id (List.mem_append_right _ hid)⟩

end

mutual

/-- The tree among the trees with any nodes. -/
def linked : CellTree → LinkedTree
  | text id value => .leaf id (.text value)
  | element id tag attrs children => .element id .html tag attrs (linkedAll children)

def linkedAll : List CellTree → List LinkedTree
  | [] => []
  | t :: ts => t.linked :: linkedAll ts

end

theorem roots_linkedAll (ts : List CellTree) :
    (linkedAll ts).map LinkedTree.root = ts.map CellTree.root := by
  induction ts with
  | nil => rfl
  | cons t ts ih =>
    rw [linkedAll, List.map_cons, List.map_cons, ih]
    cases t <;> rfl

mutual

theorem ids_linked (t : CellTree) : t.linked.ids = t.ids := by
  match t with
  | text _ _ => rfl
  | element id tag attrs children => exact congrArg (id :: ·) (idsAll_linkedAll children)

theorem idsAll_linkedAll (ts : List CellTree) : LinkedTree.idsAll (linkedAll ts) = idsAll ts := by
  match ts with
  | [] => rfl
  | t :: ts => rw [linkedAll, LinkedTree.idsAll, ids_linked, idsAll_linkedAll, idsAll]

end

mutual

theorem node_linked (t : CellTree) : t.linked.node = t.node := by
  match t with
  | text _ _ => rfl
  | element id tag attrs children => exact congrArg (Node.element _) (nodes_linkedAll children)

theorem nodes_linkedAll (ts : List CellTree) : LinkedTree.nodes (linkedAll ts) = nodes ts := by
  match ts with
  | [] => rfl
  | t :: ts => rw [linkedAll, LinkedTree.nodes, node_linked, nodes_linkedAll, nodes]

end

mutual

theorem Shown.linked {a : Arena} {t : CellTree} (h : t.Shown a) : t.linked.Shown a := by
  match t with
  | text _ _ => exact h
  | element id tag attrs children =>
    exact ⟨h.1, (roots_linkedAll children).symm ▸ h.2.1, ShownAll.linkedAll h.2.2⟩

theorem ShownAll.linkedAll {a : Arena} {ts : List CellTree} (h : ShownAll a ts) :
    LinkedTree.ShownAll a (linkedAll ts) := by
  match ts with
  | [] => trivial
  | t :: ts => exact ⟨Shown.linked h.1, ShownAll.linkedAll h.2⟩

end

end CellTree

namespace Arena

open CellTree

/-- The finished page holds the trees that the arena shows below it. -/
theorem toDocument_of_shown {a : Arena} {ts : List CellTree} (h : ShownAll a ts)
    (hpage : (a.children page).toList = ts.map CellTree.root) (hnodup : (idsAll ts).Nodup)
    (hsize : ∀ id ∈ idsAll ts, id < a.cells.size) : a.toDocument = ⟨nodes ts⟩ := by
  rw [← roots_linkedAll] at hpage
  rw [← idsAll_linkedAll] at hnodup hsize
  rw [toDocument_of_shownAll h.linkedAll hpage hnodup hsize, nodes_linkedAll]

end Arena

end PageBlocks.Markup
