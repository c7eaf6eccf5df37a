import PageBlocks.Markup.Arena
import Mathlib.Data.List.Perm.Subperm

/-!
Trees that stand in cells. A tree whose nodes know their cells is shown by an arena if each cell holds its
node and the children of the node are those of the cell. Then the search below a cell finds the cells of
the trees there in document order, and the finished page is the tree that the arena shows below the page.
-/
namespace PageBlocks.Markup

/-- What stands in a page besides elements. -/
inductive Leaf where
  | text (value : String)
  | comment (value : String)
  | doctype (name : String)
  deriving DecidableEq, Inhabited

namespace Leaf

def node : Leaf → Node
  | text value => .text value
  | comment value => .comment value
  | doctype name => .doctype name

/-- What the cell of a leaf holds. -/
def data : Leaf → CellData
  | text value => .text value
  | comment value => .comment value
  | doctype name => .doctype name

end Leaf

/-- A tree whose nodes know the cells in which they stand. -/
inductive LinkedTree where
  | leaf (id : CellId) (self : Leaf)
  | element (id : CellId) (space : Space) (tag : Tag) (attrs : Attributes) (children : List LinkedTree)
  deriving Inhabited

namespace LinkedTree

/-- The cell of the topmost node. -/
def root : LinkedTree → CellId
  | leaf id _ => id
  | element id _ _ _ _ => id

mutual

/-- The cells of a tree in document order. -/
def ids : LinkedTree → List CellId
  | leaf id _ => [id]
  | element id _ _ _ children => id :: idsAll children

def idsAll : List LinkedTree → List CellId
  | [] => []
  | t :: ts => t.ids ++ idsAll ts

end

mutual

/-- The tree without its cells. -/
def node : LinkedTree → Node
  | leaf _ self => self.node
  | element _ space tag attrs children => .element ⟨space, tag.toString, attrs⟩ (nodes children)

def nodes : List LinkedTree → List Node
  | [] => []
  | t :: ts => t.node :: nodes ts

end

mutual

/-- The arena holds the tree in its cells. -/
def Shown (a : Arena) : LinkedTree → Prop
  | leaf id self => a.data id = self.data ∧ a.children id = #[]
  | element id space tag attrs children =>
    a.data id = .element space tag attrs ∧
      (a.children id).toList = children.map LinkedTree.root ∧ ShownAll a children

def ShownAll (a : Arena) : List LinkedTree → Prop
  | [] => True
  | t :: ts => t.Shown a ∧ ShownAll a ts

end

theorem nodes_append (ts us : List LinkedTree) : nodes (ts ++ us) = nodes ts ++ nodes us := by
  induction ts with
  | nil => rfl
  | cons t ts ih => rw [List.cons_append, nodes, nodes, ih, List.cons_append]

theorem idsAll_append (ts us : List LinkedTree) : idsAll (ts ++ us) = idsAll ts ++ idsAll us := by
  induction ts with
  | nil => rfl
  | cons t ts ih => rw [List.cons_append, idsAll, idsAll, ih, List.append_assoc]

theorem shownAll_append {a : Arena} {ts us : List LinkedTree} :
    ShownAll a (ts ++ us) ↔ ShownAll a ts ∧ ShownAll a us := by
  induction ts with
  | nil => exact (true_and _).symm ▸ Iff.rfl
  | cons t ts ih => rw [List.cons_append, ShownAll, ShownAll, ih, and_assoc]

theorem root_mem_ids (t : LinkedTree) : t.root ∈ t.ids := by
  cases t <;> exact List.mem_cons_self

/-- The topmost nodes of trees are some of their nodes. -/
theorem roots_sublist (ts : List LinkedTree) : (ts.map root).Sublist (idsAll ts) := by
  induction ts with
  | nil => exact List.Sublist.refl _
  | cons t ts ih =>
    rw [List.map_cons, idsAll]
    exact (List.singleton_sublist.mpr t.root_mem_ids).append ih

mutual

/-- What an arena shows depends on the data and the children of the cells of the tree alone. -/
theorem Shown.congr {a a' : Arena} {t : LinkedTree} (h : t.Shown a)
    (hcells : ∀ id ∈ t.ids, a'.data id = a.data id ∧ a'.children id = a.children id) : t.Shown a' := by
  match t with
  | leaf id self =>
    obtain ⟨hdata, hchildren⟩ := hcells id List.mem_cons_self
    rw [Shown, hdata, hchildren]
    exact h
  | element id space tag attrs children =>
    obtain ⟨hdata, hchildren⟩ := hcells id List.mem_cons_self
    rw [Shown, hdata, hchildren]
    exact ⟨h.1, h.2.1, ShownAll.congr h.2.2 fun id hid => hcells id (List.mem_cons_of_mem _ hid)⟩

theorem ShownAll.congr {a a' : Arena} {ts : List LinkedTree} (h : ShownAll a ts)
    (hcells : ∀ id ∈ idsAll ts, a'.data id = a.data id ∧ a'.children id = a.children id) :
    ShownAll a' ts := by
  match ts with
  | [] => trivial
  | t :: ts =>
    exact ⟨Shown.congr h.1 fun id hid => hcells id (List.mem_append_left _ hid),
      ShownAll.congr h.2 fun id hid => hcells id (List.mem_append_right _ hid)⟩

end

mutual

/-- The children of a cell of the tree stand in the tree. -/
theorem Shown.mem_ids_of_mem_children {a : Arena} {t : LinkedTree} (h : t.Shown a) {id child : CellId}
    (hid : id ∈ t.ids) (hchild : child ∈ (a.children id).toList) : child ∈ t.ids := by
  match t with
  | leaf self _ =>
    obtain rfl := List.mem_singleton.mp hid
    rw [h.2] at hchild
    cases hchild
  | element self space tag attrs children =>
    apply List.mem_cons_of_mem
    rcases List.mem_cons.mp hid with rfl | hid
    · rw [h.2.1] at hchild
      exact (roots_sublist children).subset hchild
    · exact ShownAll.mem_idsAll_of_mem_children h.2.2 hid hchild

theorem ShownAll.mem_idsAll_of_mem_children {a : Arena} {ts : List LinkedTree} (h : ShownAll a ts)
    {id child : CellId} (hid : id ∈ idsAll ts) (hchild : child ∈ (a.children id).toList) :
    child ∈ idsAll ts := by
  match ts with
  | [] => cases hid
  | t :: ts =>
    rcases List.mem_append.mp hid with hid | hid
    · exact List.mem_append_left _ (Shown.mem_ids_of_mem_children h.1 hid hchild)
    · exact List.mem_append_right _ (ShownAll.mem_idsAll_of_mem_children h.2 hid hchild)

end

end LinkedTree

namespace Arena

open LinkedTree

/-! ### The search below a cell -/

mutual

/-- The search takes a tree off its stack. -/
theorem preorder_tree {a : Arena} {t : LinkedTree} (h : t.Shown a) (fuel : Nat)
    (stack seen : List CellId) :
    a.preorder (fuel + t.ids.length) (t.root :: stack) seen =
      a.preorder fuel stack (t.ids.reverse ++ seen) := by
  match t with
  | .leaf id self =>
    rw [LinkedTree.ids, List.length_singleton, preorder, LinkedTree.root, h.2]
    rfl
  | .element id space tag attrs children =>
    rw [LinkedTree.ids, List.length_cons, ← Nat.add_assoc, preorder, LinkedTree.root, h.2.1,
      preorder_trees h.2.2, List.reverse_cons, List.append_assoc]
    rfl

theorem preorder_trees {a : Arena} {ts : List LinkedTree} (h : ShownAll a ts) (fuel : Nat)
    (stack seen : List CellId) :
    a.preorder (fuel + (idsAll ts).length) (ts.map LinkedTree.root ++ stack) seen =
      a.preorder fuel stack ((idsAll ts).reverse ++ seen) := by
  match ts with
  | [] => rfl
  | t :: ts =>
    rw [idsAll, List.length_append, Nat.add_comm t.ids.length, ← Nat.add_assoc, List.map_cons,
      List.cons_append, preorder_tree h.1, preorder_trees h.2, List.reverse_append,
      List.append_assoc]

end

theorem preorder_nil (a : Arena) (fuel : Nat) (seen : List CellId) :
    a.preorder fuel [] seen = seen := by
  cases fuel <;> rfl

/-- With fuel for each of its cells the search finds all trees on its stack. -/
theorem preorder_of_shown {a : Arena} {ts : List LinkedTree} (h : ShownAll a ts) {fuel : Nat}
    (hfuel : (idsAll ts).length ≤ fuel) :
    a.preorder fuel (ts.map LinkedTree.root) [] = (idsAll ts).reverse := by
  obtain ⟨more, rfl⟩ := Nat.exists_eq_add_of_le' hfuel
  have hsearch := preorder_trees h more [] []
  rwa [List.append_nil, List.append_nil, preorder_nil] at hsearch

/-! ### The finished page -/

/-- Finish a cell once its children have been finished. -/
def finishOne (a : Arena) (done : Array Node) (id : CellId) : Array Node :=
  done.setIfInBounds id (a.finish done id)

theorem size_foldl_finishOne (a : Arena) (done : Array Node) (ids : List CellId) :
    (ids.foldl a.finishOne done).size = done.size := by
  induction ids generalizing done with
  | nil => rfl
  | cons id ids ih => rw [List.foldl_cons, ih, finishOne, Array.size_setIfInBounds]

/-- A cell that is not among those that are finished keeps what it has. -/
theorem getD_foldl_finishOne (a : Arena) (done : Array Node) {ids : List CellId} {id : CellId}
    (h : id ∉ ids) : (ids.foldl a.finishOne done).getD id default = done.getD id default := by
  induction ids generalizing done with
  | nil => rfl
  | cons next ids ih =>
    rw [List.mem_cons, not_or] at h
    rw [List.foldl_cons, ih _ h.2, finishOne, Array.getD_eq_getD_getElem?,
      Array.getElem?_setIfInBounds_ne (Ne.symm h.1), Array.getD_eq_getD_getElem?]

theorem getD_finishOne (a : Arena) {done : Array Node} {id : CellId} (h : id < done.size) :
    (a.finishOne done id).getD id default = a.finish done id := by
  rw [finishOne, Array.getD_eq_getD_getElem?, Array.getElem?_setIfInBounds_self_of_lt h,
    Option.getD_some]

theorem finish_leaf {a : Arena} {id : CellId} {self : Leaf} (h : a.data id = self.data)
    (done : Array Node) : a.finish done id = self.node := by
  rw [finish, h]
  cases self <;> rfl

mutual

/-- Finishing the cells of a tree in reverse document order finishes the tree. -/
theorem getD_finish_tree {a : Arena} {t : LinkedTree} (h : t.Shown a) (hnodup : t.ids.Nodup)
    {done : Array Node} (hsize : ∀ id ∈ t.ids, id < done.size) :
    (t.ids.reverse.foldl a.finishOne done).getD t.root default = t.node := by
  match t with
  | .leaf id self =>
    change (a.finishOne done id).getD id default = _
    rw [getD_finishOne a (hsize id List.mem_cons_self), finish_leaf h.1]
    rfl
  | .element id space tag attrs children =>
    rw [LinkedTree.ids] at hnodup hsize
    have hchildren := getD_finish_trees h.2.2 (List.nodup_cons.mp hnodup).2 fun child hchild =>
      hsize child (List.mem_cons_of_mem _ hchild)
    have hid : id < ((idsAll children).reverse.foldl a.finishOne done).size := by
      rw [size_foldl_finishOne]
      exact hsize id List.mem_cons_self
    rw [LinkedTree.ids, List.reverse_cons, List.foldl_append, List.foldl_cons, List.foldl_nil,
      LinkedTree.root, getD_finishOne a hid, finish, h.1, LinkedTree.node, ← hchildren, h.2.1,
      List.map_map]
    rfl

theorem getD_finish_trees {a : Arena} {ts : List LinkedTree} (h : ShownAll a ts)
    (hnodup : (idsAll ts).Nodup) {done : Array Node} (hsize : ∀ id ∈ idsAll ts, id < done.size) :
    (ts.map fun t => ((idsAll ts).reverse.foldl a.finishOne done).getD t.root default) =
      nodes ts := by
  match ts with
  | [] => rfl
  | t :: ts =>
    rw [idsAll] at hnodup hsize
    obtain ⟨hnodupTree, hnodupRest, hdisjoint⟩ := List.nodup_append.mp hnodup
    have hrest := getD_finish_trees h.2 hnodupRest fun id hid =>
      hsize id (List.mem_append_right _ hid)
    have hsizeTree : ∀ id ∈ t.ids,
        id < ((idsAll ts).reverse.foldl a.finishOne done).size := by
      intro id hid
      rw [size_foldl_finishOne]
      exact hsize id (List.mem_append_left _ hid)
    rw [idsAll, List.reverse_append, List.foldl_append, List.map_cons, nodes,
      getD_finish_tree h.1 hnodupTree hsizeTree, ← hrest]
    congr 1
    apply List.map_congr_left
    intro other hother
    -- the cells of the first tree are finished last and leave those of the others alone
    apply getD_foldl_finishOne
    intro hmem
    have hroot : other.root ∈ idsAll ts :=
      (roots_sublist ts).subset (List.mem_map_of_mem hother)
    exact hdisjoint _ (List.mem_reverse.mp hmem) _ hroot rfl

end

/-- Cells that are all different are not more than there are in the arena. -/
theorem length_le_size {a : Arena} {ids : List CellId} (hnodup : ids.Nodup)
    (hsize : ∀ id ∈ ids, id < a.cells.size) : ids.length ≤ a.cells.size := by
  have hsub : ids ⊆ List.range a.cells.size := fun id hid => List.mem_range.mpr (hsize id hid)
  have hle := (List.subperm_of_subset hnodup hsub).length_le
  rwa [List.length_range] at hle

/-- The finished page holds the trees that the arena shows below it. -/
theorem toDocument_of_shownAll {a : Arena} {ts : List LinkedTree} (h : ShownAll a ts)
    (hpage : (a.children page).toList = ts.map LinkedTree.root) (hnodup : (idsAll ts).Nodup)
    (hsize : ∀ id ∈ idsAll ts, id < a.cells.size) : a.toDocument = ⟨nodes ts⟩ := by
  have horder := preorder_of_shown h (length_le_size hnodup hsize)
  have hsizes : ∀ id ∈ idsAll ts, id < (Array.replicate a.cells.size (default : Node)).size := by
    simpa using hsize
  have hfinish := getD_finish_trees h hnodup hsizes
  rw [toDocument, hpage, horder, List.map_map, ← hfinish]
  rfl

end Arena

end PageBlocks.Markup
