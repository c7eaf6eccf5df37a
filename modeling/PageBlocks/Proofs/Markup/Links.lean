import PageBlocks.Proofs.Markup.Building
import PageBlocks.Proofs.Markup.Nesting

/-!
Cells that are linked both ways. In a linked arena a cell has the parent whose child it is, and no other.
To take cells away from their parents is then to strike them from all lists of children, whatever order
they are taken in. Every page stands in the cells of a linked arena.
-/
namespace PageBlocks.Markup.Arena

/-- Cells and their parents know each other, and no cell is a child twice. -/
structure Linked (a : Arena) : Prop where
  mem_children_iff : ∀ parent id, id ∈ (a.children parent).toList ↔ a.parent? id = some parent
  nodup_children : ∀ parent, (a.children parent).toList.Nodup

theorem lt_size_of_parent? {a : Arena} {id parent : CellId} (h : a.parent? id = some parent) :
    id < a.cells.size := by
  by_contra hge
  rw [parent?, cell, Array.getD_eq_getD_getElem?, Array.getElem?_eq_none (Nat.le_of_not_lt hge)] at h
  cases h

theorem lt_size_of_mem_children {a : Arena} {id parent : CellId} (h : id ∈ (a.children parent).toList) :
    parent < a.cells.size := by
  by_contra hge
  rw [children, cell, Array.getD_eq_getD_getElem?, Array.getElem?_eq_none (Nat.le_of_not_lt hge)] at h
  cases h

section

variable {a : Arena} (h : a.Linked)

/-! ### Taking cells away -/

include h

theorem Linked.erase_children {id parent : CellId} (hne : a.parent? id ≠ some parent) :
    (a.children parent).erase id = a.children parent := by
  apply Array.erase_of_not_mem
  intro hmem
  exact hne ((h.mem_children_iff parent id).mp (Array.mem_toList_iff.mpr hmem))

/-- The cell that is taken away loses its parent, every list of children loses the cell, and all else
stays. -/
theorem Linked.cell_detach (id other : CellId) :
    (a.detach id).cell other =
      ⟨a.data other, if other = id then none else a.parent? other, (a.children other).erase id,
        a.contents? other⟩ := by
  rw [detach]
  cases hparent : a.parent? id with
  | none =>
    have hkeep : (if other = id then none else a.parent? other) = a.parent? other := by
      split
      · rename_i heq
        rw [heq, hparent]
      · rfl
    have hne : a.parent? id ≠ some other := by
      rw [hparent]
      exact (Option.some_ne_none other).symm
    rw [hkeep, h.erase_children hne]
    rfl
  | some parent =>
    have hid := lt_size_of_parent? hparent
    have hlt := lt_size_of_mem_children ((h.mem_children_iff parent id).mpr hparent)
    have herase : (a.children other).erase id =
        if other = parent then (a.children other).erase id else a.children other := by
      split
      · rfl
      · rename_i hne
        exact h.erase_children fun hsome => hne (Option.some.inj (hsome.symm.trans hparent))
    simp only
    rw [cell_modify _ _ _ _ (by rwa [size_modify]), cell_modify _ _ _ _ hlt, herase]
    by_cases hself : other = id
    · rw [if_pos hself, if_pos hself]
      split <;> rfl
    · rw [if_neg hself, if_neg hself]
      split <;> rfl

theorem Linked.data_detach (id other : CellId) : (a.detach id).data other = a.data other := by
  rw [data, h.cell_detach]

theorem Linked.contents?_detach (id other : CellId) :
    (a.detach id).contents? other = a.contents? other := by
  rw [contents?, h.cell_detach]

theorem Linked.parent?_detach (id other : CellId) :
    (a.detach id).parent? other = if other = id then none else a.parent? other := by
  rw [parent?, h.cell_detach]

theorem Linked.children_detach (id other : CellId) :
    (a.detach id).children other = (a.children other).filter fun child => child != id := by
  rw [← Array.toList_inj, Array.toList_filter, ← (h.nodup_children other).erase_eq_filter,
    Arena.children, h.cell_detach]
  rcases a.children other with ⟨ids⟩
  rw [List.erase_toArray]

theorem Linked.detach (id : CellId) : (a.detach id).Linked where
  mem_children_iff parent other := by
    rw [h.children_detach, h.parent?_detach, Array.toList_filter, List.mem_filter, h.mem_children_iff]
    by_cases hother : other = id
    · simp [hother]
    · simp [hother]
  nodup_children parent := by
    rw [h.children_detach, Array.toList_filter]
    exact (h.nodup_children parent).filter _

omit h in
theorem size_detach (a : Arena) (id : CellId) : (a.detach id).cells.size = a.cells.size := by
  rw [Arena.detach]
  split
  · rfl
  · simp only
    rw [size_modify, size_modify]

end

/-- Take cells away from their parents, one after the other. -/
def detachAll (a : Arena) (ids : List CellId) : Arena := ids.foldl detach a

theorem size_detachAll (a : Arena) (ids : List CellId) :
    (a.detachAll ids).cells.size = a.cells.size := by
  induction ids generalizing a with
  | nil => rfl
  | cons id ids ih => exact (ih (a.detach id)).trans (size_detach a id)

theorem Linked.detachAll {a : Arena} (h : a.Linked) (ids : List CellId) : (a.detachAll ids).Linked := by
  induction ids generalizing a with
  | nil => exact h
  | cons id ids ih => exact ih (h.detach id)

/-- The cells that are taken away lose their parents, all lists of children lose these cells, and all else
stays. -/
theorem Linked.cell_detachAll {a : Arena} (h : a.Linked) (ids : List CellId) (other : CellId) :
    (a.detachAll ids).cell other =
      ⟨a.data other, if other ∈ ids then none else a.parent? other,
        (a.children other).filter fun child => child ∉ ids, a.contents? other⟩ := by
  induction ids generalizing a with
  | nil =>
    have hall : ((a.children other).filter fun child => child ∉ []) = a.children other := by simp
    rw [hall, if_neg List.not_mem_nil]
    rfl
  | cons id ids ih =>
    change ((a.detach id).detachAll ids).cell other = _
    rw [ih (h.detach id), h.data_detach, h.parent?_detach, h.children_detach, h.contents?_detach,
      Array.filter_filter]
    congr 1
    · by_cases hother : other = id
      · simp [hother]
      · simp [hother]
    · congr 1
      funext child
      rw [Bool.eq_iff_iff]
      simp [and_comm]

theorem Linked.data_detachAll {a : Arena} (h : a.Linked) (ids : List CellId) (other : CellId) :
    (a.detachAll ids).data other = a.data other := by
  rw [data, h.cell_detachAll]

theorem Linked.children_detachAll {a : Arena} (h : a.Linked) (ids : List CellId) (other : CellId) :
    (a.detachAll ids).children other = (a.children other).filter fun child => child ∉ ids := by
  rw [children, h.cell_detachAll]

/-! ### Putting a page into cells -/

theorem children_of_size_le {a : Arena} {id : CellId} (h : a.cells.size ≤ id) : a.children id = #[] := by
  rw [children, cell, Array.getD_eq_getD_getElem?, Array.getElem?_eq_none h]
  rfl

theorem children_plant (a : Arena) {parent : CellId} (h : parent < a.cells.size) (data : CellData)
    (other : CellId) :
    ((a.plant parent data).children other).toList =
      (a.children other).toList ++ if other = parent then [a.cells.size] else [] := by
  rw [children, cell_plant a data h]
  by_cases hnew : other = a.cells.size
  · have hother : other ≠ parent := fun heq => Nat.ne_of_lt h (heq.symm.trans hnew)
    rw [if_pos hnew, if_neg hother, children_of_size_le (Nat.le_of_eq hnew.symm)]
    rfl
  · rw [if_neg hnew]
    by_cases hother : other = parent
    · rw [if_pos hother, if_pos hother, hother, Array.toList_push]
      rfl
    · rw [if_neg hother, if_neg hother, List.append_nil]
      rfl

theorem parent?_plant (a : Arena) {parent : CellId} (h : parent < a.cells.size) (data : CellData)
    (other : CellId) :
    (a.plant parent data).parent? other =
      if other = a.cells.size then some parent else a.parent? other := by
  rw [parent?, cell_plant a data h]
  by_cases hnew : other = a.cells.size
  · rw [if_pos hnew, if_pos hnew]
  · rw [if_neg hnew, if_neg hnew]
    by_cases hother : other = parent
    · rw [if_pos hother, hother]
      rfl
    · rw [if_neg hother]
      rfl

theorem Linked.plant {a : Arena} (h : a.Linked) {parent : CellId} (hparent : parent < a.cells.size)
    (data : CellData) : (a.plant parent data).Linked := by
  have hfresh : ∀ other, a.cells.size ∉ (a.children other).toList := by
    intro other hmem
    exact Nat.lt_irrefl _ (lt_size_of_parent? ((h.mem_children_iff other _).mp hmem))
  constructor
  · intro other id
    rw [children_plant a hparent, parent?_plant a hparent, List.mem_append]
    by_cases hid : id = a.cells.size
    · subst hid
      rw [if_pos rfl, Option.some_inj, or_iff_right (hfresh other)]
      by_cases hother : other = parent
      · simp [hother]
      · simp [hother, Ne.symm hother]
    · rw [if_neg hid, ← h.mem_children_iff, or_iff_left]
      split
      · exact fun hmem => hid (List.mem_singleton.mp hmem)
      · exact List.not_mem_nil
  · intro other
    rw [children_plant a hparent, List.nodup_append]
    refine ⟨h.nodup_children other, ?_, ?_⟩
    · split
      · exact List.pairwise_singleton _ _
      · exact List.nodup_nil
    · rintro id hid new hnew rfl
      split at hnew
      · exact hfresh other (List.mem_singleton.mp hnew ▸ hid)
      · cases hnew

mutual

/-- Put a tree behind the last child of a cell. -/
def plantNode (a : Arena) (parent : CellId) : Node → Arena
  | .text value => a.plant parent (.text value)
  | .comment value => a.plant parent (.comment value)
  | .doctype name => a.plant parent (.doctype name)
  | .element e children =>
    plantNodes (a.plant parent (.element e.space (.ofString e.tag) e.attrs)) a.cells.size children

/-- Put trees behind the last child of a cell. -/
def plantNodes (a : Arena) (parent : CellId) : List Node → Arena
  | [] => a
  | n :: ns => plantNodes (plantNode a parent n) parent ns

end

/-- An arena with a page in its cells. -/
def ofDocument (d : Document) : Arena := plantNodes empty page d.children

open LinkedTree

/-- Trees have been put behind the last child of a cell, into new cells that are numbered in document
order. -/
structure Planted (a : Arena) (parent : CellId) (ts : List LinkedTree) (a' : Arena) : Prop where
  linked : a'.Linked
  size : a'.cells.size = a.cells.size + (idsAll ts).length
  ids : idsAll ts = List.range' a.cells.size (idsAll ts).length
  shown : ShownAll a' ts
  children : (a'.children parent).toList = (a.children parent).toList ++ ts.map LinkedTree.root
  data : a'.data parent = a.data parent
  others : ∀ id < a.cells.size, id ≠ parent → a'.cell id = a.cell id

section

variable {a b c : Arena} {parent : CellId}

theorem planted_nil (h : a.Linked) : Planted a parent [] a :=
  ⟨h, rfl, rfl, trivial, (List.append_nil _).symm, rfl, fun _ _ _ => rfl⟩

theorem Planted.mem_ids {ts : List LinkedTree} (h : Planted a parent ts b) {id : CellId}
    (hid : id ∈ idsAll ts) : a.cells.size ≤ id ∧ id < b.cells.size := by
  rw [h.ids, List.mem_range'_1] at hid
  rw [h.size]
  exact hid

theorem Planted.trans {ts us : List LinkedTree} (hfirst : Planted a parent ts b)
    (hsecond : Planted b parent us c) (hparent : parent < a.cells.size) :
    Planted a parent (ts ++ us) c where
  linked := hsecond.linked
  size := by rw [hsecond.size, hfirst.size, LinkedTree.idsAll_append, List.length_append, Nat.add_assoc]
  ids := by
    rw [LinkedTree.idsAll_append, List.length_append, ← List.range'_append_1, ← hfirst.ids, ← hfirst.size,
      ← hsecond.ids]
  shown := by
    rw [LinkedTree.shownAll_append]
    -- the second trees change no cell of the first ones
    refine ⟨hfirst.shown.congr fun id hid => ?_, hsecond.shown⟩
    obtain ⟨hle, hlt⟩ := hfirst.mem_ids hid
    have hcell := hsecond.others id hlt fun heq => Nat.not_lt_of_le hle (heq ▸ hparent)
    exact ⟨congrArg Cell.data hcell, congrArg Cell.children hcell⟩
  children := by rw [hsecond.children, hfirst.children, List.map_append, List.append_assoc]
  data := hsecond.data.trans hfirst.data
  others id hid hne := by
    rw [hsecond.others id (by rw [hfirst.size]; omega) hne, hfirst.others id hid hne]

theorem planted_leaf (h : a.Linked) (hparent : parent < a.cells.size) (self : Leaf) :
    Planted a parent [.leaf a.cells.size self] (a.plant parent self.data) where
  linked := h.plant hparent _
  size := size_plant a parent _
  ids := rfl
  shown := by
    refine ⟨⟨?_, ?_⟩, trivial⟩
    · rw [Arena.data, cell_plant a _ hparent, if_pos rfl]
    · rw [Arena.children, cell_plant a _ hparent, if_pos rfl]
  children := by
    rw [children_plant a hparent, if_pos rfl]
    rfl
  data := by
    rw [Arena.data, cell_plant a _ hparent, if_neg (Nat.ne_of_lt hparent), if_pos rfl]
    rfl
  others id hid hne := by rw [cell_plant a _ hparent, if_neg (Nat.ne_of_lt hid), if_neg hne]

/-- An element is put into its cell first, and then its children below it. -/
theorem planted_element {space : Space} {tag : Tag} {attrs : Attributes} {ts : List LinkedTree}
    (hparent : parent < a.cells.size)
    (h : Planted (a.plant parent (.element space tag attrs)) a.cells.size ts b) :
    Planted a parent [.element a.cells.size space tag attrs ts] b := by
  have hsize := size_plant a parent (.element space tag attrs)
  have hold : ∀ id < a.cells.size, b.cell id = (a.plant parent (.element space tag attrs)).cell id :=
    fun id hid => h.others id (hsize ▸ Nat.lt_succ_of_lt hid) (Nat.ne_of_lt hid)
  have hcell := cell_plant a (.element space tag attrs) hparent
  constructor
  · exact h.linked
  · rw [h.size, hsize, idsAll, LinkedTree.ids, idsAll, List.append_nil, List.length_cons]
    omega
  · rw [idsAll, LinkedTree.ids, idsAll, List.append_nil, List.length_cons, List.range'_succ, ← hsize,
      ← h.ids]
  · refine ⟨⟨?_, ?_, h.shown⟩, trivial⟩
    · rw [h.data, Arena.data, hcell, if_pos rfl]
    · rw [h.children, Arena.children, hcell, if_pos rfl]
      rfl
  · rw [Arena.children, hold parent hparent, ← Arena.children, children_plant a hparent, if_pos rfl]
    rfl
  · rw [Arena.data, hold parent hparent, hcell, if_neg (Nat.ne_of_lt hparent), if_pos rfl]
    rfl
  · intro id hid hne
    rw [hold id hid, hcell, if_neg (Nat.ne_of_lt hid), if_neg hne]

end

mutual

theorem exists_planted_node {a : Arena} {parent : CellId} (h : a.Linked)
    (hparent : parent < a.cells.size) (n : Node) :
    ∃ t : LinkedTree, t.node = n ∧ Planted a parent [t] (plantNode a parent n) := by
  match n with
  | .text value => exact ⟨_, rfl, planted_leaf h hparent (.text value)⟩
  | .comment value => exact ⟨_, rfl, planted_leaf h hparent (.comment value)⟩
  | .doctype name => exact ⟨_, rfl, planted_leaf h hparent (.doctype name)⟩
  | .element e children =>
    have hsize := size_plant a parent (.element e.space (.ofString e.tag) e.attrs)
    obtain ⟨ts, hnodes, hts⟩ := exists_planted_nodes (h.plant hparent _)
      (Nat.lt_of_lt_of_eq (Nat.lt_succ_self _) hsize.symm) children
    refine ⟨_, ?_, planted_element hparent hts⟩
    rw [LinkedTree.node, Tag.toString_ofString, hnodes]

theorem exists_planted_nodes {a : Arena} {parent : CellId} (h : a.Linked)
    (hparent : parent < a.cells.size) (ns : List Node) :
    ∃ ts : List LinkedTree, nodes ts = ns ∧ Planted a parent ts (plantNodes a parent ns) := by
  match ns with
  | [] => exact ⟨[], rfl, planted_nil h⟩
  | n :: ns =>
    obtain ⟨t, hnode, ht⟩ := exists_planted_node h hparent n
    obtain ⟨ts, hnodes, hts⟩ := exists_planted_nodes ht.linked
      (ht.size ▸ Nat.lt_add_right _ hparent) ns
    refine ⟨t :: ts, ?_, ht.trans hts hparent⟩
    rw [nodes, hnode, hnodes]

end

/-! ### Pages in cells -/

/-- The arena is linked, and below the page it shows trees with no cell twice. -/
structure Holds (a : Arena) (ts : List LinkedTree) : Prop where
  linked : a.Linked
  shown : ShownAll a ts
  roots : (a.children page).toList = ts.map LinkedTree.root
  nodup : (idsAll ts).Nodup
  lt_size : ∀ id ∈ idsAll ts, id < a.cells.size

theorem Holds.toDocument {a : Arena} {ts : List LinkedTree} (h : a.Holds ts) : a.toDocument = ⟨nodes ts⟩ :=
  toDocument_of_shownAll h.shown h.roots h.nodup h.lt_size

theorem linked_empty : empty.Linked := by
  have hcell : ∀ id, empty.parent? id = none ∧ empty.children id = #[] := by
    intro id
    cases id <;> exact ⟨rfl, rfl⟩
  constructor
  · intro parent id
    rw [(hcell parent).2, (hcell id).1]
    simp
  · intro parent
    rw [(hcell parent).2]
    exact List.nodup_nil

/-- The arena is linked and shows a page. -/
def IsPage (a : Arena) : Prop := ∃ ts, a.Holds ts

/-- Every page stands in cells. -/
theorem exists_holds_ofDocument (d : Document) :
    ∃ ts, nodes ts = d.children ∧ (ofDocument d).Holds ts := by
  have hpage : page < empty.cells.size := Nat.one_pos
  obtain ⟨ts, hnodes, hplanted⟩ := exists_planted_nodes linked_empty hpage d.children
  refine ⟨ts, hnodes, hplanted.linked, hplanted.shown, hplanted.children, ?_, ?_⟩
  · rw [hplanted.ids]
    exact List.nodup_range'
  · exact fun id hid => (hplanted.mem_ids hid).2

end PageBlocks.Markup.Arena
