import Mathlib.Order.Nat
import PageBlocks.Proofs.Markup.Links

/-!
Cells while a page is built around its scaffold: the root element, its body and framesets. An arena grows
soundly if no cell of the scaffold is added or moved, whatever becomes of the others. Nothing stands below
a text, and the root of the contents of a template stands below nothing.
-/
namespace PageBlocks.Markup

/-! ### Sorts of cells -/

/-- What a cell holds, as far as it never changes. -/
inductive CellSort where
  | root | leaf
  | element (space : Space) (tag : Tag)
  deriving DecidableEq

def CellData.sort : CellData → CellSort
  | .root => .root
  | .text _ | .comment _ | .doctype _ => .leaf
  | .element space tag _ => .element space tag

/-- The names of the elements that a page is built around. -/
def Tag.isScaffold (tag : Tag) : Bool := ["html", "body", "frameset"].contains tag.toString

/-- The elements that a page is built around; of other vocabularies what would be taken for a body. -/
def CellSort.isScaffold : CellSort → Bool
  | .element .html tag => tag.isScaffold
  | .element _ tag => tag.toString == "body"
  | _ => false

namespace Arena

def sort (a : Arena) (id : CellId) : CellSort := (a.data id).sort

def scaffolds (a : Arena) (id : CellId) : Bool := (a.sort id).isScaffold

/-- Cells and their parents know each other, and each stands where it can. -/
structure Sound (a : Arena) : Prop where
  linked : a.Linked
  pos : 0 < a.cells.size
  page : a.sort page = .root
  inner : ∀ id parent, a.parent? id = some parent → a.sort id ≠ .root ∧ a.sort parent ≠ .leaf
  contents : ∀ id inner, a.contents? id = some inner →
    inner < a.cells.size ∧ a.sort inner = .root ∧ a.sort id = .element .html .template

/-- The cells that there are keep their sort, and no cell of the scaffold is added or moved. -/
structure Extends (a a' : Arena) : Prop where
  size : a.cells.size ≤ a'.cells.size
  sort : ∀ id < a.cells.size, a'.sort id = a.sort id
  parent : ∀ id, a.scaffolds id = true → a'.parent? id = a.parent? id
  fresh : ∀ id, a.cells.size ≤ id → a'.scaffolds id = false

/-- The arena has grown soundly. -/
structure Grown (a a' : Arena) : Prop where
  sound : a'.Sound
  extends_ : a.Extends a'

/-- A cell in which other nodes can stand. -/
structure IsPlace (a : Arena) (id : CellId) : Prop where
  lt : id < a.cells.size
  sort : a.sort id ≠ .leaf

/-- A cell that can stand inside another one and that does not belong to the scaffold. -/
structure IsMovable (a : Arena) (id : CellId) : Prop where
  lt : id < a.cells.size
  sort : a.sort id ≠ .root
  free : a.scaffolds id = false

variable {a b c : Arena}

theorem sort_of_size_le {id : CellId} (h : a.cells.size ≤ id) : a.sort id = .root := by
  rw [sort, data, cell, Array.getD_eq_getD_getElem?, Array.getElem?_eq_none h]
  rfl

theorem lt_size_of_sort {id : CellId} (h : a.sort id ≠ .root) : id < a.cells.size := by
  by_contra hge
  exact h (sort_of_size_le (Nat.le_of_not_lt hge))

theorem lt_size_of_element {id : CellId} {space : Space} {tag : Tag} (h : a.sort id = .element space tag) :
    id < a.cells.size := by
  apply lt_size_of_sort
  rw [h]
  exact CellSort.noConfusion

theorem lt_size_of_scaffolds {id : CellId} (h : a.scaffolds id = true) : id < a.cells.size := by
  apply lt_size_of_sort
  intro hroot
  rw [scaffolds, hroot] at h
  cases h

namespace Extends

protected theorem refl (a : Arena) : a.Extends a where
  size := le_rfl
  sort _ _ := rfl
  parent _ _ := rfl
  fresh id hid := by
    rw [scaffolds, sort_of_size_le hid]
    rfl

theorem scaffolds_eq (h : a.Extends b) {id : CellId} (hid : id < a.cells.size) :
    b.scaffolds id = a.scaffolds id := by
  rw [scaffolds, h.sort id hid, scaffolds]

protected theorem trans (hab : a.Extends b) (hbc : b.Extends c) : a.Extends c where
  size := hab.size.trans hbc.size
  sort id hid := (hbc.sort id (hid.trans_le hab.size)).trans (hab.sort id hid)
  parent id hid := by
    have hsame := hab.scaffolds_eq (lt_size_of_scaffolds hid)
    exact (hbc.parent id (hsame.trans hid)).trans (hab.parent id hid)
  fresh id hid := by
    by_cases hold : id < b.cells.size
    · rw [hbc.scaffolds_eq hold]
      exact hab.fresh id hid
    · exact hbc.fresh id (Nat.le_of_not_lt hold)

theorem element (h : a.Extends b) {id : CellId} {space : Space} {tag : Tag}
    (hid : a.sort id = .element space tag) : b.sort id = .element space tag :=
  (h.sort id (lt_size_of_element hid)).trans hid

/-- The scaffold of the grown arena is the old one. -/
theorem scaffolds_iff (h : a.Extends b) (id : CellId) : b.scaffolds id = true ↔ a.scaffolds id = true := by
  by_cases hid : id < a.cells.size
  · rw [h.scaffolds_eq hid]
  · have hge := Nat.le_of_not_lt hid
    rw [h.fresh id hge, (Extends.refl a).fresh id hge]

theorem isPlace (h : a.Extends b) {id : CellId} (hid : a.IsPlace id) : b.IsPlace id :=
  ⟨hid.lt.trans_le h.size, h.sort id hid.lt ▸ hid.sort⟩

theorem isMovable (h : a.Extends b) {id : CellId} (hid : a.IsMovable id) : b.IsMovable id :=
  ⟨hid.lt.trans_le h.size, h.sort id hid.lt ▸ hid.sort, (h.scaffolds_eq hid.lt).trans hid.free⟩

end Extends

namespace Grown

protected theorem refl (h : a.Sound) : Grown a a := ⟨h, .refl a⟩

protected theorem trans (hab : Grown a b) (hbc : Grown b c) : Grown a c :=
  ⟨hbc.sound, hab.extends_.trans hbc.extends_⟩

end Grown

theorem Sound.isPlace_page (h : a.Sound) : a.IsPlace Arena.page := by
  refine ⟨h.pos, ?_⟩
  rw [h.page]
  exact CellSort.noConfusion

theorem isPlace_of_element {id : CellId} {space : Space} {tag : Tag} (h : a.sort id = .element space tag) :
    a.IsPlace id := by
  refine ⟨lt_size_of_element h, ?_⟩
  rw [h]
  exact CellSort.noConfusion

theorem isMovable_of_element {id : CellId} {space : Space} {tag : Tag} (h : a.sort id = .element space tag)
    (hfree : (CellSort.element space tag).isScaffold = false) : a.IsMovable id := by
  refine ⟨lt_size_of_element h, ?_, ?_⟩
  · rw [h]
    exact CellSort.noConfusion
  · rw [scaffolds, h]
    exact hfree

/-! ### Moving cells -/

/-- Only links between cells have been changed. -/
structure Relinks (a a' : Arena) : Prop where
  size : a'.cells.size = a.cells.size
  data : ∀ id, a'.data id = a.data id
  contents : ∀ id, a'.contents? id = a.contents? id

namespace Relinks

theorem sort_eq (h : Relinks a b) (id : CellId) : b.sort id = a.sort id := by rw [sort, h.data, sort]

theorem trans (hab : Relinks a b) (hbc : Relinks b c) : Relinks a c :=
  ⟨hbc.size.trans hab.size, fun id => (hbc.data id).trans (hab.data id),
    fun id => (hbc.contents id).trans (hab.contents id)⟩

/-- Links may be changed as long as every cell gets a parent that takes it. -/
theorem sound (h : Relinks a b) (ha : a.Sound) (hlinked : b.Linked)
    (hinner : ∀ id parent, b.parent? id = some parent →
      a.parent? id = some parent ∨ a.sort id ≠ .root ∧ a.sort parent ≠ .leaf) : b.Sound where
  linked := hlinked
  pos := h.size ▸ ha.pos
  page := (h.sort_eq page).trans ha.page
  inner := by
    intro id parent hid
    rw [h.sort_eq, h.sort_eq]
    exact (hinner id parent hid).elim (ha.inner id parent) fun hnew => hnew
  contents := by
    intro id inner hid
    rw [h.contents] at hid
    rw [h.size, h.sort_eq, h.sort_eq]
    exact ha.contents id inner hid

theorem extends_ (h : Relinks a b) (hparent : ∀ id, a.scaffolds id = true → b.parent? id = a.parent? id) :
    a.Extends b where
  size := h.size.ge
  sort id _ := h.sort_eq id
  parent := hparent
  fresh := by
    intro id hid
    rw [scaffolds, h.sort_eq]
    exact (Extends.refl a).fresh id hid

end Relinks

theorem Linked.relinks_detach (h : a.Linked) (id : CellId) : Relinks a (a.detach id) :=
  ⟨size_detach a id, h.data_detach id, h.contents?_detach id⟩

/-- Any cell can be taken away, one of the scaffold too. -/
theorem Sound.sound_detach (h : a.Sound) (id : CellId) : (a.detach id).Sound := by
  refine (h.linked.relinks_detach id).sound h (h.linked.detach id) fun other parent hother => ?_
  rw [h.linked.parent?_detach] at hother
  split at hother
  · cases hother
  · exact .inl hother

theorem ne_of_scaffolds {id other : CellId} (hfree : a.scaffolds id = false)
    (hother : a.scaffolds other = true) : other ≠ id := by
  rintro rfl
  rw [hother] at hfree
  cases hfree

theorem Sound.detach (h : a.Sound) {id : CellId} (hfree : a.scaffolds id = false) :
    Grown a (a.detach id) := by
  refine ⟨h.sound_detach id, (h.linked.relinks_detach id).extends_ fun other hother => ?_⟩
  rw [h.linked.parent?_detach, if_neg (ne_of_scaffolds hfree hother)]

/-- Make a node that stands nowhere a child of another, at a place among its children. -/
def attach (a : Arena) (parent id : CellId) (place : Array CellId → Array CellId) : Arena :=
  (a.modify parent fun c => { c with children := place c.children }).modify id fun c =>
    { c with parent := some parent }

section

variable {parent id : CellId} {place : Array CellId → Array CellId}

theorem cell_attach (hparent : parent < a.cells.size) (hid : id < a.cells.size) (other : CellId) :
    (a.attach parent id place).cell other =
      ⟨a.data other, if other = id then some parent else a.parent? other,
        if other = parent then place (a.children other) else a.children other, a.contents? other⟩ := by
  rw [attach, cell_modify _ _ _ _ (by rwa [size_modify]), cell_modify _ _ _ _ hparent]
  by_cases hother : other = id
  · rw [if_pos hother, if_pos hother]
    split <;> rfl
  · rw [if_neg hother, if_neg hother]
    split <;> rfl

theorem relinks_attach (hparent : parent < a.cells.size) (hid : id < a.cells.size) :
    Relinks a (a.attach parent id place) where
  size := by rw [attach, size_modify, size_modify]
  data other := by rw [data, cell_attach hparent hid]
  contents other := by rw [contents?, cell_attach hparent hid]

theorem parent?_attach (hparent : parent < a.cells.size) (hid : id < a.cells.size) (other : CellId) :
    (a.attach parent id place).parent? other = if other = id then some parent else a.parent? other := by
  rw [parent?, cell_attach hparent hid]

theorem Linked.attach (h : a.Linked) (hparent : parent < a.cells.size) (hid : id < a.cells.size)
    (hnone : a.parent? id = none)
    (hplace : (place (a.children parent)).toList.Perm (id :: (a.children parent).toList)) :
    (a.attach parent id place).Linked := by
  have hnew : ∀ other, id ∉ (a.children other).toList := by
    intro other hmem
    rw [(h.mem_children_iff other id).mp hmem] at hnone
    cases hnone
  have hchildren : ∀ other, (a.attach parent id place).children other =
      if other = parent then place (a.children other) else a.children other := by
    intro other
    rw [children, cell_attach hparent hid]
  constructor
  · intro other child
    rw [hchildren, parent?_attach hparent hid]
    by_cases hother : other = parent
    · subst hother
      rw [if_pos rfl, hplace.mem_iff, List.mem_cons, h.mem_children_iff]
      by_cases hchild : child = id
      · simp [hchild]
      · simp [hchild]
    · rw [if_neg hother, h.mem_children_iff]
      by_cases hchild : child = id
      · subst hchild
        simp [hnone, Ne.symm hother]
      · rw [if_neg hchild]
  · intro other
    rw [hchildren]
    split
    · rename_i hother
      subst hother
      rw [hplace.nodup_iff, List.nodup_cons]
      exact ⟨hnew other, h.nodup_children other⟩
    · exact h.nodup_children other

/-- Any cell can be made a child where it has no parent, one of the scaffold too. -/
theorem Sound.sound_attach (h : a.Sound) (hparent : a.IsPlace parent) (hid : a.sort id ≠ .root)
    (hnone : a.parent? id = none)
    (hplace : (place (a.children parent)).toList.Perm (id :: (a.children parent).toList)) :
    (a.attach parent id place).Sound := by
  have hlt := lt_size_of_sort hid
  refine (relinks_attach hparent.lt hlt).sound h (h.linked.attach hparent.lt hlt hnone hplace)
    fun other target hother => ?_
  rw [parent?_attach hparent.lt hlt] at hother
  split at hother
  · rename_i heq
    obtain rfl := Option.some.inj hother
    exact .inr ⟨heq ▸ hid, hparent.sort⟩
  · exact .inl hother

theorem Sound.attach (h : a.Sound) (hparent : a.IsPlace parent) (hid : a.IsMovable id)
    (hnone : a.parent? id = none)
    (hplace : (place (a.children parent)).toList.Perm (id :: (a.children parent).toList)) :
    Grown a (a.attach parent id place) := by
  refine ⟨h.sound_attach hparent hid.sort hnone hplace,
    (relinks_attach hparent.lt hid.lt).extends_ fun other hother => ?_⟩
  rw [parent?_attach hparent.lt hid.lt, if_neg (ne_of_scaffolds hid.free hother)]

theorem Linked.parent?_detach_self (h : a.Linked) (id : CellId) : (a.detach id).parent? id = none := by
  rw [h.parent?_detach, if_pos rfl]

theorem perm_push (children : Array CellId) (id : CellId) :
    (children.push id).toList.Perm (id :: children.toList) := by
  rw [Array.toList_push]
  exact List.perm_append_singleton id _

theorem append_eq (a : Arena) (parent id : CellId) :
    a.append parent id = (a.detach id).attach parent id fun children => children.push id := rfl

theorem Sound.append (h : a.Sound) (hparent : a.IsPlace parent) (hid : a.IsMovable id) :
    Grown a (a.append parent id) := by
  have hdetach := h.detach hid.free
  rw [append_eq]
  exact hdetach.trans (hdetach.sound.attach (hdetach.extends_.isPlace hparent)
    (hdetach.extends_.isMovable hid) (h.linked.parent?_detach_self id) (perm_push _ id))

/-- Whatever cell is put behind the last child of another one, this is its parent then, and no other cell
gets or loses one. -/
theorem Sound.sound_append (h : a.Sound) (hparent : a.IsPlace parent) (hid : a.sort id ≠ .root) :
    (a.append parent id).Sound ∧ Relinks a (a.append parent id) ∧
      ∀ other, (a.append parent id).parent? other = if other = id then some parent else a.parent? other := by
  have hdetach := h.linked.relinks_detach id
  have hplace : (a.detach id).IsPlace parent :=
    ⟨hparent.lt.trans_eq hdetach.size.symm, (hdetach.sort_eq parent).symm ▸ hparent.sort⟩
  have hsort : (a.detach id).sort id ≠ .root := (hdetach.sort_eq id).symm ▸ hid
  have hlt := lt_size_of_sort hsort
  rw [append_eq]
  refine ⟨(h.sound_detach id).sound_attach hplace hsort (h.linked.parent?_detach_self id) (perm_push _ id),
    hdetach.trans (relinks_attach hplace.lt hlt), fun other => ?_⟩
  rw [parent?_attach hplace.lt hlt, h.linked.parent?_detach]
  split <;> rfl

theorem perm_insertBefore (children : Array CellId) (sibling id : CellId) :
    (children.insertIdxIfInBounds ((children.idxOf? sibling).getD 0) id).toList.Perm
      (id :: children.toList) := by
  have hbound : (children.idxOf? sibling).getD 0 ≤ children.toList.length := by
    cases hplace : children.idxOf? sibling with
    | none => exact Nat.zero_le _
    | some place =>
      obtain ⟨i, -, rfl⟩ := Option.map_eq_some_iff.mp hplace
      exact i.isLt.le
  generalize (children.idxOf? sibling).getD 0 = place at hbound
  rcases children with ⟨ids⟩
  rw [List.insertIdxIfInBounds_toArray]
  exact List.perm_insertIdx id ids hbound

theorem Sound.insertBefore (h : a.Sound) (sibling : CellId) (hid : a.IsMovable id) :
    Grown a (a.insertBefore sibling id) := by
  have hdetach := h.detach hid.free
  unfold Arena.insertBefore
  dsimp only
  split
  · exact hdetach
  · rename_i parent hparent
    have hplace : (a.detach id).IsPlace parent := by
      refine ⟨?_, (hdetach.sound.inner _ _ hparent).2⟩
      exact lt_size_of_mem_children ((hdetach.sound.linked.mem_children_iff _ _).mpr hparent)
    have hattach : Grown (a.detach id) ((a.detach id).attach parent id fun children =>
        children.insertIdxIfInBounds ((children.idxOf? sibling).getD 0) id) :=
      hdetach.sound.attach hplace (hdetach.extends_.isMovable hid) (h.linked.parent?_detach_self id)
        (perm_insertBefore _ sibling id)
    exact hdetach.trans hattach

/-- Children that do not belong to the scaffold can be moved behind those of another node. -/
theorem Sound.moveChildren (h : a.Sound) {source target : CellId}
    (hchildren : ∀ id ∈ (a.children source).toList, a.scaffolds id = false) (htarget : a.IsPlace target) :
    Grown a (a.moveChildren source target) := by
  have hmovable : ∀ id ∈ (a.children source).toList, a.IsMovable id := by
    intro id hid
    have hparent := (h.linked.mem_children_iff source id).mp hid
    exact ⟨lt_size_of_parent? hparent, (h.inner id source hparent).1, hchildren id hid⟩
  unfold Arena.moveChildren
  rw [← Array.foldl_toList]
  refine List.foldlRecOn (motive := Grown a) _ _ (.refl h) fun moved hmoved id hid => ?_
  exact hmoved.trans (hmoved.sound.append (hmoved.extends_.isPlace htarget)
    (hmoved.extends_.isMovable (hmovable id hid)))

end

/-! ### Telling more in a cell -/

/-- Neither sorts nor parents and children have been changed. -/
structure Retells (a a' : Arena) : Prop where
  size : a'.cells.size = a.cells.size
  sort : ∀ id, a'.sort id = a.sort id
  parent : ∀ id, a'.parent? id = a.parent? id
  children : ∀ id, a'.children id = a.children id

theorem retells_modify {id : CellId} (hid : id < a.cells.size) {f : Cell → Cell}
    (hsort : ∀ cell, (f cell).data.sort = cell.data.sort)
    (hlinks : ∀ cell, (f cell).parent = cell.parent ∧ (f cell).children = cell.children) :
    Retells a (a.modify id f) := by
  have hcell := fun other => cell_modify a id f other hid
  refine ⟨size_modify a id f, fun other => ?_, fun other => ?_, fun other => ?_⟩
  · rw [sort, data, hcell]
    split
    · exact hsort _
    · rfl
  · rw [parent?, hcell]
    split
    · exact (hlinks _).1
    · rfl
  · rw [children, hcell]
    split
    · exact (hlinks _).2
    · rfl

theorem Retells.grown (h : Retells a b) (ha : a.Sound)
    (hcontents : ∀ id inner, b.contents? id = some inner → a.contents? id = some inner ∨
      inner < a.cells.size ∧ a.sort inner = .root ∧ a.sort id = .element .html .template) : Grown a b where
  sound :=
    { linked := by
        constructor
        · intro parent id
          rw [h.children, h.parent]
          exact ha.linked.mem_children_iff parent id
        · intro parent
          rw [h.children]
          exact ha.linked.nodup_children parent
      pos := h.size ▸ ha.pos
      page := (h.sort page).trans ha.page
      inner := by
        intro id parent hid
        rw [h.parent] at hid
        rw [h.sort, h.sort]
        exact ha.inner id parent hid
      contents := by
        intro id inner hid
        rw [h.size, h.sort, h.sort]
        exact (hcontents id inner hid).elim (ha.contents id inner) fun hnew => hnew }
  extends_ :=
    { size := h.size.ge
      sort := fun id _ => h.sort id
      parent := fun id _ => h.parent id
      fresh := by
        intro id hid
        rw [scaffolds, h.sort]
        exact (Extends.refl a).fresh id hid }

/-- What a cell holds may change as long as its sort and its links do not. -/
theorem Sound.modify (h : a.Sound) {id : CellId} (hid : id < a.cells.size) {f : Cell → Cell}
    (hsort : ∀ cell, (f cell).data.sort = cell.data.sort)
    (hlinks : ∀ cell, (f cell).parent = cell.parent ∧ (f cell).children = cell.children)
    (hcontents : ∀ cell, (f cell).contents = cell.contents) : Grown a (a.modify id f) := by
  refine (retells_modify hid hsort hlinks).grown h fun other inner hother => ?_
  rw [contents?, cell_modify a id f other hid] at hother
  split at hother
  · rw [hcontents] at hother
    exact .inl hother
  · exact .inl hother

theorem Sound.pushChar (h : a.Sound) {id : CellId} (hid : id < a.cells.size) (ch : Char) :
    Grown a (a.pushChar id ch) := by
  refine h.modify hid ?_ ?_ ?_
  · intro cell
    split <;> rfl
  · intro cell
    split <;> exact ⟨rfl, rfl⟩
  · intro cell
    split <;> rfl

theorem Sound.addMissingAttrs (h : a.Sound) {id : CellId} (hid : id < a.cells.size) (attrs : Attributes) :
    Grown a (a.addMissingAttrs id attrs) := by
  refine h.modify hid ?_ ?_ ?_
  · intro cell
    split
    · rename_i hdata
      rw [hdata]
      rfl
    · rfl
  · intro cell
    split <;> exact ⟨rfl, rfl⟩
  · intro cell
    split <;> rfl

/-! ### New cells -/

theorem sort_add_of_ne {data : CellData} {id : CellId} (h : id ≠ a.cells.size) :
    (a.add data).1.sort id = a.sort id := by
  rw [sort, Arena.data, cell_add, if_neg h, sort, Arena.data]

theorem size_add (a : Arena) (data : CellData) : (a.add data).1.cells.size = a.cells.size + 1 :=
  Array.size_push _

theorem sort_add (a : Arena) (data : CellData) : (a.add data).1.sort a.cells.size = data.sort := by
  rw [sort, Arena.data, cell_add, if_pos rfl]

/-- A new cell has no links. -/
theorem links_add (a : Arena) (data : CellData) (id : CellId) :
    (a.add data).1.parent? id = a.parent? id ∧ (a.add data).1.children id = a.children id ∧
      (a.add data).1.contents? id = a.contents? id := by
  rw [parent?, children, contents?, cell_add]
  split
  · rename_i hid
    have hdefault : a.cell id = default := by
      rw [cell, Array.getD_eq_getD_getElem?, Array.getElem?_eq_none hid.ge]
      rfl
    rw [parent?, children, contents?, hdefault]
    exact ⟨rfl, rfl, rfl⟩
  · exact ⟨rfl, rfl, rfl⟩

theorem Sound.add (h : a.Sound) (data : CellData) : (a.add data).1.Sound := by
  have hsort : ∀ id < a.cells.size, (a.add data).1.sort id = a.sort id := fun id hid => sort_add_of_ne hid.ne
  have hlinks := links_add a data
  constructor
  · constructor
    · intro parent id
      rw [(hlinks parent).2.1, (hlinks id).1]
      exact h.linked.mem_children_iff parent id
    · intro parent
      rw [(hlinks parent).2.1]
      exact h.linked.nodup_children parent
  · rw [size_add]
    exact Nat.succ_pos _
  · rw [hsort Arena.page h.pos, h.page]
  · intro id parent hid
    rw [(hlinks id).1] at hid
    have hparent := lt_size_of_mem_children ((h.linked.mem_children_iff parent id).mpr hid)
    rw [hsort id (lt_size_of_parent? hid), hsort parent hparent]
    exact h.inner id parent hid
  · intro id inner hid
    rw [(hlinks id).2.2] at hid
    obtain ⟨hinner, hroot, htemplate⟩ := h.contents id inner hid
    rw [size_add, hsort inner hinner, hsort id (lt_size_of_element htemplate)]
    exact ⟨Nat.lt_succ_of_lt hinner, hroot, htemplate⟩

/-- A new node that does not belong to the scaffold, in no tree yet. -/
theorem Sound.grown_add (h : a.Sound) (data : CellData) (hfree : data.sort.isScaffold = false) :
    Grown a (a.add data).1 := by
  refine ⟨h.add data, (size_add a data).ge.trans' (Nat.le_succ _), fun id hid => sort_add_of_ne hid.ne,
    fun id _ => (links_add a data id).1, fun id hid => ?_⟩
  rcases hid.eq_or_lt with rfl | hlt
  · rw [scaffolds, sort_add]
    exact hfree
  · rw [scaffolds, sort_add_of_ne hlt.ne']
    exact (Extends.refl a).fresh id hid

theorem isMovable_add (a : Arena) (data : CellData) (hroot : data.sort ≠ .root)
    (hfree : data.sort.isScaffold = false) : (a.add data).1.IsMovable a.cells.size := by
  refine ⟨?_, ?_, ?_⟩
  · rw [size_add]
    exact Nat.lt_succ_self _
  · rw [sort_add]
    exact hroot
  · rw [scaffolds, sort_add]
    exact hfree

/-- Put a new leaf behind the last child of a node. -/
theorem Sound.append_leaf (h : a.Sound) (data : CellData) (hleaf : data.sort = .leaf) {parent : CellId}
    (hparent : a.IsPlace parent) : Grown a ((a.add data).1.append parent a.cells.size) := by
  have hfree : data.sort.isScaffold = false := by
    rw [hleaf]
    rfl
  have hadd := h.grown_add data hfree
  have hmovable := isMovable_add a data (hleaf.trans_ne CellSort.noConfusion) hfree
  exact hadd.trans (hadd.sound.append (hadd.extends_.isPlace hparent) hmovable)

theorem Sound.appendChar (h : a.Sound) {parent : CellId} (hparent : a.IsPlace parent) (ch : Char) :
    Grown a (a.appendChar parent ch) := by
  have hfresh := h.append_leaf (.text (String.singleton ch)) rfl hparent
  unfold Arena.appendChar
  split
  · rename_i last hlast
    split
    · have hmem : last ∈ (a.children parent).toList :=
        Array.mem_toList_iff.mpr (Array.mem_of_back? hlast)
      exact h.pushChar (lt_size_of_parent? ((h.linked.mem_children_iff _ _).mp hmem)) ch
    · exact hfresh
  · exact hfresh

theorem Sound.insertCharBefore (h : a.Sound) (sibling : CellId) (ch : Char) :
    Grown a (a.insertCharBefore sibling ch) := by
  have hadd := h.grown_add (.text (String.singleton ch)) rfl
  have hmovable := isMovable_add a (.text (String.singleton ch)) CellSort.noConfusion rfl
  have hfresh := hadd.trans (hadd.sound.insertBefore sibling hmovable)
  unfold Arena.insertCharBefore
  dsimp only
  split
  · rename_i previous hprevious
    split
    · obtain ⟨parent, -, hplace⟩ := Option.bind_eq_some_iff.mp hprevious
      obtain ⟨place, -, hfound⟩ := Option.bind_eq_some_iff.mp hplace
      have hmem : previous ∈ (a.children parent).toList := by
        split at hfound
        · cases hfound
        · exact Array.mem_toList_iff.mpr (Array.mem_of_getElem? hfound)
      exact h.pushChar (lt_size_of_parent? ((h.linked.mem_children_iff _ _).mp hmem)) ch
    · exact hfresh
  · exact hfresh

/-- A new element stands in a cell of its own, in no tree yet. -/
structure Added (a : Arena) (space : Space) (tag : Tag) (a' : Arena) (id : CellId) : Prop where
  sound : a'.Sound
  size : a.cells.size ≤ a'.cells.size
  old : ∀ other < a.cells.size, a'.sort other = a.sort other
  parent : ∀ other, a'.parent? other = a.parent? other
  fresh : a.cells.size ≤ id
  sort : a'.sort id = .element space tag
  others : ∀ other, a.cells.size ≤ other → other ≠ id → a'.sort other = .root

/-- The contents of a template get a root of their own, which stands in no tree. -/
theorem Sound.added_template (h : a.Sound) (attrs : Attributes) :
    let rooted := (a.add .root).1
    let both := (rooted.add (.element .html .template attrs)).1
    Added a .html .template
      (both.modify rooted.cells.size fun c => { c with contents := some a.cells.size })
      rooted.cells.size := by
  intro rooted both
  have hrooted : rooted.cells.size = a.cells.size + 1 := size_add a .root
  have hsize : both.cells.size = a.cells.size + 2 := (size_add rooted _).trans (congrArg (· + 1) hrooted)
  have hsound : both.Sound := (h.add .root).add _
  have helement : both.sort rooted.cells.size = .element .html .template := sort_add rooted _
  have hold : ∀ id, id ≠ a.cells.size → id ≠ rooted.cells.size → both.sort id = a.sort id := by
    intro id hroot hnew
    exact (sort_add_of_ne hnew).trans (sort_add_of_ne hroot)
  have hne : a.cells.size ≠ rooted.cells.size := by omega
  have hlt : a.cells.size < both.cells.size := by omega
  have hinner : both.sort a.cells.size = .root := (sort_add_of_ne hne).trans (sort_add a .root)
  have hset : Retells both (both.modify rooted.cells.size fun c => { c with contents := some a.cells.size }) :=
    retells_modify (lt_size_of_element helement) (fun _ => rfl) fun _ => ⟨rfl, rfl⟩
  have hgrown := hset.grown hsound fun id inner hid => ?_
  · refine ⟨hgrown.sound, ?_, ?_, ?_, ?_, (hset.sort _).trans helement, ?_⟩
    · rw [hset.size, hsize]
      omega
    · intro id hid
      rw [hset.sort, hold id (by omega) (by omega)]
    · intro id
      exact (hset.parent id).trans ((links_add rooted _ id).1.trans (links_add a _ id).1)
    · omega
    · intro id hid hne
      rw [hset.sort]
      by_cases hroot : id = a.cells.size
      · rw [hroot, hinner]
      · rw [hold id hroot hne, sort_of_size_le hid]
  · -- only the new template has new contents
    rw [contents?, cell_modify _ _ _ _ (lt_size_of_element helement)] at hid
    split at hid
    · rename_i heq
      obtain rfl := Option.some.inj hid
      exact .inr ⟨hlt, hinner, heq ▸ helement⟩
    · exact .inl hid

/-- Any element can be added, one of the scaffold too. -/
theorem Sound.addElement (h : a.Sound) (space : Space) (tag : Tag) (attrs : Attributes) :
    Added a space tag (a.addElement space tag attrs).1 (a.addElement space tag attrs).2 := by
  by_cases htemplate : space = .html ∧ tag = .template
  · rw [Arena.addElement, if_pos htemplate]
    obtain ⟨rfl, rfl⟩ := htemplate
    exact h.added_template attrs
  · rw [Arena.addElement, if_neg htemplate]
    refine ⟨h.add _, ?_, ?_, fun id => (links_add a _ id).1, le_rfl, sort_add a _, ?_⟩
    · exact (size_add a _).ge.trans' (Nat.le_succ _)
    · exact fun id hid => sort_add_of_ne hid.ne
    · intro id hid hne
      rw [sort_add_of_ne hne, sort_of_size_le hid]

namespace Added

variable {space : Space} {tag : Tag} {id : CellId}

/-- An element that does not belong to the scaffold makes the arena grow. -/
theorem grown (h : Added a space tag b id) (hfree : (CellSort.element space tag).isScaffold = false) :
    Grown a b := by
  refine ⟨h.sound, h.size, h.old, fun other _ => h.parent other, fun other hother => ?_⟩
  rw [scaffolds]
  by_cases heq : other = id
  · rw [heq, h.sort]
    exact hfree
  · rw [h.others other hother heq]
    rfl

theorem isMovable (h : Added a space tag b id) (hfree : (CellSort.element space tag).isScaffold = false) :
    b.IsMovable id :=
  isMovable_of_element h.sort hfree

end Added

/-- A new element stands behind the last child of a node. -/
structure Inserted (a : Arena) (parent : CellId) (tag : Tag) (a' : Arena) (id : CellId) : Prop where
  sound : a'.Sound
  size : a.cells.size ≤ a'.cells.size
  old : ∀ other < a.cells.size, a'.sort other = a.sort other
  parent : ∀ other, a'.parent? other = if other = id then some parent else a.parent? other
  fresh : a.cells.size ≤ id
  sort : a'.sort id = .element .html tag
  others : ∀ other, a.cells.size ≤ other → other ≠ id → a'.sort other = .root

/-- Any element can be put into any place, one of the scaffold too. -/
theorem Sound.inserted (h : a.Sound) {parent : CellId} (hparent : a.IsPlace parent) (tag : Tag)
    (attrs : Attributes) :
    Inserted a parent tag ((a.addElement .html tag attrs).1.append parent (a.addElement .html tag attrs).2)
      (a.addElement .html tag attrs).2 := by
  have hadded := h.addElement .html tag attrs
  have hplace : (a.addElement .html tag attrs).1.IsPlace parent :=
    ⟨hparent.lt.trans_le hadded.size, hadded.old parent hparent.lt ▸ hparent.sort⟩
  have hsort : (a.addElement .html tag attrs).1.sort (a.addElement .html tag attrs).2 ≠ .root := by
    rw [hadded.sort]
    exact CellSort.noConfusion
  obtain ⟨hsound, hrelinks, hparents⟩ := hadded.sound.sound_append hplace hsort
  refine ⟨hsound, hrelinks.size ▸ hadded.size, ?_, ?_, hadded.fresh, ?_, ?_⟩
  · intro other hother
    rw [hrelinks.sort_eq, hadded.old other hother]
  · intro other
    rw [hparents, hadded.parent]
  · rw [hrelinks.sort_eq, hadded.sort]
  · intro other hother hne
    rw [hrelinks.sort_eq, hadded.others other hother hne]

namespace Inserted

variable {parent id : CellId} {tag : Tag}

/-- What there was keeps its place. -/
theorem parent_old (h : Inserted a parent tag b id) {other : CellId} (hother : other < a.cells.size) :
    b.parent? other = a.parent? other := by
  rw [h.parent, if_neg (hother.trans_le h.fresh).ne]

/-- Every element is the new one or an old one. -/
theorem of_element (h : Inserted a parent tag b id) {other : CellId} {space : Space} {own : Tag}
    (hother : b.sort other = .element space own) :
    other = id ∨ other < a.cells.size ∧ a.sort other = .element space own := by
  by_cases hlt : other < a.cells.size
  · exact .inr ⟨hlt, (h.old other hlt).symm.trans hother⟩
  · by_contra hnew
    rw [h.others other (Nat.le_of_not_lt hlt) fun heq => hnew (.inl heq)] at hother
    cases hother

theorem element (h : Inserted a parent tag b id) {other : CellId} {space : Space} {own : Tag}
    (hother : a.sort other = .element space own) : b.sort other = .element space own :=
  (h.old other (lt_size_of_element hother)).trans hother

end Inserted

end Arena

end PageBlocks.Markup
