import PageBlocks.Proofs.Markup.Scaffold.Cells
import PageBlocks.Proofs.Markup.Elements

/-!
The page in a sound arena. Every cell that stands below the page does so along one path, and no path comes
back to a cell, so what stands below the page are trees. The elements of these trees are the cells that
hold elements.
-/
namespace PageBlocks.Markup

/-- Every cell of trees belongs to one of them. -/
theorem LinkedTree.exists_of_mem_idsAll {ts : List LinkedTree} {id : CellId} (h : id ∈ idsAll ts) :
    ∃ t ∈ ts, id ∈ t.ids := by
  induction ts with
  | nil => cases h
  | cons t ts ih =>
    rcases List.mem_append.mp h with h | h
    · exact ⟨t, List.mem_cons_self, h⟩
    · obtain ⟨t', ht', hid⟩ := ih h
      exact ⟨t', List.mem_cons_of_mem t ht', hid⟩

theorem LinkedTree.shownAll_iff {a : Arena} {ts : List LinkedTree} : ShownAll a ts ↔ ∀ t ∈ ts, t.Shown a := by
  induction ts with
  | nil => simp [ShownAll]
  | cons t ts ih => rw [ShownAll, ih, List.forall_mem_cons]

namespace Arena

open LinkedTree

variable {a : Arena} {id parent : CellId} {path : List CellId}

/-! ### Paths -/

/-- The cells lead up to the page, each to its parent. -/
inductive Ascends (a : Arena) : List CellId → Prop
  | page : Ascends a [page]
  | child {id parent : CellId} {path : List CellId} : Ascends a (parent :: path) → a.parent? id = some parent →
    Ascends a (id :: parent :: path)

theorem Sound.parent?_page (h : a.Sound) : a.parent? Arena.page = none := by
  cases hparent : a.parent? Arena.page with
  | none => rfl
  | some parent => exact absurd h.page (h.inner _ parent hparent).1

namespace Ascends

/-- There is one path up from a cell. -/
theorem unique (h : a.Sound) {path' : List CellId} (hpath : a.Ascends (id :: path))
    (hpath' : a.Ascends (id :: path')) : path = path' := by
  have hpage : ∀ {parent : CellId}, a.parent? Arena.page ≠ some parent := by
    intro parent hparent
    rw [h.parent?_page] at hparent
    cases hparent
  induction path generalizing id path' with
  | nil =>
    cases hpath
    cases hpath' with
    | page => rfl
    | child _ hparent => exact absurd hparent hpage
  | cons parent path ih =>
    cases hpath with
    | child hup hparent =>
      cases hpath' with
      | page => exact absurd hparent hpage
      | child hup' hparent' =>
        obtain rfl := Option.some.inj (hparent.symm.trans hparent')
        rw [ih hup hup']

theorem drop {front : List CellId} (hpath : a.Ascends (front ++ id :: path)) : a.Ascends (id :: path) := by
  induction front with
  | nil => exact hpath
  | cons first front ih =>
    apply ih
    cases front with
    | nil => cases hpath with | child hup => exact hup
    | cons => cases hpath with | child hup => exact hup

/-- No path comes back to a cell. -/
theorem nodup (h : a.Sound) (hpath : a.Ascends path) : path.Nodup := by
  induction hpath with
  | page => exact List.pairwise_singleton _ _
  | @child id parent path hup hparent ih =>
    refine List.nodup_cons.mpr ⟨fun hmem => ?_, ih⟩
    obtain ⟨front, rest, heq⟩ := List.append_of_mem hmem
    have hown : a.Ascends (id :: parent :: path) := .child hup hparent
    rw [heq] at hup
    have hsame := hup.drop.unique h hown
    have hlength := congrArg List.length heq
    rw [hsame, List.length_append, List.length_cons, List.length_cons, List.length_cons] at hlength
    omega

theorem lt_size (h : a.Sound) (hpath : a.Ascends path) : ∀ other ∈ path, other < a.cells.size := by
  induction hpath with
  | page => exact List.forall_mem_singleton.mpr h.pos
  | child _ hparent ih => exact List.forall_mem_cons.mpr ⟨lt_size_of_parent? hparent, ih⟩

theorem length_le (h : a.Sound) (hpath : a.Ascends path) : path.length ≤ a.cells.size :=
  length_le_size (hpath.nodup h) (hpath.lt_size h)

end Ascends

/-! ### Trees below a path -/

/-- The tree stands in its cells right below a path, and no cell is in it twice. -/
structure Hangs (a : Arena) (path : List CellId) (t : LinkedTree) : Prop where
  shown : t.Shown a
  nodup : t.ids.Nodup
  paths : ∀ other ∈ t.ids, ∃ rest, a.Ascends (other :: rest) ∧ t.root :: path <:+ other :: rest

/-- Trees below one path have no cells in common. -/
theorem Hangs.disjoint (h : a.Sound) {t t' : LinkedTree} (ht : a.Hangs path t) (ht' : a.Hangs path t')
    (hne : t.root ≠ t'.root) : t.ids.Disjoint t'.ids := by
  intro other hmem hmem'
  obtain ⟨rest, hpath, hsuffix⟩ := ht.paths other hmem
  obtain ⟨rest', hpath', hsuffix'⟩ := ht'.paths other hmem'
  rw [← hpath.unique h hpath'] at hsuffix'
  have hsame := (List.suffix_of_suffix_length_le hsuffix hsuffix' (by simp)).eq_of_length (by simp)
  exact hne (List.cons.inj hsame).1

theorem nodup_idsAll (h : a.Sound) {ts : List LinkedTree} (hts : ∀ t ∈ ts, a.Hangs path t)
    (hroots : (ts.map LinkedTree.root).Nodup) : (idsAll ts).Nodup := by
  induction ts with
  | nil => exact List.nodup_nil
  | cons t ts ih =>
    obtain ⟨ht, hrest⟩ := List.forall_mem_cons.mp hts
    rw [List.map_cons] at hroots
    obtain ⟨hroot, hroots⟩ := List.nodup_cons.mp hroots
    refine List.nodup_append.mpr ⟨ht.nodup, ih hrest hroots, fun other hmem other' hmem' heq => ?_⟩
    subst heq
    obtain ⟨t', ht', hother⟩ := exists_of_mem_idsAll hmem'
    refine ht.disjoint h (hrest t' ht') (fun heq => hroot ?_) hmem hother
    rw [heq]
    exact List.mem_map_of_mem ht'

/-- What hangs below the children of a cell hangs below the cell. -/
theorem exists_hanging_children (h : a.Sound) (path : List CellId)
    (htrees : ∀ child, a.parent? child = some id → ∃ t, t.root = child ∧ a.Hangs (id :: path) t) :
    ∃ ts, (a.children id).toList = ts.map LinkedTree.root ∧ (∀ t ∈ ts, a.Hangs (id :: path) t) ∧
      (idsAll ts).Nodup := by
  have hchoose : ∀ children : List CellId, (∀ child ∈ children, a.parent? child = some id) →
      ∃ ts : List LinkedTree, children = ts.map LinkedTree.root ∧ ∀ t ∈ ts, a.Hangs (id :: path) t := by
    intro children hchildren
    induction children with
    | nil => exact ⟨[], rfl, List.forall_mem_nil _⟩
    | cons child children ih =>
      obtain ⟨hchild, hrest⟩ := List.forall_mem_cons.mp hchildren
      obtain ⟨t, rfl, ht⟩ := htrees child hchild
      obtain ⟨ts, rfl, hts⟩ := ih hrest
      exact ⟨t :: ts, rfl, List.forall_mem_cons.mpr ⟨ht, hts⟩⟩
  obtain ⟨ts, hroots, hts⟩ := hchoose (a.children id).toList fun child => (h.linked.mem_children_iff id child).mp
  exact ⟨ts, hroots, hts, nodup_idsAll h hts (hroots ▸ h.linked.nodup_children id)⟩

theorem hangs_leaf (h : a.Sound) (hpath : a.Ascends (id :: path)) {self : Leaf} (hdata : a.data id = self.data) :
    a.Hangs path (.leaf id self) where
  shown := by
    refine ⟨hdata, Array.toList_eq_nil_iff.mp (List.eq_nil_iff_forall_not_mem.mpr fun child hchild => ?_)⟩
    have hleaf := (h.inner child id ((h.linked.mem_children_iff id child).mp hchild)).2
    rw [sort, hdata] at hleaf
    cases self <;> exact hleaf rfl
  nodup := List.pairwise_singleton _ _
  paths other hother := by
    obtain rfl := List.mem_singleton.mp hother
    exact ⟨path, hpath, List.suffix_rfl⟩

/-- An element with the trees that hang below it. -/
theorem hangs_element (h : a.Sound) (hpath : a.Ascends (id :: path)) {space : Space} {tag : Tag}
    {attrs : Attributes} (hdata : a.data id = .element space tag attrs) {ts : List LinkedTree}
    (hroots : (a.children id).toList = ts.map LinkedTree.root) (hts : ∀ t ∈ ts, a.Hangs (id :: path) t)
    (hnodup : (idsAll ts).Nodup) : a.Hangs path (.element id space tag attrs ts) := by
  have hpaths : ∀ other ∈ idsAll ts, ∃ rest, a.Ascends (other :: rest) ∧ id :: path <:+ rest := by
    intro other hother
    obtain ⟨t, ht, hmem⟩ := exists_of_mem_idsAll hother
    obtain ⟨rest, hup, front, hfront⟩ := (hts t ht).paths other hmem
    refine ⟨rest, hup, ?_⟩
    cases front with
    | nil => exact ⟨[], (List.cons.inj hfront).2⟩
    | cons first front =>
      have hrest := (List.cons.inj hfront).2
      exact ⟨front ++ [t.root], by rw [← hrest, List.append_assoc]; rfl⟩
  refine ⟨⟨hdata, hroots, shownAll_iff.mpr fun t ht => (hts t ht).shown⟩, ?_, ?_⟩
  · refine List.nodup_cons.mpr ⟨fun hmem => ?_, hnodup⟩
    obtain ⟨rest, hup, hsuffix⟩ := hpaths id hmem
    rw [hup.unique h hpath] at hsuffix
    have hlength := hsuffix.length_le
    rw [List.length_cons] at hlength
    omega
  · refine List.forall_mem_cons.mpr ⟨⟨path, hpath, List.suffix_rfl⟩, fun other hother => ?_⟩
    obtain ⟨rest, hup, hsuffix⟩ := hpaths other hother
    exact ⟨rest, hup, hsuffix.trans (List.suffix_cons other rest)⟩

/-- A tree hangs in every cell below the page: the paths below it cannot become longer and longer. -/
theorem exists_hanging (h : a.Sound) {n : Nat} (hn : a.cells.size < path.length + n)
    (hpath : a.Ascends (id :: path)) (hid : a.sort id ≠ .root) : ∃ t, t.root = id ∧ a.Hangs path t := by
  induction n generalizing id path with
  | zero =>
    have hlength := hpath.length_le h
    rw [List.length_cons] at hlength
    omega
  | succ n ih =>
    have hleaf : ∀ self : Leaf, a.data id = self.data → ∃ t, LinkedTree.root t = id ∧ a.Hangs path t :=
      fun _ hdata => ⟨_, rfl, hangs_leaf h hpath hdata⟩
    cases hdata : a.data id with
    | root =>
      refine absurd ?_ hid
      rw [sort, hdata]
      rfl
    | text value => exact hleaf (.text value) hdata
    | comment value => exact hleaf (.comment value) hdata
    | doctype name => exact hleaf (.doctype name) hdata
    | element space tag attrs =>
      obtain ⟨ts, hroots, hts, hnodup⟩ := exists_hanging_children h path fun child hchild =>
        ih (by rw [List.length_cons]; omega) (.child hpath hchild) (h.inner child id hchild).1
      exact ⟨_, rfl, hangs_element h hpath hdata hroots hts hnodup⟩

/-- What stands below the page are trees. -/
theorem Sound.exists_holds (h : a.Sound) :
    ∃ ts, a.Holds ts ∧ ∀ id ∈ idsAll ts, ∃ parent, a.parent? id = some parent := by
  obtain ⟨ts, hroots, hts, hnodup⟩ := exists_hanging_children h [] fun child hchild =>
    exists_hanging h (n := a.cells.size) (by simp) (.child .page hchild) (h.inner child _ hchild).1
  have hpaths : ∀ id ∈ idsAll ts, ∃ parent, a.parent? id = some parent := by
    intro id hid
    obtain ⟨t, ht, hmem⟩ := exists_of_mem_idsAll hid
    obtain ⟨rest, hup, hsuffix⟩ := (hts t ht).paths id hmem
    cases hup with
    | page =>
      have hlength := hsuffix.length_le
      simp at hlength
    | @child _ parent _ _ hparent => exact ⟨parent, hparent⟩
  refine ⟨ts, ⟨h.linked, shownAll_iff.mpr fun t ht => (hts t ht).shown, hroots, hnodup, fun id hid => ?_⟩, hpaths⟩
  obtain ⟨parent, hparent⟩ := hpaths id hid
  exact lt_size_of_parent? hparent

end Arena

/-! ### Elements of trees -/

/-- The vocabulary and the name of the element that a cell holds. -/
def Arena.name? (a : Arena) (id : CellId) : Option (Space × String) :=
  match a.sort id with
  | .element space tag => some (space, tag.toString)
  | _ => none

/-- The vocabulary and the name of an element. -/
def Element.name (e : Element) : Space × String := (e.space, e.tag)

namespace LinkedTree

mutual

/-- The elements of a tree have the names that its cells hold, in the same order. -/
theorem names_of_node {a : Arena} {t : LinkedTree} (h : t.Shown a) :
    (Node.elementsOf [t.node]).map (·.1.name) = t.ids.filterMap a.name? := by
  match t with
  | .leaf id self =>
    have hnone : a.name? id = none := by
      rw [Arena.name?, Arena.sort, h.1]
      cases self <;> rfl
    rw [ids, List.filterMap_cons_none hnone]
    cases self <;> rfl
  | .element id space tag attrs children =>
    have hsome : a.name? id = some (space, tag.toString) := by
      rw [Arena.name?, Arena.sort, h.1]
      rfl
    rw [node, Node.elementsOf_element, ids, List.map_cons, List.filterMap_cons_some hsome,
      names_of_nodes h.2.2]
    rfl

theorem names_of_nodes {a : Arena} {ts : List LinkedTree} (h : ShownAll a ts) :
    (Node.elementsOf (nodes ts)).map (·.1.name) = (idsAll ts).filterMap a.name? := by
  match ts with
  | [] => rfl
  | t :: ts =>
    rw [nodes, Node.elementsOf_cons, idsAll, List.map_append, List.filterMap_append, names_of_node h.1,
      names_of_nodes h.2]

end

theorem nodes_eq_map (ts : List LinkedTree) : nodes ts = ts.map node := by
  induction ts with
  | nil => rfl
  | cons t ts ih => rw [nodes, ih, List.map_cons]

/-- The element of a cell that is the topmost one of a tree. -/
theorem exists_element {a : Arena} {ts : List LinkedTree} (h : ShownAll a ts) {id : CellId}
    (hid : id ∈ ts.map LinkedTree.root) {space : Space} {tag : Tag} (hsort : a.sort id = .element space tag) :
    ∃ attrs children, Node.element ⟨space, tag.toString, attrs⟩ (nodes children) ∈ nodes ts ∧
      (a.children id).toList = children.map LinkedTree.root ∧ ShownAll a children := by
  obtain ⟨t, ht, rfl⟩ := List.mem_map.mp hid
  have hshown := shownAll_iff.mp h t ht
  cases t with
  | leaf id self =>
    rw [root, Arena.sort, hshown.1] at hsort
    cases self <;> cases hsort
  | element id own ownTag attrs children =>
    rw [root, Arena.sort, hshown.1] at hsort
    injection hsort with hspace htag
    subst hspace htag
    refine ⟨attrs, children, ?_, hshown.2.1, hshown.2.2⟩
    rw [nodes_eq_map]
    exact List.mem_map_of_mem ht

end LinkedTree

end PageBlocks.Markup
