import PageBlocks.Proofs.Markup.CellTree

/-!
A tree while it is being built from open elements. Each of them knows its cell and the nodes that are
finished inside it; the arena holds them one inside the other. A node that is added goes behind the last
one of the innermost element, and an element that is closed becomes the last node of the one around it.
-/
namespace PageBlocks.Markup

/-- A character behind nodes: it goes to the text at their end, or becomes one. -/
def Node.pushChar (ns : List Node) (c : Char) : List Node :=
  match ns.getLast? with
  | some (.text value) => ns.dropLast ++ [.text (value.push c)]
  | _ => ns ++ [.text (String.singleton c)]

theorem Node.pushChar_text (ns : List Node) (value : String) (c : Char) :
    Node.pushChar (ns ++ [.text value]) c = ns ++ [.text (value.push c)] := by
  rw [pushChar, List.getLast?_concat, List.dropLast_concat]

theorem Node.pushChar_concat (ns : List Node) {n : Node} (h : ∀ value, n ≠ .text value) (c : Char) :
    Node.pushChar (ns ++ [n]) c = ns ++ [n] ++ [.text (String.singleton c)] := by
  rw [pushChar, List.getLast?_concat]
  split
  · rename_i heq
    exact absurd (Option.some.inj heq) (h _)
  · rfl

/-- An open element of HTML with what is finished inside it. -/
structure Frame (α : Type) where
  id : CellId
  tag : Tag
  attrs : Attributes
  done : List α
  deriving Inhabited

namespace Frame

/-- The element as a node that holds nothing but what is finished inside it. -/
def node (f : Frame Node) : Node := .element ⟨.html, f.tag.toString, f.attrs⟩ f.done

/-- What is finished inside the element, without its cells. -/
def bare (f : Frame CellTree) : Frame Node := ⟨f.id, f.tag, f.attrs, CellTree.nodes f.done⟩

/-- The element with its cells. -/
def tree (f : Frame CellTree) : CellTree := .element f.id f.tag f.attrs f.done

/-- The element with one more node in it. -/
def add {α : Type} (f : Frame α) (n : α) : Frame α := { f with done := f.done ++ [n] }

/-- The cells of the element and of what is finished inside it. -/
def ids (f : Frame CellTree) : List CellId := f.id :: CellTree.idsAll f.done

/-- The nodes below a page whose open elements are all closed, the innermost first. -/
def closed : List (Frame Node) → List Node
  | [] => []
  | f :: fs => go f.node fs
where
  go (inner : Node) : List (Frame Node) → List Node
    | [] => [inner]
    | f :: fs => go (f.add inner).node fs

end Frame

namespace Arena

open CellTree

/-! ### Single cells -/

theorem cell_add (a : Arena) (data : CellData) (id : CellId) :
    (a.add data).1.cell id =
      if id = a.cells.size then ⟨data, none, #[], none⟩ else a.cell id := by
  rw [cell, cell, add, Array.getD_eq_getD_getElem?, Array.getD_eq_getD_getElem?, Array.getElem?_push]
  split <;> rfl

theorem cell_modify (a : Arena) (id : CellId) (f : Cell → Cell) (other : CellId)
    (h : id < a.cells.size) :
    (a.modify id f).cell other = if other = id then f (a.cell other) else a.cell other := by
  rw [cell, cell, modify, Array.getD_eq_getD_getElem?, Array.getD_eq_getD_getElem?,
    Array.getElem?_modify]
  by_cases heq : id = other
  · subst heq
    simp [h]
  · simp [heq, Ne.symm heq]

theorem size_modify (a : Arena) (id : CellId) (f : Cell → Cell) :
    (a.modify id f).cells.size = a.cells.size := Array.size_modify

/-- Put a new node behind the last child of another. -/
def plant (a : Arena) (parent : CellId) (data : CellData) : Arena :=
  (a.add data).1.append parent a.cells.size

theorem plant_eq (a : Arena) (parent : CellId) (data : CellData) :
    a.plant parent data =
      ((a.add data).1.modify parent fun c => { c with children := c.children.push a.cells.size }).modify
        a.cells.size fun c => { c with parent := some parent } := by
  -- the new node has no parent to be taken away from
  have hparent : (a.add data).1.parent? a.cells.size = none := by
    rw [parent?, cell_add, if_pos rfl]
  rw [plant, append, detach, hparent]

theorem size_plant (a : Arena) (parent : CellId) (data : CellData) :
    (a.plant parent data).cells.size = a.cells.size + 1 := by
  rw [plant_eq, size_modify, size_modify]
  exact Array.size_push _

theorem cell_plant (a : Arena) {parent : CellId} (data : CellData) (h : parent < a.cells.size)
    (id : CellId) :
    (a.plant parent data).cell id =
      if id = a.cells.size then ⟨data, some parent, #[], none⟩
      else if id = parent then
        { a.cell parent with children := (a.cell parent).children.push a.cells.size }
      else a.cell id := by
  have hsize : (a.add data).1.cells.size = a.cells.size + 1 := Array.size_push _
  have hparent : parent < (a.add data).1.cells.size := by
    rw [hsize]
    exact Nat.lt_succ_of_lt h
  rw [plant_eq, cell_modify, cell_modify _ _ _ _ hparent, cell_add]
  by_cases hnew : id = a.cells.size
  · subst hnew
    rw [if_pos rfl, if_neg (Nat.ne_of_gt h), if_pos rfl, if_pos rfl]
  · rw [if_neg hnew, if_neg hnew, if_neg hnew]
    by_cases hid : id = parent
    · subst hid
      rfl
    · rw [if_neg hid, if_neg hid]
  · rw [size_modify, hsize]
    exact Nat.lt_succ_self _

/-! ### Open elements -/

/-- The arena holds the open elements, the innermost first; below the innermost one stands what has the
cell `inner`, if anything. -/
def Standing (a : Arena) : Option CellId → List (Frame CellTree) → Prop
  | inner, [] => (a.children page).toList = inner.toList
  | inner, f :: fs =>
    a.data f.id = .element .html f.tag f.attrs ∧ a.contents? f.id = none ∧
      (a.children f.id).toList = f.done.map CellTree.root ++ inner.toList ∧
      ShownAll a f.done ∧ Standing a (some f.id) fs

/-- The cells of a page with open elements. -/
def cellsOf (fs : List (Frame CellTree)) : List CellId := page :: fs.flatMap Frame.ids

/-- The arena holds the page with the open elements, the innermost first, and nothing twice. -/
def Builds (a : Arena) (fs : List (Frame Node)) : Prop :=
  ∃ gs : List (Frame CellTree), gs.map Frame.bare = fs ∧ a.Standing none gs ∧ (cellsOf gs).Nodup ∧
    ∀ id ∈ cellsOf gs, id < a.cells.size

theorem idsAll_append (ts us : List CellTree) : idsAll (ts ++ us) = idsAll ts ++ idsAll us := by
  rw [idsAll_eq_flatMap, idsAll_eq_flatMap, idsAll_eq_flatMap, List.flatMap_append]

theorem nodes_append (ts us : List CellTree) : nodes (ts ++ us) = nodes ts ++ nodes us := by
  rw [nodes_eq_map, nodes_eq_map, nodes_eq_map, List.map_append]

theorem shownAll_append {a : Arena} {ts us : List CellTree} :
    ShownAll a (ts ++ us) ↔ ShownAll a ts ∧ ShownAll a us := by
  simp only [shownAll_iff, List.forall_mem_append]

/-- What an arena holds of open elements depends on their cells alone. -/
theorem Standing.congr {a a' : Arena} {inner : Option CellId} {gs : List (Frame CellTree)}
    (h : a.Standing inner gs) (hcells : ∀ id ∈ cellsOf gs, a'.cell id = a.cell id) :
    a'.Standing inner gs := by
  induction gs generalizing inner with
  | nil =>
    have hpage := hcells page List.mem_cons_self
    rw [Standing, children, hpage]
    exact h
  | cons g gs ih =>
    obtain ⟨hdata, hcontents, hchildren, hdone, hrest⟩ := h
    have hg : ∀ id ∈ g.ids, a'.cell id = a.cell id := fun id hid =>
      hcells id (List.mem_cons_of_mem _ (List.mem_append_left _ hid))
    have hcell := hg g.id List.mem_cons_self
    refine ⟨?_, ?_, ?_, ?_, ?_⟩
    · rw [data, hcell]
      exact hdata
    · rw [contents?, hcell]
      exact hcontents
    · rw [children, hcell]
      exact hchildren
    · exact hdone.congr fun id hid => hg id (List.mem_cons_of_mem _ hid)
    · apply ih hrest
      intro id hid
      rcases List.mem_cons.mp hid with rfl | hid
      · exact hcells page List.mem_cons_self
      · exact hcells id (List.mem_cons_of_mem _ (List.mem_append_right _ hid))

variable {a : Arena} {g : Frame CellTree} {gs : List (Frame CellTree)}

theorem ne_of_cellsOf (h : (cellsOf (g :: gs)).Nodup) :
    g.id ∉ idsAll g.done ∧ g.id ∉ cellsOf gs := by
  rw [cellsOf, List.flatMap_cons, Frame.ids, List.nodup_cons, List.cons_append, List.nodup_cons,
    List.mem_append, not_or] at h
  refine ⟨h.2.1.1, ?_⟩
  rw [cellsOf, List.mem_cons, not_or]
  refine ⟨?_, h.2.1.2⟩
  rintro heq
  exact h.1 (heq ▸ List.mem_cons_self)

theorem mem_cellsOf_done {id : CellId} (h : id ∈ idsAll g.done) : id ∈ cellsOf (g :: gs) :=
  List.mem_cons_of_mem _ (List.mem_append_left _ (List.mem_cons_of_mem _ h))

theorem mem_cellsOf_tail {id : CellId} (h : id ∈ cellsOf gs) : id ∈ cellsOf (g :: gs) := by
  rcases List.mem_cons.mp h with rfl | h
  · exact List.mem_cons_self
  · exact List.mem_cons_of_mem _ (List.mem_append_right _ h)

/-- A node that is planted in the innermost element stands in it. -/
theorem standing_plant (h : a.Standing none (g :: gs)) (hnodup : (cellsOf (g :: gs)).Nodup)
    (hsize : ∀ id ∈ cellsOf (g :: gs), id < a.cells.size) (data : CellData) :
    (a.plant g.id data).Standing (some a.cells.size) (g :: gs) := by
  obtain ⟨hdata, hcontents, hchildren, hdone, hrest⟩ := h
  obtain ⟨hnotDone, hnotRest⟩ := ne_of_cellsOf hnodup
  have hid : g.id < a.cells.size :=
    hsize g.id (List.mem_cons_of_mem _ (List.mem_append_left _ List.mem_cons_self))
  have hcell := cell_plant a data hid
  have hother : ∀ id ∈ cellsOf (g :: gs), id ≠ g.id → (a.plant g.id data).cell id = a.cell id := by
    intro id hmem hne
    rw [hcell, if_neg (Nat.ne_of_lt (hsize id hmem)), if_neg hne]
  have hown : (a.plant g.id data).cell g.id =
      { a.cell g.id with children := (a.cell g.id).children.push a.cells.size } := by
    rw [hcell, if_neg (Nat.ne_of_lt hid), if_pos rfl]
  refine ⟨?_, ?_, ?_, ?_, ?_⟩
  · rw [Arena.data, hown]
    exact hdata
  · rw [contents?, hown]
    exact hcontents
  · rw [children, hown, Array.toList_push]
    change (a.children g.id).toList ++ _ = _
    rw [hchildren]
    simp
  · apply hdone.congr
    intro id hmem
    apply hother id (mem_cellsOf_done hmem)
    rintro rfl
    exact hnotDone hmem
  · apply hrest.congr
    intro id hmem
    apply hother id (mem_cellsOf_tail hmem)
    rintro rfl
    exact hnotRest hmem

/-- What stands in the innermost element is the last node in it. -/
theorem Standing.add {t : CellTree} (h : a.Standing (some t.root) (g :: gs)) (ht : t.Shown a) :
    a.Standing none (g.add t :: gs) := by
  obtain ⟨hdata, hcontents, hchildren, hdone, hrest⟩ := h
  refine ⟨hdata, hcontents, ?_, ?_, hrest⟩
  · change (a.children g.id).toList = (g.done ++ [t]).map CellTree.root ++ []
    rw [hchildren]
    simp
  · exact shownAll_append.mpr ⟨hdone, ht, trivial⟩

/-- The last node in the innermost element stands in it. -/
theorem Standing.of_add {t : CellTree} (h : a.Standing none (g.add t :: gs)) :
    a.Standing (some t.root) (g :: gs) ∧ t.Shown a := by
  obtain ⟨hdata, hcontents, hchildren, hdone, hrest⟩ := h
  obtain ⟨hfront, hlast, -⟩ := shownAll_append.mp hdone
  refine ⟨⟨hdata, hcontents, ?_, hfront, hrest⟩, hlast⟩
  change (a.children g.id).toList = (g.done ++ [t]).map CellTree.root ++ [] at hchildren
  rw [hchildren]
  simp

theorem cellsOf_add (g : Frame CellTree) (gs : List (Frame CellTree)) (t : CellTree) :
    (cellsOf (g.add t :: gs)).Perm (t.ids ++ cellsOf (g :: gs)) := by
  rw [List.perm_iff_count]
  intro id
  simp only [cellsOf, Frame.ids, Frame.add, List.flatMap_cons, idsAll_append, idsAll, List.count_cons,
    List.count_append, List.count_nil]
  omega

theorem bare_add (g : Frame CellTree) (t : CellTree) : (g.add t).bare = g.bare.add t.node := by
  simp only [Frame.bare, Frame.add, nodes_append, nodes]

/-! ### What is done to open elements -/

variable {f : Frame Node} {fs : List (Frame Node)}

/-- A fresh node in the innermost element. -/
theorem Builds.leaf (h : a.Builds (f :: fs)) (data : CellData) :
    ∃ g gs, Frame.bare g = f ∧ gs.map Frame.bare = fs ∧
      (a.plant f.id data).Standing (some a.cells.size) (g :: gs) ∧
      (a.plant f.id data).cell a.cells.size = ⟨data, some f.id, #[], none⟩ ∧
      (a.cells.size :: cellsOf (g :: gs)).Nodup ∧
      ∀ id ∈ a.cells.size :: cellsOf (g :: gs), id < (a.plant f.id data).cells.size := by
  obtain ⟨all, hbare, hstanding, hnodup, hsize⟩ := h
  obtain ⟨g, gs, rfl, rfl, rfl⟩ := List.map_eq_cons_iff.mp hbare
  have hid : g.id < a.cells.size :=
    hsize g.id (List.mem_cons_of_mem _ (List.mem_append_left _ List.mem_cons_self))
  refine ⟨g, gs, rfl, rfl, standing_plant hstanding hnodup hsize data, ?_, ?_, ?_⟩
  · exact (cell_plant a data hid a.cells.size).trans (if_pos rfl)
  · rw [List.nodup_cons]
    exact ⟨fun hmem => Nat.lt_irrefl _ (hsize _ hmem), hnodup⟩
  · intro id hmem
    rw [size_plant]
    rcases List.mem_cons.mp hmem with rfl | hmem
    · exact Nat.lt_succ_self _
    · exact Nat.lt_succ_of_lt (hsize id hmem)

/-- A fresh element becomes the innermost open one. -/
theorem Builds.open (h : a.Builds (f :: fs)) (tag : Tag) (attrs : Attributes) :
    (a.plant f.id (.element .html tag attrs)).Builds (⟨a.cells.size, tag, attrs, []⟩ :: f :: fs) := by
  obtain ⟨g, gs, rfl, rfl, hstanding, hcell, hnodup, hsize⟩ := h.leaf (.element .html tag attrs)
  refine ⟨⟨a.cells.size, tag, attrs, []⟩ :: g :: gs, rfl, ⟨?_, ?_, ?_, trivial, hstanding⟩, ?_, ?_⟩
  · exact congrArg Cell.data hcell
  · exact congrArg Cell.contents hcell
  · exact congrArg (fun c => c.children.toList) hcell
  · exact (List.Perm.swap _ _ _).nodup_iff.mp hnodup
  · intro id hmem
    exact hsize id ((List.Perm.swap _ _ _).mem_iff.mp hmem)

/-- A fresh text becomes the last node of the innermost element. -/
theorem Builds.text (h : a.Builds (f :: fs)) (value : String) :
    (a.plant f.id (.text value)).Builds (f.add (.text value) :: fs) := by
  obtain ⟨g, gs, rfl, rfl, hstanding, hcell, hnodup, hsize⟩ := h.leaf (.text value)
  have hperm := cellsOf_add g gs (.text a.cells.size value)
  refine ⟨g.add (.text a.cells.size value) :: gs, ?_, ?_, hperm.nodup_iff.mpr hnodup, ?_⟩
  · rw [List.map_cons, bare_add]
    rfl
  · exact hstanding.add ⟨congrArg Cell.data hcell, congrArg Cell.children hcell⟩
  · intro id hmem
    exact hsize id (hperm.mem_iff.mp hmem)

/-- The innermost element is closed. -/
theorem Builds.close {f' : Frame Node} (h : a.Builds (f' :: f :: fs)) :
    a.Builds (f.add f'.node :: fs) := by
  obtain ⟨all, hbare, hstanding, hnodup, hsize⟩ := h
  obtain ⟨g', rest, rfl, rfl, hrest⟩ := List.map_eq_cons_iff.mp hbare
  obtain ⟨g, gs, rfl, rfl, rfl⟩ := List.map_eq_cons_iff.mp hrest
  obtain ⟨hdata, -, hchildren, hdone, houter⟩ := hstanding
  have hperm : (cellsOf (g.add g'.tree :: gs)).Perm (cellsOf (g' :: g :: gs)) := by
    rw [List.perm_iff_count]
    intro id
    rw [(cellsOf_add g gs g'.tree).count_eq]
    simp only [cellsOf, Frame.ids, Frame.tree, CellTree.ids, List.flatMap_cons, List.count_cons,
      List.count_append]
    omega
  refine ⟨g.add g'.tree :: gs, ?_, ?_, hperm.nodup_iff.mpr hnodup, ?_⟩
  · rw [List.map_cons, bare_add]
    rfl
  · refine Standing.add houter ⟨hdata, ?_, hdone⟩
    simpa using hchildren
  · intro id hmem
    exact hsize id (hperm.mem_iff.mp hmem)

/-- A fresh element that holds nothing becomes the last node of the innermost one. -/
theorem Builds.void (h : a.Builds (f :: fs)) (tag : Tag) (attrs : Attributes) :
    (a.plant f.id (.element .html tag attrs)).Builds
      (f.add (.element ⟨.html, tag.toString, attrs⟩ []) :: fs) :=
  (h.open tag attrs).close

/-- What stands in the cell of the innermost element. -/
theorem Builds.innermost (h : a.Builds (f :: fs)) :
    f.id < a.cells.size ∧ a.contents? f.id = none := by
  obtain ⟨all, hbare, hstanding, -, hsize⟩ := h
  obtain ⟨g, gs, rfl, rfl, rfl⟩ := List.map_eq_cons_iff.mp hbare
  exact ⟨hsize g.id (List.mem_cons_of_mem _ (List.mem_append_left _ List.mem_cons_self)),
    hstanding.2.1⟩

/-- Open elements have different cells. -/
theorem Builds.id_ne (h : a.Builds (f :: fs)) {other : Frame Node} (hmem : other ∈ fs) :
    other.id ≠ f.id := by
  obtain ⟨all, hbare, -, hnodup, -⟩ := h
  obtain ⟨g, gs, rfl, rfl, rfl⟩ := List.map_eq_cons_iff.mp hbare
  obtain ⟨g', hg', rfl⟩ := List.mem_map.mp hmem
  have hin : g'.id ∈ cellsOf gs :=
    List.mem_cons_of_mem _ (List.mem_flatMap.mpr ⟨g', hg', List.mem_cons_self⟩)
  intro heq
  exact (ne_of_cellsOf hnodup).2 (heq ▸ hin)

/-! ### Running text -/

theorem cell_pushChar {id : CellId} (hid : id < a.cells.size) {value : String}
    (h : a.data id = .text value) (c : Char) (other : CellId) :
    (a.pushChar id c).cell other =
      if other = id then { a.cell id with data := .text (value.push c) } else a.cell other := by
  rw [pushChar, cell_modify _ _ _ _ hid]
  by_cases heq : other = id
  · subst heq
    rw [if_pos rfl, if_pos rfl]
    rw [data] at h
    generalize a.cell other = cell at h
    obtain ⟨own, parent, children, contents⟩ := cell
    obtain rfl : own = .text value := h
    rfl
  · rw [if_neg heq, if_neg heq]

theorem size_pushChar (a : Arena) (id : CellId) (c : Char) :
    (a.pushChar id c).cells.size = a.cells.size := size_modify ..

theorem appendChar_none {parent : CellId} (h : (a.children parent).back? = none) (c : Char) :
    a.appendChar parent c = a.plant parent (.text (String.singleton c)) := by
  rw [appendChar, h]
  rfl

theorem appendChar_some {parent last : CellId} (h : (a.children parent).back? = some last)
    (c : Char) :
    a.appendChar parent c =
      if a.isText last then a.pushChar last c
      else a.plant parent (.text (String.singleton c)) := by
  rw [appendChar, h]
  rfl

/-- A text at the end of the innermost element grows where it stands. -/
theorem builds_pushChar {before : Frame CellTree} {gs : List (Frame CellTree)} {id : CellId}
    {value : String} (hstanding : a.Standing none (before.add (.text id value) :: gs))
    (hnodup : (cellsOf (before.add (.text id value) :: gs)).Nodup)
    (hsize : ∀ id' ∈ cellsOf (before.add (.text id value) :: gs), id' < a.cells.size) (c : Char) :
    (a.pushChar id c).Builds ((before.add (.text id (value.push c)) :: gs).map Frame.bare) := by
  obtain ⟨hstands, hshown⟩ := hstanding.of_add
  have hperm := cellsOf_add before gs (.text id value)
  have hpushed := cellsOf_add before gs (.text id (value.push c))
  have hcell := cell_pushChar (hsize id (hperm.mem_iff.mpr List.mem_cons_self)) hshown.1 c
  have hbelow : (a.pushChar id c).Standing (some id) (before :: gs) := by
    apply hstands.congr
    intro other hother
    rw [hcell, if_neg]
    rintro rfl
    exact (List.nodup_cons.mp (hperm.nodup_iff.mp hnodup)).1 hother
  have hlast : (CellTree.text id (value.push c)).Shown (a.pushChar id c) := by
    have hown := (hcell id).trans (if_pos rfl)
    exact ⟨congrArg Cell.data hown, (congrArg Cell.children hown).trans hshown.2⟩
  refine ⟨before.add (.text id (value.push c)) :: gs, rfl, Standing.add hbelow hlast,
    hpushed.nodup_iff.mpr (hperm.nodup_iff.mp hnodup), ?_⟩
  intro other hother
  rw [size_pushChar]
  exact hsize other (hperm.mem_iff.mpr (hpushed.mem_iff.mp hother))

/-- A character goes to the text at the end of the innermost element, or becomes one. -/
theorem Builds.char (h : a.Builds (f :: fs)) (c : Char) :
    (a.appendChar f.id c).Builds ({ f with done := Node.pushChar f.done c } :: fs) := by
  have hfresh := h.text (String.singleton c)
  obtain ⟨all, hbare, hstanding, hnodup, hsize⟩ := h
  obtain ⟨g, gs, rfl, rfl, rfl⟩ := List.map_eq_cons_iff.mp hbare
  have hchildren : (a.children g.id).back? = (g.done.map CellTree.root).getLast? := by
    rw [← Array.getLast?_toList, hstanding.2.2.1]
    simp
  rcases List.eq_nil_or_concat g.done with hnil | ⟨front, last, hlast⟩
  · rw [hnil] at hchildren
    have hpush : Node.pushChar g.bare.done c = g.bare.done ++ [.text (String.singleton c)] := by
      simp [Node.pushChar, Frame.bare, hnil, CellTree.nodes]
    have happend : a.appendChar g.bare.id c = _ := appendChar_none hchildren c
    rw [hpush, happend]
    exact hfresh
  · rw [List.concat_eq_append] at hlast
    rw [hlast, List.map_append, List.map_singleton, List.getLast?_concat] at hchildren
    have happend : a.appendChar g.bare.id c = _ := appendChar_some hchildren c
    have hdone : g.bare.done = CellTree.nodes front ++ [last.node] := by
      rw [Frame.bare, hlast, nodes_append]
      rfl
    -- the element without the node at its end
    obtain ⟨before, rfl⟩ : ∃ before : Frame CellTree, g = before.add last :=
      ⟨{ g with done := front }, by rw [Frame.add, ← hlast]⟩
    have hshown := hstanding.of_add.2
    cases last with
    | text id value =>
      have htext : a.isText id = true := by rw [isText, hshown.1]
      have hpush : Node.pushChar (before.add (.text id value)).bare.done c =
          (before.add (.text id (value.push c))).bare.done := by
        rw [bare_add, bare_add]
        exact Node.pushChar_text before.bare.done value c
      rw [hpush, happend, CellTree.root, htext, if_pos rfl]
      exact builds_pushChar hstanding hnodup hsize c
    | element id tag attrs children =>
      have htext : a.isText id = false := by rw [isText, hshown.1]
      have hpush : Node.pushChar (nodes front ++ [(CellTree.element id tag attrs children).node]) c =
          nodes front ++ [(CellTree.element id tag attrs children).node] ++
            [.text (String.singleton c)] :=
        Node.pushChar_concat (nodes front) (fun _ => Node.noConfusion) c
      rw [happend, CellTree.root, htext, if_neg Bool.false_ne_true, hdone, hpush, ← hdone]
      exact hfresh

/-! ### The finished page -/

theorem closed_cons_cons (f g : Frame Node) (fs : List (Frame Node)) :
    Frame.closed (f :: g :: fs) = Frame.closed (g.add f.node :: fs) := rfl

theorem Builds.toDocument_singleton (h : a.Builds [f]) : a.toDocument = ⟨[f.node]⟩ := by
  obtain ⟨gs, hbare, hstanding, hnodup, hsize⟩ := h
  obtain ⟨g, rest, rfl, rfl, hrest⟩ := List.map_eq_cons_iff.mp hbare
  obtain rfl : rest = [] := List.map_eq_nil_iff.mp hrest
  obtain ⟨hdata, -, hchildren, hdone, hpage⟩ := hstanding
  have hcells : cellsOf [g] = page :: idsAll [g.tree] := by
    simp [cellsOf, Frame.ids, idsAll, Frame.tree, CellTree.ids]
  rw [hcells] at hnodup hsize
  have hshown : ShownAll a [g.tree] := by
    refine ⟨⟨hdata, ?_, hdone⟩, trivial⟩
    simpa using hchildren
  exact toDocument_of_shown hshown hpage (List.nodup_cons.mp hnodup).2 fun id hid =>
    hsize id (List.mem_cons_of_mem _ hid)

/-- The finished page is what becomes of the open elements when all are closed. -/
theorem Builds.toDocument (h : a.Builds (f :: fs)) : a.toDocument = ⟨Frame.closed (f :: fs)⟩ := by
  induction fs generalizing f with
  | nil => exact h.toDocument_singleton
  | cons g fs ih =>
    rw [closed_cons_cons]
    exact ih h.close

end Arena

end PageBlocks.Markup
