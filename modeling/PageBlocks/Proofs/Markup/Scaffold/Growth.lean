import PageBlocks.Proofs.Markup.ReadableCells
import PageBlocks.Proofs.Markup.Scaffold.Cells

/-!
Constructions that grow. The open elements, the formatting elements and what else a construction refers to
are what their cells hold, so every node is put where it can stand. The operations on the stack and on the
formatting elements let the arena grow soundly as long as no element of the scaffold is put anywhere.
-/
namespace PageBlocks.Markup

/-- Elements that are opened again where they were cut short. -/
def Tag.isReopened (tag : Tag) : Bool := tag.isFormatting || tag == .a || tag == .nobr

theorem Tag.isScaffold_of_isReopened {tag : Tag} (h : tag.isReopened = true) : tag.isScaffold = false := by
  cases tag <;> first | rfl | cases h

/-- What a construction refers to is what the cells hold. -/
structure Refers (a : Arena) (opens : List OpenElement) (formatting : List Formatting)
    (head form : Option CellId) : Prop where
  sound : a.Sound
  opens : ∀ e ∈ opens, a.sort e.id = .element e.space e.tag
  formatting : ∀ id tag attrs, .element id tag attrs ∈ formatting →
    a.sort id = .element .html tag ∧ tag.isReopened = true
  head : ∀ id, head = some id → a.sort id = .element .html .head
  form : ∀ id, form = some id → a.sort id = .element .html .form

/-- What is referred to stays what it is as long as cells keep their sorts. -/
theorem Refers.ofSorts {a a' : Arena} {opens : List OpenElement} {formatting : List Formatting}
    {head form : Option CellId} (h : Refers a opens formatting head form) (hsound : a'.Sound)
    (hsort : ∀ id < a.cells.size, a'.sort id = a.sort id) : Refers a' opens formatting head form := by
  have hkeep : ∀ {id : CellId} {space : Space} {tag : Tag}, a.sort id = .element space tag →
      a'.sort id = .element space tag := fun hid => (hsort _ (Arena.lt_size_of_element hid)).trans hid
  exact ⟨hsound, fun e he => hkeep (h.opens e he), fun id tag attrs hmem =>
    ⟨hkeep (h.formatting id tag attrs hmem).1, (h.formatting id tag attrs hmem).2⟩,
    fun id hid => hkeep (h.head id hid), fun id hid => hkeep (h.form id hid)⟩

theorem Refers.grown {a a' : Arena} {opens : List OpenElement} {formatting : List Formatting}
    {head form : Option CellId} (h : Refers a opens formatting head form) (hgrown : a.Grown a') :
    Refers a' opens formatting head form :=
  h.ofSorts hgrown.sound hgrown.extends_.sort

/-- A new element that is opened is referred to as its cell holds. -/
theorem Refers.inserted {a a' : Arena} {opens : List OpenElement} {formatting : List Formatting}
    {head form : Option CellId} (h : Refers a opens formatting head form) {parent id : CellId} {tag : Tag}
    (hnew : a.Inserted parent tag a' id) :
    Refers a' (⟨id, .html, tag⟩ :: opens) formatting head form := by
  have hkept := h.ofSorts hnew.sound hnew.old
  exact { hkept with opens := List.forall_mem_cons.mpr ⟨hnew.sort, hkept.opens⟩ }

/-- A node can be put at the place. -/
def Place.Takes (a : Arena) : Place → Prop
  | .lastChild parent => a.IsPlace parent
  | .beforeTable _ below => a.IsPlace below

namespace Construction

/-- The construction refers to what its cells hold, and its arena has grown out of an old one. -/
def Grows (old : Arena) (c : Construction) : Prop :=
  Refers c.arena c.opens c.formatting c.head c.form ∧ old.Extends c.arena

variable {old : Arena} {c : Construction}

namespace Grows

theorem sound (h : c.Grows old) : c.arena.Sound := h.1.sound

theorem rebase (h : c.Grows old) : c.Grows c.arena := ⟨h.1, .refl _⟩

theorem trans {c' : Construction} (h : c.Grows old) (h' : c'.Grows c.arena) : c'.Grows old :=
  ⟨h'.1, h.2.trans h'.2⟩

theorem ofArena (h : c.Grows old) {a : Arena} (ha : c.arena.Grown a) : { c with arena := a }.Grows old :=
  ⟨h.1.grown ha, h.2.trans ha.extends_⟩

/-- Elements may be taken off the stack, and such may be put on it as their cells hold. -/
theorem ofOpens (h : c.Grows old) {opens : List OpenElement}
    (hopens : ∀ e ∈ opens, c.arena.sort e.id = .element e.space e.tag) :
    { c with opens := opens }.Grows old :=
  ⟨⟨h.1.sound, hopens, h.1.formatting, h.1.head, h.1.form⟩, h.2⟩

theorem ofSubset (h : c.Grows old) {opens : List OpenElement} (hsub : ∀ e ∈ opens, e ∈ c.opens) :
    { c with opens := opens }.Grows old :=
  h.ofOpens fun e he => h.1.opens e (hsub e he)

/-- Formatting elements may be forgotten. -/
theorem ofFormatting (h : c.Grows old) {formatting : List Formatting}
    (hsub : ∀ f ∈ formatting, f ∈ c.formatting ∨ f = .marker) :
    { c with formatting := formatting }.Grows old := by
  refine ⟨⟨h.1.sound, h.1.opens, fun id tag attrs hmem => ?_, h.1.head, h.1.form⟩, h.2⟩
  rcases hsub _ hmem with hmem | hmarker
  · exact h.1.formatting id tag attrs hmem
  · cases hmarker

/-- The form is set. -/
theorem withForm (h : c.Grows old) {form : CellId} (hform : c.arena.sort form = .element .html .form) :
    { c with form := some form }.Grows old := by
  refine ⟨{ h.1 with form := fun id hid => ?_ }, h.2⟩
  obtain rfl := Option.some.inj hid
  exact hform

theorem pushMarker (h : c.Grows old) : c.pushMarker.Grows old := by
  refine h.ofFormatting fun f hf => ?_
  rcases List.mem_cons.mp hf with rfl | hf
  · exact .inr rfl
  · exact .inl hf

theorem clearToMarker (h : c.Grows old) : c.clearToMarker.Grows old :=
  h.ofFormatting fun _ hf => .inl ((List.dropWhile_sublist _).subset (List.mem_of_mem_tail hf))

theorem forget (h : c.Grows old) (id : CellId) : (c.forget id).Grows old :=
  h.ofFormatting fun _ hf => .inl (List.eraseP_sublist.subset hf)

/-! ### Placing nodes -/

theorem isPlace_contentsOf (h : c.Grows old) {e : OpenElement} (he : e ∈ c.opens) :
    c.arena.IsPlace (c.contentsOf e) := by
  rw [contentsOf]
  cases hcontents : c.arena.contents? e.id with
  | none => exact Arena.isPlace_of_element (h.1.opens e he)
  | some inner =>
    obtain ⟨hlt, hroot, -⟩ := h.sound.contents _ _ hcontents
    refine ⟨hlt, ?_⟩
    rw [Option.getD_some, hroot]
    exact CellSort.noConfusion

theorem takes_fosterPlace (h : c.Grows old) {es : List OpenElement} (hes : ∀ e ∈ es, e ∈ c.opens) :
    (c.fosterPlace es).Takes c.arena := by
  fun_induction Construction.fosterPlace c es with
  | case1 => exact h.sound.isPlace_page
  | case2 root _ => exact h.isPlace_contentsOf (hes root List.mem_cons_self)
  | case3 root _ => exact Arena.isPlace_of_element (h.1.opens root (hes root List.mem_cons_self))
  | case4 e below rest _ => exact h.isPlace_contentsOf (hes e List.mem_cons_self)
  | case5 e below rest _ _ =>
    exact Arena.isPlace_of_element (h.1.opens below (hes below (List.mem_cons_of_mem e List.mem_cons_self)))
  | case6 e below rest _ _ ih => exact ih fun other hother => hes other (List.mem_cons_of_mem e hother)

theorem takes_placeIn (h : c.Grows old) {e : OpenElement} (he : e ∈ c.opens) :
    (c.placeIn e).Takes c.arena := by
  rw [placeIn]
  split
  · exact h.takes_fosterPlace fun _ he => he
  · exact h.isPlace_contentsOf he

theorem takes_place (h : c.Grows old) : c.place.Takes c.arena := by
  rw [place]
  split
  · rename_i e rest hopens
    exact h.takes_placeIn (hopens ▸ List.mem_cons_self)
  · exact h.sound.isPlace_page

theorem putNode (h : c.Grows old) {place : Place} (hplace : place.Takes c.arena) {id : CellId}
    (hid : c.arena.IsMovable id) : (c.putNode place id).Grows old := by
  cases place with
  | lastChild parent => exact h.ofArena (h.sound.append hplace hid)
  | beforeTable table below =>
    unfold Construction.putNode
    dsimp only
    split
    · exact h.ofArena (h.sound.insertBefore table hid)
    · exact h.ofArena (h.sound.append hplace hid)

theorem putChar (h : c.Grows old) (ch : Char) : (c.putChar ch).Grows old := by
  have htakes := h.takes_place
  unfold Construction.putChar
  split
  · rename_i parent hplace
    rw [hplace] at htakes
    exact h.ofArena (h.sound.appendChar htakes ch)
  · rename_i table below hplace
    rw [hplace] at htakes
    split
    · exact h.ofArena (h.sound.insertCharBefore table ch)
    · exact h.ofArena (h.sound.appendChar htakes ch)

theorem putComment (h : c.Grows old) (value : String) : (c.putComment value).Grows old := by
  have hadd := h.ofArena (h.sound.grown_add (.comment value) rfl)
  have hmovable := Arena.isMovable_add c.arena (.comment value) CellSort.noConfusion rfl
  exact hadd.putNode hadd.takes_place hmovable

theorem putCommentIn (h : c.Grows old) {parent : CellId} (hparent : c.arena.IsPlace parent)
    (value : String) : (c.putCommentIn parent value).Grows old :=
  h.ofArena (h.sound.append_leaf (.comment value) rfl hparent)

theorem arena_putNode_sort (h : c.Grows old) {place : Place} (hplace : place.Takes c.arena) {id : CellId}
    (hid : c.arena.IsMovable id) {other : CellId} {space : Space} {tag : Tag}
    (hother : c.arena.sort other = .element space tag) :
    (c.putNode place id).arena.sort other = .element space tag :=
  (h.rebase.putNode hplace hid).2.element hother

section

variable (space : Space) {tag : Tag}

theorem putElement (h : c.Grows old) (hfree : (CellSort.element space tag).isScaffold = false)
    (attrs : Attributes) :
    (c.putElement space tag attrs).1.Grows old ∧
      (c.putElement space tag attrs).1.arena.sort (c.putElement space tag attrs).2 =
        .element space tag := by
  have hadded := h.sound.addElement space tag attrs
  have hgrown := h.ofArena (hadded.grown hfree)
  have hmovable := hadded.isMovable hfree
  exact ⟨hgrown.putNode hgrown.takes_place hmovable,
    hgrown.arena_putNode_sort hgrown.takes_place hmovable hadded.sort⟩

theorem openElement (h : c.Grows old) (hfree : (CellSort.element space tag).isScaffold = false)
    (attrs : Attributes) :
    (c.openElement space tag attrs).1.Grows old ∧
      (c.openElement space tag attrs).1.arena.sort (c.openElement space tag attrs).2 =
        .element space tag := by
  obtain ⟨hput, hsort⟩ := h.putElement space hfree attrs
  exact ⟨hput.ofOpens (List.forall_mem_cons.mpr ⟨hsort, hput.1.opens⟩), hsort⟩

end

theorem insert (h : c.Grows old) {t : StartTag} (hfree : t.tag.isScaffold = false) :
    (c.insert t).Grows old :=
  (h.openElement .html hfree (htmlAttrs t)).1

theorem insertVoid (h : c.Grows old) {t : StartTag} (hfree : t.tag.isScaffold = false) :
    (c.insertVoid t).Grows old :=
  (h.putElement .html hfree (htmlAttrs t)).1

theorem addMissingAttrs (h : c.Grows old) {e : OpenElement} (he : e ∈ c.opens) (attrs : Attributes) :
    { c with arena := c.arena.addMissingAttrs e.id attrs }.Grows old :=
  h.ofArena (h.sound.addMissingAttrs (Arena.lt_size_of_element (h.1.opens e he)) attrs)

theorem mergeRoot (h : c.Grows old) (t : StartTag) : (c.mergeRoot t).Grows old := by
  unfold Construction.mergeRoot
  split
  · exact h
  · split
    · rename_i root hroot
      exact h.addMissingAttrs (List.mem_of_getLast? hroot) (htmlAttrs t)
    · exact h

/-! ### Formatting elements -/

/-- Open a formatting element and keep it in the list. -/
theorem openFormatting (h : c.Grows old) {tag : Tag} (htag : tag.isReopened = true) (attrs : Attributes) :
    let c' := (c.openElement .html tag attrs).1
    let id := (c.openElement .html tag attrs).2
    { c' with formatting := .element id tag attrs :: c'.formatting }.Grows old := by
  obtain ⟨hopen, hsort⟩ := h.openElement .html (Tag.isScaffold_of_isReopened htag) attrs
  refine ⟨⟨hopen.1.sound, hopen.1.opens, fun id own ownAttrs hmem => ?_, hopen.1.head, hopen.1.form⟩, hopen.2⟩
  rcases List.mem_cons.mp hmem with heq | hmem
  · cases heq
    exact ⟨hsort, htag⟩
  · exact hopen.1.formatting id own ownAttrs hmem

theorem forgetFourth (h : c.Grows old) (tag : Tag) (attrs : Attributes) :
    (c.forgetFourth tag attrs).Grows old := by
  unfold Construction.forgetFourth
  dsimp only
  split
  · exact h
  · split
    · exact h.forget _
    · exact h

end Grows

/-! ### Splitting a formatting element -/

/-- The rules in force are the same, in templates and elsewhere. -/
abbrev SameRules (c c' : Construction) : Prop :=
  c'.mode = c.mode ∧ c'.templateModes = c.templateModes ∧ c'.head = c.head

theorem SameRules.trans {c c' c'' : Construction} (h : SameRules c c') (h' : SameRules c' c'') :
    SameRules c c'' :=
  ⟨h'.1.trans h.1, h'.2.1.trans h.2.1, h'.2.2.trans h.2.2⟩

/-- The walk from a block down to a formatting element leaves the stack as it is. The elements that it keeps
are fresh copies of formatting elements, and what it carries along can be moved. -/
structure Walked (c : Construction) (w : SplitWalk) : Prop where
  grows : w.tree.Grows c.arena
  opens : w.tree.opens = c.opens
  rules : SameRules c w.tree
  kept : ∀ k ∈ w.kept,
    w.tree.arena.sort k.id = .element .html k.tag ∧ k.space = .html ∧ k.tag.isReopened = true
  inner : w.tree.arena.IsMovable w.inner

theorem Walked.copy {w : SplitWalk} (h : Walked c w) {e : OpenElement} (he : e.tag.isReopened = true)
    (attrs : Attributes) : Walked c (w.copy e attrs) := by
  have hfree := Tag.isScaffold_of_isReopened he
  have hadded := h.grows.sound.addElement .html e.tag attrs
  have hgrown := hadded.grown hfree
  have hmoved := hgrown.sound.append (Arena.isPlace_of_element hadded.sort)
    (hgrown.extends_.isMovable h.inner)
  have hall := hgrown.trans hmoved
  have hsort := hmoved.extends_.element hadded.sort
  have htree := h.grows.ofArena hall
  refine ⟨⟨⟨hall.sound, htree.1.opens, ?_, htree.1.head, htree.1.form⟩, htree.2⟩, h.opens, h.rules, ?_,
    hmoved.extends_.isMovable (hadded.isMovable hfree)⟩
  · intro id tag own hmem
    obtain ⟨f, hf, hentry⟩ := List.mem_map.mp hmem
    split at hentry
    · cases hentry
      exact ⟨hsort, he⟩
    · subst hentry
      exact htree.1.formatting id tag own hf
  · intro k hk
    rcases List.mem_append.mp hk with hk | hk
    · exact ⟨hall.extends_.element (h.kept k hk).1, (h.kept k hk).2⟩
    · obtain rfl := List.mem_singleton.mp hk
      exact ⟨hsort, rfl, he⟩

theorem Walked.step {w : SplitWalk} (h : Walked c w) {e : OpenElement} (he : e ∈ c.opens) (count : Nat) :
    Walked c (w.step e count) := by
  unfold SplitWalk.step
  dsimp only
  split
  · exact h
  · rename_i attrs hfound
    split
    · exact ⟨h.grows.forget e.id, h.opens, h.rules, h.kept, h.inner⟩
    · obtain ⟨f, hf, hentry⟩ := List.exists_of_findSome?_eq_some hfound
      cases f with
      | marker => cases hentry
      | element id tag own =>
        dsimp only at hentry
        split at hentry
        · rename_i heq
          -- the entry and the open element have the same cell, and so the same tag
          obtain ⟨hsort, htag⟩ := h.grows.1.formatting id tag own hf
          have hopen := h.grows.1.opens e (h.opens.symm ▸ he)
          rw [← heq, hsort] at hopen
          injection hopen with _ htagEq
          exact h.copy (htagEq ▸ htag) attrs
        · cases hentry

theorem Walked.steps {w : SplitWalk} (h : Walked c w) {between : List (OpenElement × Nat)}
    (hbetween : ∀ x ∈ between, x.1 ∈ c.opens) :
    Walked c (between.foldl (fun (w : SplitWalk) (x, i) => w.step x (i + 1)) w) :=
  List.foldlRecOn between _ h fun _ h x hx => h.step (hbetween x hx) (x.2 + 1)

theorem mem_moveEntry {formatting : List Formatting} {old : CellId} {bookmark : Option CellId}
    {entry f : Formatting} (h : f ∈ moveEntry formatting old bookmark entry) :
    f ∈ formatting ∨ f = entry := by
  unfold moveEntry at h
  split at h
  · obtain ⟨own, hown, rfl⟩ := List.mem_map.mp h
    split
    · exact .inr rfl
    · exact .inl hown
  · obtain ⟨own, hown, hmem⟩ := List.mem_flatMap.mp (List.eraseP_sublist.subset h)
    split at hmem
    · rcases List.mem_cons.mp hmem with rfl | hmem
      · exact .inr rfl
      · exact .inl (List.mem_singleton.mp hmem ▸ hown)
    · exact .inl (List.mem_singleton.mp hmem ▸ hown)

/-- To put a node somewhere changes the arena alone. -/
theorem same_putNode (c : Construction) (place : Place) (id : CellId) :
    (c.putNode place id).opens = c.opens ∧ SameRules c (c.putNode place id) := by
  cases place with
  | lastChild parent => exact ⟨rfl, rfl, rfl, rfl⟩
  | beforeTable table below =>
    rw [Construction.putNode]
    split <;> exact ⟨rfl, rfl, rfl, rfl⟩

theorem same_putChar (c : Construction) (ch : Char) :
    (c.putChar ch).opens = c.opens ∧ SameRules c (c.putChar ch) := by
  rw [Construction.putChar]
  split
  · exact ⟨rfl, rfl, rfl, rfl⟩
  · split <;> exact ⟨rfl, rfl, rfl, rfl⟩

/-- A formatting element has been split: the block and what stands above it stay open, behind a fresh part
of the element inside the block and before fresh copies of what stood between. -/
structure IsSplit (c : Construction) (tag : Tag) (higher : List OpenElement) (block : OpenElement)
    (below : List OpenElement) (c' : Construction) : Prop where
  grows : c'.Grows c.arena
  rules : SameRules c c'
  opens : ∃ part kept, c'.opens = higher ++ part :: block :: kept ++ below ∧
    (part.space = .html ∧ part.tag = tag) ∧ ∀ k ∈ kept, k.space = .html ∧ k.tag.isReopened = true

/-- A fresh element takes over what stands in a block, if nothing there is of the scaffold, and goes into
the block itself. -/
theorem Grows.takeOver {old : Arena} {c : Construction} (h : c.Grows old) {block : OpenElement}
    (hblock : block ∈ c.opens)
    (hchildren : ∀ id, c.arena.scaffolds id = true → c.arena.parent? id ≠ some block.id) {tag : Tag}
    (hfree : tag.isScaffold = false) (attrs : Attributes) :
    let added := c.arena.addElement .html tag attrs
    let filled := (added.1.moveChildren block.id added.2).append block.id added.2
    c.arena.Grown filled ∧ filled.sort added.2 = .element .html tag := by
  intro added filled
  have hadded := h.sound.addElement .html tag attrs
  have hgrown := hadded.grown hfree
  have hfreeChildren : ∀ id ∈ (added.1.children block.id).toList, added.1.scaffolds id = false := by
    intro id hid
    rw [Bool.eq_false_iff]
    intro hscaffold
    have hold := (hgrown.extends_.scaffolds_iff id).mp hscaffold
    have hparent := (hgrown.sound.linked.mem_children_iff block.id id).mp hid
    exact hchildren id hold ((hgrown.extends_.parent id hold).symm.trans hparent)
  have hemptied := hgrown.sound.moveChildren hfreeChildren (Arena.isPlace_of_element hadded.sort)
  have hplace : c.arena.IsPlace block.id := Arena.isPlace_of_element (h.1.opens block hblock)
  have hfilled := hemptied.sound.append
    (hemptied.extends_.isPlace (hgrown.extends_.isPlace hplace))
    (hemptied.extends_.isMovable (hadded.isMovable hfree))
  exact ⟨hgrown.trans (hemptied.trans hfilled), (hemptied.trans hfilled).extends_.element hadded.sort⟩

/-- What stands between has been walked and the inner part has gone to its place: now a fresh part of the
element takes over the block, and its copies stay open below. -/
theorem isSplit_join {c moved : Construction} {e block : OpenElement}
    {higher between below kept : List OpenElement} (attrs : Attributes) (bookmark : Option CellId)
    (hopens : c.opens = higher ++ block :: between ++ e :: below) (he : e.tag.isReopened = true)
    (hchildren : ∀ id, c.arena.scaffolds id = true → c.arena.parent? id ≠ some block.id)
    (hmoved : moved.Grows c.arena) (hsame : moved.opens = c.opens) (hrules : SameRules c moved)
    (hkept : ∀ k ∈ kept, moved.arena.sort k.id = .element .html k.tag ∧ k.space = .html ∧
      k.tag.isReopened = true) :
    let added := moved.arena.addElement .html e.tag attrs
    IsSplit c e.tag higher block below
      { moved with
        arena := (added.1.moveChildren block.id added.2).append block.id added.2
        formatting := moveEntry moved.formatting e.id bookmark (.element added.2 e.tag attrs)
        opens := higher ++ OpenElement.mk added.2 .html e.tag :: block :: kept ++ below } := by
  intro added
  have hopensMoved := hsame.trans hopens
  have hunmoved : ∀ id, moved.arena.scaffolds id = true → moved.arena.parent? id ≠ some block.id := by
    intro id hscaffold
    have hold := (hmoved.2.scaffolds_iff id).mp hscaffold
    rw [hmoved.2.parent id hold]
    exact hchildren id hold
  obtain ⟨hfilled, hpart⟩ := hmoved.takeOver (by simp [hopensMoved]) hunmoved
    (Tag.isScaffold_of_isReopened he) attrs
  have hlast := hmoved.ofArena hfilled
  refine ⟨⟨⟨hfilled.sound, ?_, ?_, hlast.1.head, hlast.1.form⟩, hlast.2⟩, hrules,
    ⟨⟨_, .html, e.tag⟩, kept, rfl, ⟨rfl, rfl⟩, fun k hk => (hkept k hk).2⟩⟩
  · have hopensLast : ∀ x ∈ higher ++ block :: between ++ e :: below,
        _ = CellSort.element x.space x.tag := fun x hx => hlast.1.opens x (hopensMoved ▸ hx)
    intro x hx
    simp only [List.mem_append, List.mem_cons] at hx
    rcases hx with (hx | rfl | rfl | hx) | hx
    · exact hopensLast x (by simp [hx])
    · exact hpart
    · exact hopensLast x (by simp)
    · have hsort := hfilled.extends_.element (hkept x hx).1
      rw [(hkept x hx).2.1]
      exact hsort
    · exact hopensLast x (by simp [hx])
  · intro id tag own hmem
    rcases mem_moveEntry hmem with hmem | heq
    · exact hlast.1.formatting id tag own hmem
    · cases heq
      exact ⟨hpart, he⟩

theorem Grows.splitAt {old : Arena} {c : Construction} (h : c.Grows old) {e block : OpenElement}
    {higher between below : List OpenElement} (attrs : Attributes)
    (hopens : c.opens = higher ++ block :: between ++ e :: below) (he : e.tag.isReopened = true)
    (hblock : c.arena.IsMovable block.id)
    (hchildren : ∀ id, c.arena.scaffolds id = true → c.arena.parent? id ≠ some block.id) :
    IsSplit c e.tag higher block below (c.splitAt e attrs higher block between below) := by
  have hbetween : ∀ x ∈ between.zipIdx, x.1 ∈ c.opens := by
    intro x hx
    rw [hopens]
    simp [List.fst_mem_of_mem_zipIdx hx]
  have hwalked : Walked c ⟨c, [], block.id, none⟩ :=
    ⟨h.rebase, rfl, ⟨rfl, rfl, rfl⟩, List.forall_mem_nil _, hblock⟩
  have hlast := hwalked.steps hbetween
  unfold Construction.splitAt
  generalize between.zipIdx.foldl (fun (w : SplitWalk) (x, i) => w.step x (i + 1))
    ⟨c, [], block.id, none⟩ = walk at hlast
  have hdetached := hlast.grows.sound.detach hlast.inner.free
  have htree := hlast.grows.ofArena hdetached
  have hinner := hdetached.extends_.isMovable hlast.inner
  cases below with
  | nil =>
    exact isSplit_join attrs walk.bookmark hopens he hchildren htree hlast.opens hlast.rules fun k hk =>
      ⟨hdetached.extends_.element (hlast.kept k hk).1, (hlast.kept k hk).2⟩
  | cons ancestor rest =>
    have htakes := htree.takes_placeIn (e := ancestor) (by
      change ancestor ∈ walk.tree.opens
      rw [hlast.opens, hopens]
      simp)
    obtain ⟨hopensPut, hrulesPut⟩ := same_putNode
      { walk.tree with arena := walk.tree.arena.detach walk.inner } (placeIn _ ancestor) walk.inner
    exact isSplit_join attrs walk.bookmark hopens he hchildren (htree.putNode htakes hinner)
      (hopensPut.trans hlast.opens) (hlast.rules.trans hrulesPut) fun k hk =>
        ⟨htree.arena_putNode_sort htakes hinner (hdetached.extends_.element (hlast.kept k hk).1),
          (hlast.kept k hk).2⟩

end Construction

end PageBlocks.Markup
