import PageBlocks.Proofs.Markup.Building
import PageBlocks.Proofs.Markup.Nesting
import Mathlib.Data.List.TakeDrop

/-!
The construction between two tags of elements that are nested as they should be. Its stack holds exactly the
elements that are open in the tree, its rules are those of the innermost ones, and the formatting elements
that it remembers are open, so that there are none to open again.
-/
namespace PageBlocks.Markup

open Tag

namespace Frame

/-- The element on the stack. -/
def opened (f : Frame Node) : OpenElement := ⟨f.id, .html, f.tag⟩

def tags (fs : List (Frame Node)) : List Tag := fs.map Frame.tag

theorem tags_cons (f : Frame Node) (fs : List (Frame Node)) : tags (f :: fs) = f.tag :: tags fs := rfl

end Frame

/-- The sorts of elements that hide the formatting around them. -/
def TagSort.isMarked : TagSort → Bool
  | .cell | .caption => true
  | _ => false

namespace Construction

/-- The formatting elements that are remembered are open, with a marker for each element that hides the
formatting around it. -/
inductive Remembers : List (Frame Node) → List Formatting → Prop
  | nil : Remembers [] []
  | marked {f : Frame Node} {fs : List (Frame Node)} {l : List Formatting} :
    f.tag.sort.isMarked = true → Remembers fs l → Remembers (f :: fs) (.marker :: l)
  | kept {f : Frame Node} {fs : List (Frame Node)} {l : List Formatting} :
    f.tag.sort = .formatting ∨ f.tag.sort = .link → Remembers fs l →
      Remembers (f :: fs) (.element f.id f.tag f.attrs :: l)
  | plain {f : Frame Node} {fs : List (Frame Node)} {l : List Formatting} :
    f.tag.sort.isMarked = false → Remembers fs l → Remembers (f :: fs) l

/-- The tree and the stack have these open elements, the innermost first. -/
structure Carries (c : Construction) (fs : List (Frame Node)) : Prop where
  builds : c.arena.Builds fs
  opens : c.opens = fs.map Frame.opened
  fostering : c.fostering = false

/-- The construction inside elements that are nested as they should be, with nothing left to do. -/
structure Settled (c : Construction) (fs : List (Frame Node)) : Prop extends Carries c fs where
  nested : Nested (Frame.tags fs)
  mode : c.mode = modeIn (Frame.tags fs)
  templateModes : c.templateModes = []
  skipsLineFeed : c.skipsLineFeed = false
  vintage : c.vintage = true
  tableText : c.tableText = []
  formatting : Remembers fs c.formatting

variable {c : Construction} {f : Frame Node} {fs : List (Frame Node)} {l : List Formatting}

/-! ### What is remembered -/

theorem Remembers.mem (h : Remembers fs l) {entry : Formatting} (hmem : entry ∈ l) :
    entry = .marker ∨ ∃ f ∈ fs, entry = .element f.id f.tag f.attrs := by
  induction h with
  | nil => cases hmem
  | marked _ _ ih | kept _ _ ih =>
    rcases List.mem_cons.mp hmem with rfl | hmem
    · simp
    · rcases ih hmem with hmarker | ⟨f, hf, heq⟩
      · exact Or.inl hmarker
      · exact Or.inr ⟨f, List.mem_cons_of_mem _ hf, heq⟩
  | plain _ _ ih =>
    rcases ih hmem with hmarker | ⟨f, hf, heq⟩
    · exact Or.inl hmarker
    · exact Or.inr ⟨f, List.mem_cons_of_mem _ hf, heq⟩

/-- An entry can be forgotten. -/
theorem Remembers.forget (h : Remembers fs l) (id : CellId) :
    Remembers fs (l.eraseP (Formatting.is id)) := by
  induction h with
  | nil => exact .nil
  | marked hmarked _ ih => exact .marked hmarked ih
  | @kept f _ _ hkept hrest ih =>
    have hplain : f.tag.sort.isMarked = false := by
      rcases hkept with hsort | hsort <;> rw [hsort] <;> rfl
    cases his : Formatting.is id (.element f.id f.tag f.attrs) with
    | true =>
      rw [List.eraseP_cons_of_pos his]
      exact .plain hplain hrest
    | false =>
      rw [List.eraseP_cons_of_neg (Bool.eq_false_iff.mp his)]
      exact .kept hkept ih
  | plain hplain _ ih => exact .plain hplain ih

/-! ### Placing nodes -/

theorem place_eq {rest : List OpenElement} (hopens : c.opens = f.opened :: rest)
    (hfostering : c.fostering = false) (hcontents : c.arena.contents? f.id = none) :
    c.place = .lastChild f.id := by
  rw [place, hopens]
  change c.placeIn f.opened = _
  rw [placeIn, hfostering, Bool.false_and, if_neg Bool.false_ne_true, contentsOf]
  change Place.lastChild ((c.arena.contents? f.id).getD f.id) = _
  rw [hcontents]
  rfl

theorem Carries.putElement_eq (h : Carries c (f :: fs)) {tag : Tag} (htag : tag ≠ .template)
    (attrs : Attributes) :
    c.putElement .html tag attrs =
      ({ c with arena := c.arena.plant f.id (.element .html tag attrs) }, c.arena.cells.size) := by
  obtain ⟨hsize, hcontents⟩ := h.builds.innermost
  have hadd : c.arena.addElement .html tag attrs = c.arena.add (.element .html tag attrs) := by
    rw [Arena.addElement, if_neg fun heq => htag heq.2]
  have hplace : { c with arena := (c.arena.add (.element .html tag attrs)).1 }.place =
      .lastChild f.id := by
    refine place_eq (by exact h.opens) (by exact h.fostering) ?_
    change (c.arena.add _).1.contents? f.id = none
    rw [Arena.contents?, Arena.cell_add, if_neg (Nat.ne_of_lt hsize)]
    exact hcontents
  rw [putElement, hadd]
  dsimp only
  rw [putHere, hplace]
  rfl

theorem Carries.insert_eq (h : Carries c (f :: fs)) {t : StartTag} (htag : t.tag ≠ .template) :
    c.insert t = { c with
      arena := c.arena.plant f.id (.element .html t.tag (htmlAttrs t))
      opens := ⟨c.arena.cells.size, .html, t.tag⟩ :: c.opens } := by
  rw [insert, openElement, h.putElement_eq htag]

theorem Carries.insertVoid_eq (h : Carries c (f :: fs)) {t : StartTag} (htag : t.tag ≠ .template) :
    c.insertVoid t =
      { c with arena := c.arena.plant f.id (.element .html t.tag (htmlAttrs t)) } := by
  rw [insertVoid, h.putElement_eq htag]

theorem Carries.putChar_eq (h : Carries c (f :: fs)) (ch : Char) :
    c.putChar ch = { c with arena := c.arena.appendChar f.id ch } := by
  rw [putChar, place_eq h.opens h.fostering h.builds.innermost.2]

theorem Carries.putChar (h : Carries c (f :: fs)) (ch : Char) :
    Carries (c.putChar ch) ({ f with done := Node.pushChar f.done ch } :: fs) := by
  rw [h.putChar_eq]
  exact ⟨h.builds.char ch, h.opens, h.fostering⟩

/-! ### What does not happen -/

theorem Carries.paragraph (h : Carries c fs) :
    c.tagInButtonScope .p = paragraphOpen (Frame.tags fs) := by
  rw [tagInButtonScope, h.opens]
  clear h
  induction fs with
  | nil => rfl
  | cons f fs ih =>
    rw [List.map_cons, reaches, ih, Frame.tags_cons, paragraphOpen]
    by_cases hp : f.tag = .p <;> simp [OpenElement.named, Frame.opened, boundsScope, hp]

theorem Carries.closeOpenParagraph (h : Carries c fs) (hp : paragraphOpen (Frame.tags fs) = false) :
    c.closeOpenParagraph = c := by
  rw [Construction.closeOpenParagraph, h.paragraph, hp, if_neg Bool.false_ne_true]

theorem itemToClose_opened {item : Tag} (h : itemOpen item (Frame.tags fs) = false) :
    itemToClose item (fs.map Frame.opened) = none := by
  induction fs with
  | nil => rfl
  | cons f fs ih =>
    rw [Frame.tags_cons, itemOpen] at h
    rw [List.map_cons, itemToClose]
    change (if closesItem item f.tag = true then _
      else if (f.tag.isSpecial && !(f.tag == .address || f.tag == .div || f.tag == .p)) = true
        then none else _) = none
    split at h
    · cases h
    · rename_i hcloses
      rw [if_neg hcloses]
      split at h
      · rename_i hspecial
        exact if_pos hspecial
      · rename_i hspecial
        rw [if_neg hspecial]
        exact ih h

/-- There is nothing to open again. -/
theorem reconstruct_eq (h : Remembers fs c.formatting) (hopens : c.opens = fs.map Frame.opened) :
    c.reconstruct = c := by
  have hcut : c.cutShort = [] := by
    rw [cutShort]
    cases hformatting : c.formatting with
    | nil => rfl
    | cons entry rest =>
      rw [hformatting] at h
      rcases h.mem List.mem_cons_self with rfl | ⟨f, hf, rfl⟩
      · rfl
      · have hholds : c.holds f.id = true := by
          rw [holds, hopens, List.any_map, List.any_eq_true]
          exact ⟨f, hf, beq_self_eq_true f.id⟩
        rw [List.takeWhile_cons_of_neg]
        simp [hholds]
  rw [reconstruct, hcut]

theorem closeNestedLink_eq (h : Remembers fs c.formatting)
    (hlink : (Frame.tags fs).contains .a = false) : c.closeNestedLink = c := by
  have hlatest : c.latestFormatting? .a = none := by
    rw [latestFormatting?, List.findSome?_eq_none_iff]
    intro entry hmem
    rcases h.mem ((List.takeWhile_sublist _).mem hmem) with rfl | ⟨f, hf, rfl⟩
    · rfl
    · have hne : f.tag ≠ .a := by
        intro heq
        have hin : Tag.a ∈ Frame.tags fs := heq ▸ List.mem_map_of_mem hf
        simp [hin] at hlink
      simp [hne]
  rw [closeNestedLink, hlatest]

theorem forgetFourth_eq (h : Remembers fs c.formatting) (tag : Tag) (attrs : Attributes) :
    ∃ l, c.forgetFourth tag attrs = { c with formatting := l } ∧ Remembers fs l := by
  rw [forgetFourth]
  split
  · exact ⟨c.formatting, rfl, h⟩
  · split
    · exact ⟨_, rfl, h.forget _⟩
    · exact ⟨c.formatting, rfl, h⟩

/-! ### The beginning of an element -/

/-- The element of a start tag in a fresh cell, with nothing in it yet. -/
def fresh (c : Construction) (t : StartTag) : Frame Node :=
  ⟨c.arena.cells.size, t.tag, htmlAttrs t, []⟩

theorem ne_template_of_begins {ts : List Tag} {tag : Tag} (h : Tag.begins ts tag = true) :
    tag ≠ .template := by
  rintro rfl
  exact sort_ne_other_of_begins h rfl

/-- An element begins. -/
theorem Settled.begins (h : Settled c (f :: fs)) {t : StartTag}
    (hbegins : Tag.begins (Frame.tags (f :: fs)) t.tag = true)
    (hl : Remembers (c.fresh t :: f :: fs) l) {mode : Mode}
    (hmode : mode = modeIn (t.tag :: Frame.tags (f :: fs))) :
    Settled { c.insert t with mode := mode, formatting := l } (c.fresh t :: f :: fs) := by
  rw [h.insert_eq (ne_template_of_begins hbegins)]
  exact {
    builds := h.builds.open t.tag (htmlAttrs t)
    opens := congrArg (List.cons _) h.opens
    fostering := h.fostering
    nested := .inside hbegins h.nested
    mode := hmode
    templateModes := h.templateModes
    skipsLineFeed := h.skipsLineFeed
    vintage := h.vintage
    tableText := h.tableText
    formatting := hl }

theorem isMarked_of_isOfText {tag : Tag} (h : tag.sort.isOfText = true) :
    tag.sort.isMarked = false := by
  cases hsort : tag.sort <;> rw [hsort] at h <;> first | rfl | cases h

variable {t : StartTag}

theorem Settled.noFrameset (h : Settled c fs) : Settled c.noFrameset fs where
  builds := h.builds
  opens := h.opens
  fostering := h.fostering
  nested := h.nested
  mode := h.mode
  templateModes := h.templateModes
  skipsLineFeed := h.skipsLineFeed
  vintage := h.vintage
  tableText := h.tableText
  formatting := h.formatting

/-- An element begins that does not hide formatting. -/
theorem Settled.begins_plain (h : Settled c (f :: fs))
    (hbegins : Tag.begins (Frame.tags (f :: fs)) t.tag = true)
    (hplain : t.tag.sort.isMarked = false) {mode : Mode}
    (hmode : mode = modeIn (t.tag :: Frame.tags (f :: fs))) :
    Settled { c.insert t with mode := mode } (c.fresh t :: f :: fs) := by
  have hsame : { c.insert t with mode := mode, formatting := c.formatting } =
      { c.insert t with mode := mode } := by
    rw [h.insert_eq (ne_template_of_begins hbegins)]
  rw [← hsame]
  exact h.begins hbegins (.plain hplain h.formatting) hmode

/-- An element begins that changes neither the rules nor what is remembered. -/
theorem Settled.insert (h : Settled c (f :: fs)) (htakes : takesText (Frame.tags (f :: fs)) = true)
    (htext : beginsInText (Frame.tags (f :: fs)) t.tag = true) (htable : t.tag.sort ≠ .table) :
    Settled (c.insert t) (c.fresh t :: f :: fs) := by
  have hofText := beginsInText_sort htext
  have hbegins := begins_of_takesText htakes htext
  have hmode : c.mode = modeIn (t.tag :: Frame.tags (f :: fs)) := by
    rw [h.mode, modeIn_of_isOfText hofText htable]
  have hsame : { c.insert t with mode := c.mode } = c.insert t := by
    rw [h.insert_eq (ne_template_of_begins hbegins)]
  rw [← hsame]
  exact h.begins_plain hbegins (isMarked_of_isOfText hofText) hmode

/-- A formatting element begins. -/
theorem Settled.insertFormatting (h : Settled c (f :: fs))
    (htakes : takesText (Frame.tags (f :: fs)) = true)
    (htext : beginsInText (Frame.tags (f :: fs)) t.tag = true)
    (hsort : t.tag.sort = .formatting ∨ t.tag.sort = .link) :
    Settled (c.insertFormatting t) (c.fresh t :: f :: fs) := by
  have hofText := beginsInText_sort htext
  have hbegins := begins_of_takesText htakes htext
  have htable : t.tag.sort ≠ .table := by
    rcases hsort with hsort | hsort <;> rw [hsort] <;> exact TagSort.noConfusion
  have hmode : c.mode = modeIn (t.tag :: Frame.tags (f :: fs)) := by
    rw [h.mode, modeIn_of_isOfText hofText htable]
  obtain ⟨l, hforget, hl⟩ := forgetFourth_eq h.formatting t.tag (htmlAttrs t)
  have hcarries : Carries { c with formatting := l } (f :: fs) :=
    ⟨h.builds, h.opens, h.fostering⟩
  have hinsert : c.insertFormatting t = { c.insert t with
      mode := c.mode, formatting := .element c.arena.cells.size t.tag (htmlAttrs t) :: l } := by
    rw [Construction.insertFormatting, hforget, openElement,
      hcarries.putElement_eq (ne_template_of_begins hbegins),
      h.insert_eq (ne_template_of_begins hbegins)]
  rw [hinsert]
  exact h.begins hbegins (.kept hsort hl) hmode

/-- A table begins. -/
theorem Settled.startTable (h : Settled c (f :: fs))
    (htakes : takesText (Frame.tags (f :: fs)) = true)
    (htext : beginsInText (Frame.tags (f :: fs)) t.tag = true) (hsort : t.tag.sort = .table) :
    Settled (c.startTable t) (c.fresh t :: f :: fs) := by
  have hplain := isMarked_of_isOfText (beginsInText_sort htext)
  have hmode : Mode.inTable = modeIn (t.tag :: Frame.tags (f :: fs)) := by
    rw [modeIn, hsort]
  rw [Construction.startTable, h.vintage, if_pos rfl]
  exact (h.begins_plain (begins_of_takesText htakes htext) hplain hmode).noFrameset

/-- An element begins in running text. -/
theorem Settled.startOfText (h : Settled c (f :: fs))
    (htakes : takesText (Frame.tags (f :: fs)) = true)
    (htext : beginsInText (Frame.tags (f :: fs)) t.tag = true) :
    Settled (c.startOfText t) (c.fresh t :: f :: fs) := by
  have hreconstruct : c.reconstruct = c := reconstruct_eq h.formatting h.opens
  have hinsert := h.insert htakes htext
  have hinsertFormatting := h.insertFormatting htakes htext
  have hrule := htext
  rw [Construction.startOfText]
  unfold beginsInText at hrule
  cases hsort : t.tag.sort <;> rw [hsort] at hrule hinsert hinsertFormatting
  case block | paragraph =>
    rw [h.closeOpenParagraph (by simpa using hrule)]
    exact hinsert TagSort.noConfusion
  case heading =>
    rw [Bool.and_eq_true, Bool.not_eq_true', Bool.not_eq_true'] at hrule
    have hcurrent : c.currentHas Tag.isHeading = false := by
      rw [currentHas, h.opens]
      exact hrule.2
    rw [h.closeOpenParagraph hrule.1]
    dsimp only
    rw [hcurrent, if_neg Bool.false_ne_true]
    exact hinsert TagSort.noConfusion
  case item =>
    rw [Bool.and_eq_true, Bool.not_eq_true', Bool.not_eq_true'] at hrule
    have hclose : itemToClose t.tag c.noFrameset.opens = none := by
      rw [h.noFrameset.opens]
      exact itemToClose_opened hrule.1
    dsimp only
    rw [startItem, hclose]
    dsimp only
    rw [h.noFrameset.closeOpenParagraph hrule.2]
    exact h.noFrameset.insert htakes htext (hsort ▸ TagSort.noConfusion)
  case link =>
    rw [closeNestedLink_eq h.formatting (by simpa using hrule), hreconstruct]
    exact hinsertFormatting (Or.inr rfl)
  case formatting =>
    rw [hreconstruct]
    exact hinsertFormatting (Or.inl rfl)
  case inline =>
    rw [hreconstruct]
    exact hinsert TagSort.noConfusion
  case table =>
    exact h.startTable htakes htext hsort
  all_goals cases hrule

/-- Under the rules for tables the table is current. -/
theorem Settled.popToTable (h : Settled c (f :: fs)) (hmode : c.mode = .inTable) :
    c.popToTable = c := by
  have hsort := h.nested.sort_of_modeIn.1 (h.mode.symm.trans hmode)
  have hcontext : f.opened.has Tag.isTableScopeBarrier = true := by
    rw [OpenElement.has, Frame.opened, sort_eq_table hsort]
    rfl
  rw [Construction.popToTable, popTo_current h.opens hcontext]

/-- Under the rules for sections of tables the section is current. -/
theorem Settled.popToBodyContext (h : Settled c (f :: fs)) (hmode : c.mode = .inTableBody) :
    c.popToBodyContext = c := by
  have hsort := h.nested.sort_of_modeIn.2.1 (h.mode.symm.trans hmode)
  have hcontext : f.opened.has Tag.isTableBodyContext = true := by
    rw [OpenElement.has, Frame.opened, isTableBodyContext_of_sort hsort]
    rfl
  rw [Construction.popToBodyContext, popTo_current h.opens hcontext]

/-- Under the rules for rows the row is current. -/
theorem Settled.popToRowContext (h : Settled c (f :: fs)) (hmode : c.mode = .inRow) :
    c.popToRowContext = c := by
  have hsort := h.nested.sort_of_modeIn.2.2 (h.mode.symm.trans hmode)
  have hcontext : f.opened.has Tag.isTableRowContext = true := by
    rw [OpenElement.has, Frame.opened, sort_eq_row hsort]
    rfl
  rw [Construction.popToRowContext, popTo_current h.opens hcontext]

/-- A section begins inside a table. -/
theorem Settled.startSection (h : Settled c (f :: fs)) (hmode : c.mode = .inTable)
    (hbegins : Tag.begins (Frame.tags (f :: fs)) t.tag = true) (hsort : t.tag.sort = .section) :
    ∃ c', c.applyMode (.startTag t) = (c', .done) ∧ Settled c' (c.fresh t :: f :: fs) := by
  refine ⟨{ c.insert t with mode := .inTableBody }, ?_, ?_⟩
  · rw [applyMode, hmode]
    change c.startInTable t = _
    rw [startInTable_of_section hsort, h.popToTable hmode]
    rfl
  · exact h.begins_plain hbegins (hsort ▸ rfl) (by rw [modeIn, hsort])

/-- A caption begins inside a table. -/
theorem Settled.startCaption (h : Settled c (f :: fs)) (hmode : c.mode = .inTable)
    (hbegins : Tag.begins (Frame.tags (f :: fs)) t.tag = true) (hsort : t.tag.sort = .caption) :
    ∃ c', c.applyMode (.startTag t) = (c', .done) ∧ Settled c' (c.fresh t :: f :: fs) := by
  have htag := ne_template_of_begins hbegins
  have hmarked : Carries c.pushMarker (f :: fs) := ⟨h.builds, h.opens, h.fostering⟩
  refine ⟨{ c.insert t with mode := .inCaption, formatting := .marker :: c.formatting }, ?_, ?_⟩
  · rw [applyMode, hmode]
    change c.startInTable t = _
    rw [startInTable, sort_eq_caption hsort]
    dsimp only
    rw [h.popToTable hmode, hmarked.insert_eq htag, h.insert_eq htag]
    rfl
  · exact h.begins hbegins (.marked (hsort ▸ rfl) h.formatting) (by rw [modeIn, hsort])

/-- A row begins inside a section. -/
theorem Settled.startRow (h : Settled c (f :: fs)) (hmode : c.mode = .inTableBody)
    (hbegins : Tag.begins (Frame.tags (f :: fs)) t.tag = true) (hsort : t.tag.sort = .row) :
    ∃ c', c.applyMode (.startTag t) = (c', .done) ∧ Settled c' (c.fresh t :: f :: fs) := by
  refine ⟨{ c.insert t with mode := .inRow }, ?_, ?_⟩
  · rw [applyMode, hmode]
    change inTableBody c _ = _
    rw [inTableBody, if_pos (sort_eq_row hsort), h.popToBodyContext hmode]
    rfl
  · exact h.begins_plain hbegins (hsort ▸ rfl) (by rw [modeIn, hsort])

/-- A cell begins inside a row. -/
theorem Settled.startCell (h : Settled c (f :: fs)) (hmode : c.mode = .inRow)
    (hbegins : Tag.begins (Frame.tags (f :: fs)) t.tag = true) (hsort : t.tag.sort = .cell) :
    ∃ c', c.applyMode (.startTag t) = (c', .done) ∧ Settled c' (c.fresh t :: f :: fs) := by
  refine ⟨{ c.insert t with mode := .inCell, formatting := .marker :: c.formatting }, ?_, ?_⟩
  · rw [applyMode, hmode]
    change inRow c _ = _
    rw [inRow, if_pos (isCell_of_sort hsort), h.popToRowContext hmode,
      h.insert_eq (ne_template_of_begins hbegins)]
    rfl
  · exact h.begins hbegins (.marked (hsort ▸ rfl) h.formatting) (by rw [modeIn, hsort])

/-- An element begins. -/
theorem Settled.start (h : Settled c (f :: fs))
    (hbegins : Tag.begins (Frame.tags (f :: fs)) t.tag = true) :
    ∃ c', c.applyMode (.startTag t) = (c', .done) ∧ Settled c' (c.fresh t :: f :: fs) := by
  rcases begins_cases hbegins with ⟨htakes, htext⟩ | ⟨hin, hsort | hsort⟩ | ⟨hin, hsort⟩ | ⟨hin, hsort⟩
  · refine ⟨c.startOfText t, ?_, h.startOfText htakes htext⟩
    apply applyMode_start_of_sort
    · rw [beginsInText_sort htext, Bool.true_or]
    · rw [h.mode]
      exact takesText_iff.mp htakes
  · exact h.startSection (h.mode.trans hin) hbegins hsort
  · exact h.startCaption (h.mode.trans hin) hbegins hsort
  · exact h.startRow (h.mode.trans hin) hbegins hsort
  · exact h.startCell (h.mode.trans hin) hbegins hsort

/-! ### What stands in the innermost element -/

theorem Remembers.fill (h : Remembers (f :: fs) l) (done : List Node) :
    Remembers ({ f with done := done } :: fs) l := by
  cases h with
  | marked hmarked hrest => exact .marked hmarked hrest
  | kept hkept hrest => exact .kept hkept hrest
  | plain hplain hrest => exact .plain hplain hrest

/-- Nothing changes but what is finished inside the innermost element. -/
theorem Settled.fill (h : Settled c (f :: fs)) {a : Arena} {done : List Node}
    (ha : a.Builds ({ f with done := done } :: fs)) :
    Settled { c with arena := a } ({ f with done := done } :: fs) where
  builds := ha
  opens := h.opens
  fostering := h.fostering
  nested := h.nested
  mode := h.mode
  templateModes := h.templateModes
  skipsLineFeed := h.skipsLineFeed
  vintage := h.vintage
  tableText := h.tableText
  formatting := h.formatting.fill done

theorem Settled.insertVoid (h : Settled c (f :: fs)) (htag : t.tag ≠ .template) :
    Settled (c.insertVoid t)
      (f.add (.element ⟨.html, t.tag.toString, htmlAttrs t⟩ []) :: fs) := by
  rw [h.insertVoid_eq htag]
  exact h.fill (h.builds.void t.tag (htmlAttrs t))

/-- An element that holds nothing. -/
theorem Settled.empty (h : Settled c (f :: fs))
    (hstands : standsEmpty (Frame.tags (f :: fs)) t.tag = true) :
    ∃ c', c.applyMode (.startTag t) = (c', .done) ∧
      Settled c' (f.add (.element ⟨.html, t.tag.toString, htmlAttrs t⟩ []) :: fs) := by
  rw [standsEmpty, Bool.and_eq_true, Bool.or_eq_true, decide_eq_true_iff, Bool.and_eq_true,
    decide_eq_true_iff, Bool.not_eq_true'] at hstands
  obtain ⟨htakes, hsort⟩ := hstands
  have hmode := takesText_iff.mp htakes
  rw [← h.mode] at hmode
  have htag : t.tag ≠ .template := by
    intro heq
    rw [heq] at hsort
    rcases hsort with hsort | ⟨hsort, -⟩ <;> cases hsort
  have hvoid := h.insertVoid htag
  refine ⟨c.startOfText t, ?_, ?_⟩
  · apply applyMode_start_of_sort _ hmode
    rcases hsort with hsort | ⟨hsort, -⟩ <;> rw [hsort] <;> rfl
  · rw [Construction.startOfText]
    rcases hsort with hsort | ⟨hsort, hp⟩
    · rw [hsort]
      dsimp only
      rw [startBodyVoid, reconstruct_eq h.formatting h.opens]
      split
      · exact hvoid
      · exact hvoid.noFrameset
    · rw [hsort]
      dsimp only
      rw [h.closeOpenParagraph hp]
      exact hvoid.noFrameset

/-- A character of running text. -/
theorem Settled.char (h : Settled c (f :: fs)) (htakes : takesText (Frame.tags (f :: fs)) = true)
    {ch : Char} (hch : ch ≠ '\x00') :
    ∃ c', c.applyMode (.char ch) = (c', .done) ∧
      Settled c' ({ f with done := Node.pushChar f.done ch } :: fs) := by
  have hmode := takesText_iff.mp htakes
  rw [← h.mode] at hmode
  have happly : c.applyMode (.char ch) = (c.charInBody ch).done := by
    rcases hmode with hmode | hmode | hmode <;> rw [applyMode, hmode] <;> rfl
  have hput : ∀ {c : Construction}, Settled c (f :: fs) →
      Settled (c.putChar ch) ({ f with done := Node.pushChar f.done ch } :: fs) := by
    intro c h
    rw [h.putChar_eq]
    exact h.fill (h.builds.char ch)
  refine ⟨_, happly, ?_⟩
  rw [charInBody, if_neg (by simpa using hch), reconstruct_eq h.formatting h.opens]
  split
  · exact hput h
  · exact hput h.noFrameset

/-! ### The end of an element -/

/-- The mode that fits the stack is that of the innermost elements. -/
theorem fittingMode_eq (c : Construction) {ts : List Tag} (h : Nested ts) {fs : List (Frame Node)}
    (hfs : Frame.tags fs = ts) : c.fittingMode (fs.map Frame.opened) = modeIn ts := by
  induction h generalizing fs with
  | body =>
    obtain ⟨f, rest, rfl, hf, -⟩ := List.map_eq_cons_iff.mp hfs
    obtain ⟨id, tag, attrs, done⟩ := f
    obtain rfl : tag = .body := hf
    rfl
  | inside hbegins hnested ih =>
    obtain ⟨f, rest, rfl, rfl, hrest⟩ := List.map_eq_cons_iff.mp hfs
    have hbelow : rest.map Frame.opened ≠ [] := by
      rintro hnil
      rw [List.map_eq_nil_iff.mp hnil] at hrest
      rw [← hrest] at hnested
      cases hnested
    rw [List.map_cons]
    exact (fittingMode_cons c (sort_ne_other_of_begins hbegins) hbelow).trans (by
      rw [modeIn, ih hrest])

variable {f' : Frame Node}

/-- The innermost element ends. -/
theorem Settled.ends (h : Settled c (f' :: f :: fs)) (hnested : Nested (Frame.tags (f :: fs)))
    (hl : Remembers (f :: fs) l) {mode : Mode} (hmode : mode = modeIn (Frame.tags (f :: fs))) :
    Settled { c.pop with mode := mode, formatting := l } (f.add f'.node :: fs) where
  builds := h.builds.close
  opens := congrArg List.tail h.opens
  fostering := h.fostering
  nested := hnested
  mode := hmode
  templateModes := h.templateModes
  skipsLineFeed := h.skipsLineFeed
  vintage := h.vintage
  tableText := h.tableText
  formatting := hl.fill _

theorem Remembers.tail (h : Remembers (f' :: f :: fs) l) (hmarked : f'.tag.sort.isMarked = false)
    (hkept : f'.tag.sort ≠ .formatting ∧ f'.tag.sort ≠ .link) : Remembers (f :: fs) l := by
  cases h with
  | marked h _ =>
    rw [hmarked] at h
    cases h
  | kept h _ =>
    rcases h with h | h
    · exact absurd h hkept.1
    · exact absurd h hkept.2
  | plain _ hrest => exact hrest

/-- Tables, sections and rows are not remembered. -/
theorem Remembers.tail_of_part (h : Remembers (f' :: f :: fs) l)
    (hsort : f'.tag.sort = .table ∨ f'.tag.sort = .section ∨ f'.tag.sort = .row) :
    Remembers (f :: fs) l := by
  rcases hsort with hsort | hsort | hsort <;> exact h.tail (hsort ▸ rfl) (by simp [hsort])

theorem Remembers.tail_marked (h : Remembers (f' :: f :: fs) l) (hmarked : f'.tag.sort.isMarked = true) :
    ∃ l', l = .marker :: l' ∧ Remembers (f :: fs) l' := by
  cases h with
  | marked _ hrest => exact ⟨_, rfl, hrest⟩
  | kept h _ =>
    rcases h with h | h <;> rw [h] at hmarked <;> cases hmarked
  | plain h _ =>
    rw [hmarked] at h
    cases h

/-- The end tag of the current element forgets its entry, which is the latest one. -/
theorem closeFormatting_latest {c : Construction} {id : CellId} {tag : Tag} {attrs : Attributes}
    {rest : List OpenElement} {l : List Formatting} (hopens : c.opens = ⟨id, .html, tag⟩ :: rest)
    (hl : c.formatting = .element id tag attrs :: l) :
    c.closeFormatting tag = { c.pop with formatting := l } := by
  have hnamed : (⟨id, .html, tag⟩ : OpenElement).named tag = true := by
    simp [OpenElement.named]
  have his : Formatting.is id (.element id tag attrs) = true := beq_self_eq_true id
  have hisFormatting : c.isFormatting id = true := by
    rw [isFormatting, hl, List.any_cons, his, Bool.true_or]
  have hlatest : c.latestFormatting? tag = some (id, attrs) := by
    rw [latestFormatting?, sinceMarker, hl, List.takeWhile_cons_of_pos rfl]
    simp
  have hspan : c.opens.span (·.id != id) = ([], ⟨id, .html, tag⟩ :: rest) := by
    simp [hopens, List.span_eq_takeWhile_dropWhile]
  have hscope : c.inScope (·.id == id) = true := by
    rw [inScope, hopens]
    exact reaches_current (beq_self_eq_true id) boundsScope rest
  have honce : c.closeFormattingOnce tag = ({ c.pop with formatting := l }, false) := by
    have hforget : c.forget id = { c with formatting := l } := by
      rw [forget, hl, List.eraseP_cons_of_pos his]
    rw [closeFormattingOnce, hlatest]
    dsimp only
    rw [hspan]
    dsimp only
    rw [hscope, hforget, pop, hopens]
    rfl
  rw [closeFormatting, hopens]
  dsimp only
  rw [hnamed, hisFormatting, Bool.not_true, Bool.and_false, if_neg Bool.false_ne_true,
    closeFormattingUpTo, honce]

/-- The end tag of a formatting element closes it. -/
theorem Settled.closeFormatting (h : Settled c (f' :: f :: fs))
    (hsort : f'.tag.sort = .formatting ∨ f'.tag.sort = .link) :
    ∃ l, c.closeFormatting f'.tag = { c.pop with formatting := l } ∧ Remembers (f :: fs) l := by
  have hopens : c.opens = f'.opened :: (f :: fs).map Frame.opened := h.opens
  have hformatting := h.formatting
  generalize hl : c.formatting = entries at hformatting
  cases hformatting with
  | marked hmarked _ =>
    rcases hsort with hsort | hsort <;> rw [hsort] at hmarked <;> cases hmarked
  | kept _ hrest => exact ⟨_, closeFormatting_latest hopens hl, hrest⟩
  | plain _ hrest =>
    -- only three elements of a kind are remembered, and this one has been forgotten
    have hforgotten : c.isFormatting f'.id = false := by
      rw [isFormatting, hl, List.any_eq_false]
      intro entry hmem
      rcases hrest.mem hmem with rfl | ⟨g, hg, rfl⟩
      · exact Bool.false_ne_true
      · simpa [Formatting.is] using h.builds.id_ne hg
    have hnamed : f'.opened.named f'.tag = true := by
      simp [OpenElement.named, Frame.opened]
    have hforgottenOpen : c.isFormatting f'.opened.id = false := hforgotten
    refine ⟨c.formatting, ?_, hl ▸ hrest⟩
    rw [Construction.closeFormatting, hopens]
    dsimp only
    rw [hnamed, hforgottenOpen, Bool.not_false, Bool.and_self, if_pos rfl, pop, hopens]
    rfl

/-- An element that hides formatting ends with what has been remembered inside it. -/
theorem pop_clearToMarker (hl : c.formatting = .marker :: l) :
    c.pop.clearToMarker = { c.pop with formatting := l } := by
  have hpop : c.pop.formatting = .marker :: l := hl
  rw [clearToMarker, hpop, List.dropWhile_cons_of_neg (by simp [Formatting.isMarker])]
  rfl

/-- The innermost element ends, which is one of running text. -/
theorem Settled.finishOfText (h : Settled c (f' :: f :: fs))
    (htakes : takesText (Frame.tags (f :: fs)) = true)
    (htext : beginsInText (Frame.tags (f :: fs)) f'.tag = true)
    (hnested : Nested (Frame.tags (f :: fs))) (htable : f'.tag.sort ≠ .table) :
    ∃ c', c.applyMode (.endTag f'.tag) = (c', .done) ∧ Settled c' (f.add f'.node :: fs) := by
  have hopens : c.opens = ⟨f'.id, .html, f'.tag⟩ :: (f :: fs).map Frame.opened := h.opens
  have hofText := beginsInText_sort htext
  have hmode : c.mode = modeIn (Frame.tags (f :: fs)) := by
    rw [h.mode, Frame.tags_cons, modeIn_of_isOfText hofText htable]
  have happly : c.applyMode (.endTag f'.tag) = (c.endOfText f'.tag).done := by
    apply applyMode_end_of_sort hofText
    · intro heq
      exact htable (heq ▸ rfl)
    · rw [hmode]
      exact takesText_iff.mp htakes
  refine ⟨_, happly, ?_⟩
  by_cases hsort : f'.tag.sort = .formatting ∨ f'.tag.sort = .link
  · obtain ⟨l, hclose, hl⟩ := h.closeFormatting hsort
    have hend : c.endOfText f'.tag = { c.pop with formatting := l } := by
      rw [endOfText, ← hclose]
      rcases hsort with hsort | hsort <;> rw [hsort]
    rw [hend]
    exact h.ends hnested hl hmode
  · rw [not_or] at hsort
    rw [endOfText_current hopens hofText hsort]
    exact h.ends hnested (h.formatting.tail (isMarked_of_isOfText hofText) hsort) hmode

theorem Settled.popThroughTag (h : Settled c (f' :: fs)) : c.popThroughTag f'.tag = c.pop := by
  have hnamed : f'.opened.named f'.tag = true := by
    simp [OpenElement.named, Frame.opened]
  exact popThrough_current h.opens hnamed

theorem Settled.tagInTableScope (h : Settled c (f' :: fs)) : c.tagInTableScope f'.tag = true := by
  have hnamed : f'.opened.named f'.tag = true := by
    simp [OpenElement.named, Frame.opened]
  have hopens : c.opens = f'.opened :: fs.map Frame.opened := h.opens
  rw [Construction.tagInTableScope, inTableScope, hopens]
  exact reaches_current hnamed _ _

/-- The innermost element ends, which is a table. -/
theorem Settled.finishTable (h : Settled c (f' :: f :: fs)) (hnested : Nested (Frame.tags (f :: fs)))
    (htable : f'.tag.sort = .table) :
    ∃ c', c.applyMode (.endTag f'.tag) = (c', .done) ∧ Settled c' (f.add f'.node :: fs) := by
  have htag := sort_eq_table htable
  have hthrough := h.popThroughTag
  have hscope := h.tagInTableScope
  rw [htag] at hthrough hscope
  have hmode : c.mode = .inTable := by
    rw [h.mode, Frame.tags_cons, modeIn, htable]
  refine ⟨c.pop.resetMode, ?_, ?_⟩
  · rw [applyMode, hmode, htag]
    change c.endInTable .table = _
    rw [endInTable, hscope, if_pos rfl, hthrough]
    rfl
  · refine h.ends hnested (h.formatting.tail_of_part (Or.inl htable)) ?_
    have hpop : c.pop.opens = (f :: fs).map Frame.opened := congrArg List.tail h.opens
    rw [hpop]
    exact fittingMode_eq c.pop hnested rfl

/-- The innermost element ends, which is a section of a table. -/
theorem Settled.finishSection (h : Settled c (f' :: f :: fs)) (hnested : Nested (Frame.tags (f :: fs)))
    (hin : modeIn (Frame.tags (f :: fs)) = .inTable) (hsort : f'.tag.sort = .section) :
    ∃ c', c.applyMode (.endTag f'.tag) = (c', .done) ∧ Settled c' (f.add f'.node :: fs) := by
  have hmode : c.mode = .inTableBody := by
    rw [h.mode, Frame.tags_cons, modeIn, hsort]
  have hsection : f'.tag.isSection = true := by
    rcases sort_eq_section hsort with hsort | hsort | hsort <;> rw [hsort] <;> rfl
  have hl := h.formatting.tail_of_part (Or.inr (Or.inl hsort))
  refine ⟨{ c.pop with mode := .inTable }, ?_, h.ends hnested hl hin.symm⟩
  rw [applyMode, hmode]
  change c.inTableBody (.endTag f'.tag) = _
  unfold inTableBody
  dsimp only
  rw [if_pos hsection, h.tagInTableScope, if_pos rfl, h.popToBodyContext hmode]
  rfl

/-- The innermost element ends, which is the caption of a table. -/
theorem Settled.finishCaption (h : Settled c (f' :: f :: fs)) (hnested : Nested (Frame.tags (f :: fs)))
    (hin : modeIn (Frame.tags (f :: fs)) = .inTable) (hsort : f'.tag.sort = .caption) :
    ∃ c', c.applyMode (.endTag f'.tag) = (c', .done) ∧ Settled c' (f.add f'.node :: fs) := by
  have hmode : c.mode = .inCaption := by
    rw [h.mode, Frame.tags_cons, modeIn, hsort]
  have hends : c.popImpliedEnds = c := by
    apply popImplied_current h.opens
    rw [OpenElement.has, Frame.opened, closesImplicitly_of_isMarked (Or.inr hsort), Bool.and_false]
  have htag := sort_eq_caption hsort
  have hthrough := h.popThroughTag
  have hscope := h.tagInTableScope
  rw [htag] at hthrough hscope
  obtain ⟨l, hformatting, hl⟩ := h.formatting.tail_marked (hsort ▸ rfl)
  refine ⟨{ c.pop with mode := .inTable, formatting := l }, ?_, h.ends hnested hl hin.symm⟩
  rw [applyMode, hmode, htag]
  change c.inCaption (.endTag .caption) = _
  rw [inCaption, if_pos rfl, hscope, Bool.not_true, if_neg Bool.false_ne_true, endCaption, hends,
    hthrough, pop_clearToMarker hformatting]
  rfl

/-- The innermost element ends, which is a row. -/
theorem Settled.finishRow (h : Settled c (f' :: f :: fs)) (hnested : Nested (Frame.tags (f :: fs)))
    (hin : modeIn (Frame.tags (f :: fs)) = .inTableBody) (hsort : f'.tag.sort = .row) :
    ∃ c', c.applyMode (.endTag f'.tag) = (c', .done) ∧ Settled c' (f.add f'.node :: fs) := by
  have hmode : c.mode = .inRow := by
    rw [h.mode, Frame.tags_cons, modeIn, hsort]
  have hscope := h.tagInTableScope
  rw [sort_eq_row hsort] at hscope
  have hl := h.formatting.tail_of_part (Or.inr (Or.inr hsort))
  refine ⟨{ c.pop with mode := .inTableBody }, ?_, h.ends hnested hl hin.symm⟩
  rw [applyMode, hmode, sort_eq_row hsort]
  change c.inRow (.endTag .tr) = _
  unfold inRow
  dsimp only
  rw [if_pos rfl, hscope, if_pos rfl, h.popToRowContext hmode]
  rfl

/-- The innermost element ends, which is a cell. -/
theorem Settled.finishCell (h : Settled c (f' :: f :: fs)) (hnested : Nested (Frame.tags (f :: fs)))
    (hin : modeIn (Frame.tags (f :: fs)) = .inRow) (hsort : f'.tag.sort = .cell) :
    ∃ c', c.applyMode (.endTag f'.tag) = (c', .done) ∧ Settled c' (f.add f'.node :: fs) := by
  have hmode : c.mode = .inCell := by
    rw [h.mode, Frame.tags_cons, modeIn, hsort]
  have hends : c.popImpliedEnds = c := by
    apply popImplied_current h.opens
    rw [OpenElement.has, Frame.opened, closesImplicitly_of_isMarked (Or.inl hsort), Bool.and_false]
  obtain ⟨l, hformatting, hl⟩ := h.formatting.tail_marked (hsort ▸ rfl)
  refine ⟨{ c.pop with mode := .inRow, formatting := l }, ?_, h.ends hnested hl hin.symm⟩
  rw [applyMode, hmode]
  change c.inCell (.endTag f'.tag) = _
  unfold inCell
  dsimp only
  rw [if_pos (isCell_of_sort hsort), h.tagInTableScope, if_pos rfl, hends, h.popThroughTag,
    pop_clearToMarker hformatting]
  rfl

/-- The end tag of the innermost element. -/
theorem Settled.finish (h : Settled c (f' :: f :: fs))
    (hbegins : Tag.begins (Frame.tags (f :: fs)) f'.tag = true)
    (hnested : Nested (Frame.tags (f :: fs))) :
    ∃ c', c.applyMode (.endTag f'.tag) = (c', .done) ∧ Settled c' (f.add f'.node :: fs) := by
  rcases begins_cases hbegins with ⟨htakes, htext⟩ | ⟨hin, hsort | hsort⟩ | ⟨hin, hsort⟩ | ⟨hin, hsort⟩
  · by_cases htable : f'.tag.sort = .table
    · exact h.finishTable hnested htable
    · exact h.finishOfText htakes htext hnested htable
  · exact h.finishSection hnested hin hsort
  · exact h.finishCaption hnested hin hsort
  · exact h.finishRow hnested hin hsort
  · exact h.finishCell hnested hin hsort

end Construction

end PageBlocks.Markup
