import PageBlocks.Proofs.Markup.Scaffold.Growth

/-!
What a page shows of the scaffold that it is built around. First there is nothing, then the root element,
then the body or a frameset inside it. A frameset can replace the body, which stands nowhere then. What
grows around the scaffold leaves it as it is.
-/
namespace PageBlocks.Markup

/-- The page has its root element, and nothing else of the scaffold. -/
structure ShowsRoot (a : Arena) (root : CellId) : Prop where
  sort : a.sort root = .element .html .html
  parent : a.parent? root = some Arena.page
  only : ∀ id, a.scaffolds id = true → id = root

/-- The page has its body inside its root element, and nothing else of the scaffold. -/
structure ShowsBody (a : Arena) (root body : CellId) : Prop where
  sort_root : a.sort root = .element .html .html
  parent_root : a.parent? root = some Arena.page
  sort_body : a.sort body = .element .html .body
  parent_body : a.parent? body = some root
  only : ∀ id, a.scaffolds id = true → id = root ∨ id = body

/-- The page has its root element, and what would be taken for a body stands nowhere. -/
structure ShowsNoBody (a : Arena) (root : CellId) : Prop where
  sort : a.sort root = .element .html .html
  parent : a.parent? root = some Arena.page
  bodies : ∀ id space tag, a.sort id = .element space tag → tag.toString = "body" → a.parent? id = none

/-- Instead of a body the page has a frameset inside its root element. -/
structure ShowsFrames (a : Arena) (root frame : CellId) : Prop extends ShowsNoBody a root where
  sort_frame : a.sort frame = .element .html .frameset
  parent_frame : a.parent? frame = some root

section

variable {a b : Arena} {root body frame : CellId}

theorem scaffolds_of_element {id : CellId} {tag : Tag} (h : a.sort id = .element .html tag) :
    a.scaffolds id = tag.isScaffold := by
  rw [Arena.scaffolds, h]
  rfl

/-- What would be taken for a body belongs to the scaffold. -/
theorem scaffolds_of_body {id : CellId} {space : Space} {tag : Tag} (h : a.sort id = .element space tag)
    (hbody : tag.toString = "body") : a.scaffolds id = true := by
  rw [Arena.scaffolds, h]
  cases space
  · rw [CellSort.isScaffold, Tag.isScaffold, hbody]
    rfl
  · exact beq_iff_eq.mpr hbody
  · exact beq_iff_eq.mpr hbody

/-! ### Growing around it -/

theorem ShowsRoot.grown (h : ShowsRoot a root) (hgrown : a.Extends b) : ShowsRoot b root where
  sort := hgrown.element h.sort
  parent := (hgrown.parent root (scaffolds_of_element h.sort)).trans h.parent
  only id hid := h.only id ((hgrown.scaffolds_iff id).mp hid)

theorem ShowsBody.grown (h : ShowsBody a root body) (hgrown : a.Extends b) : ShowsBody b root body where
  sort_root := hgrown.element h.sort_root
  parent_root := (hgrown.parent root (scaffolds_of_element h.sort_root)).trans h.parent_root
  sort_body := hgrown.element h.sort_body
  parent_body := (hgrown.parent body (scaffolds_of_element h.sort_body)).trans h.parent_body
  only id hid := h.only id ((hgrown.scaffolds_iff id).mp hid)

theorem ShowsNoBody.grown (h : ShowsNoBody a root) (hgrown : a.Extends b) : ShowsNoBody b root where
  sort := hgrown.element h.sort
  parent := (hgrown.parent root (scaffolds_of_element h.sort)).trans h.parent
  bodies := by
    intro id space tag hid hbody
    have hold := (hgrown.scaffolds_iff id).mp (scaffolds_of_body hid hbody)
    rw [hgrown.sort id (Arena.lt_size_of_scaffolds hold)] at hid
    exact (hgrown.parent id hold).trans (h.bodies id space tag hid hbody)

theorem ShowsFrames.grown (h : ShowsFrames a root frame) (hgrown : a.Extends b) : ShowsFrames b root frame where
  toShowsNoBody := h.toShowsNoBody.grown hgrown
  sort_frame := hgrown.element h.sort_frame
  parent_frame := (hgrown.parent frame (scaffolds_of_element h.sort_frame)).trans h.parent_frame

/-! ### Putting more of it up -/

variable {parent id : CellId}

theorem ShowsRoot.of_inserted (hnone : ∀ id, a.scaffolds id = false) (h : a.Inserted Arena.page .html b id) :
    ShowsRoot b id := by
  refine ⟨h.sort, by rw [h.parent, if_pos rfl], fun other hother => ?_⟩
  by_contra hne
  by_cases hlt : other < a.cells.size
  · rw [Arena.scaffolds, h.old other hlt, ← Arena.scaffolds, hnone] at hother
    cases hother
  · rw [Arena.scaffolds, h.others other (Nat.le_of_not_lt hlt) hne] at hother
    cases hother

/-- The body is put into the root element. -/
theorem ShowsRoot.withBody (h : ShowsRoot a root) (hnew : a.Inserted root .body b id) : ShowsBody b root id where
  sort_root := hnew.element h.sort
  parent_root := (hnew.parent_old (Arena.lt_size_of_element h.sort)).trans h.parent
  sort_body := hnew.sort
  parent_body := by rw [hnew.parent, if_pos rfl]
  only := by
    intro other hother
    by_cases hlt : other < a.cells.size
    · rw [Arena.scaffolds, hnew.old other hlt] at hother
      exact .inl (h.only other hother)
    · by_contra hnot
      rw [Arena.scaffolds, hnew.others other (Nat.le_of_not_lt hlt) fun heq => hnot (.inr heq)] at hother
      cases hother

theorem ShowsRoot.showsNoBody (h : ShowsRoot a root) : ShowsNoBody a root where
  sort := h.sort
  parent := h.parent
  bodies := by
    intro id space tag hid hbody
    obtain rfl := h.only id (scaffolds_of_body hid hbody)
    rw [h.sort] at hid
    cases hid
    exact absurd hbody (by decide)

/-- The body can be taken away. -/
theorem ShowsBody.detach (h : ShowsBody a root body) (ha : a.Sound) : ShowsNoBody (a.detach body) root := by
  have hrelinks := ha.linked.relinks_detach body
  have hne : root ≠ body := by
    rintro rfl
    have hsort := h.sort_root
    rw [h.sort_body] at hsort
    cases hsort
  refine ⟨(hrelinks.sort_eq root).trans h.sort_root, ?_, fun id space tag hid hbody => ?_⟩
  · rw [ha.linked.parent?_detach, if_neg hne]
    exact h.parent_root
  · rw [hrelinks.sort_eq] at hid
    rcases h.only id (scaffolds_of_body hid hbody) with rfl | rfl
    · rw [h.sort_root] at hid
      cases hid
      exact absurd hbody (by decide)
    · exact ha.linked.parent?_detach_self id

theorem ShowsNoBody.inserted (h : ShowsNoBody a root) (hnew : a.Inserted parent .frameset b id) :
    ShowsNoBody b root where
  sort := hnew.element h.sort
  parent := (hnew.parent_old (Arena.lt_size_of_element h.sort)).trans h.parent
  bodies := by
    intro other space tag hother hbody
    rcases hnew.of_element hother with rfl | ⟨hlt, hold⟩
    · rw [hnew.sort] at hother
      cases hother
      exact absurd hbody (by decide)
    · exact (hnew.parent_old hlt).trans (h.bodies other space tag hold hbody)

/-- A frameset is put into the root element. -/
theorem ShowsNoBody.frames (h : ShowsNoBody a root) (hnew : a.Inserted root .frameset b id) :
    ShowsFrames b root id where
  toShowsNoBody := h.inserted hnew
  sort_frame := hnew.sort
  parent_frame := by rw [hnew.parent, if_pos rfl]

theorem ShowsFrames.inserted (h : ShowsFrames a root frame) (hnew : a.Inserted parent .frameset b id) :
    ShowsFrames b root frame where
  toShowsNoBody := h.toShowsNoBody.inserted hnew
  sort_frame := hnew.element h.sort_frame
  parent_frame := (hnew.parent_old (Arena.lt_size_of_element h.sort_frame)).trans h.parent_frame

end

/-- Elements that can be open in a page of framesets. -/
def Tag.isFramework (tag : Tag) : Bool := tag == .html || tag == .frameset || tag.isReopened

namespace Construction

variable {c : Construction} {e : OpenElement} {rest : List OpenElement}

/-- Elements that are not templates hold their children themselves. -/
theorem contentsOf_eq (h : c.arena.Sound) (he : c.arena.sort e.id = .element .html e.tag)
    (htag : e.tag ≠ .template) : c.contentsOf e = e.id := by
  rw [contentsOf]
  cases hcontents : c.arena.contents? e.id with
  | none => rfl
  | some inner =>
    have htemplate := (h.contents _ _ hcontents).2.2
    rw [he] at htemplate
    injection htemplate with _ heq
    exact absurd heq htag

/-- Inside an element that belongs neither to a table nor is a template, what is opened stands behind its
last child. -/
theorem inserted_openElement (h : c.arena.Sound) (hopens : c.opens = e :: rest)
    (he : c.arena.sort e.id = .element .html e.tag) (htag : e.tag.isTablePart = false)
    (htemplate : e.tag ≠ .template) (tag : Tag) (attrs : Attributes) :
    ∃ a id, (c.openElement .html tag attrs).1 =
        { c with arena := a, opens := ⟨id, .html, tag⟩ :: c.opens } ∧ c.arena.Inserted e.id tag a id := by
  have hadded := h.addElement .html tag attrs
  have hplace : { c with arena := (c.arena.addElement .html tag attrs).1 }.place = .lastChild e.id := by
    have hhas : e.has Tag.isTablePart = false := by rw [OpenElement.has, htag, Bool.and_false]
    rw [place]
    dsimp only
    rw [hopens]
    dsimp only
    rw [placeIn, hhas, Bool.and_false, if_neg Bool.false_ne_true, contentsOf_eq hadded.sound _ htemplate]
    exact (hadded.old _ (Arena.lt_size_of_element he)).trans he
  refine ⟨_, _, ?_, h.inserted (Arena.isPlace_of_element he) tag attrs⟩
  unfold openElement putElement putHere
  dsimp only
  rw [hplace]
  rfl

end Construction

end PageBlocks.Markup
