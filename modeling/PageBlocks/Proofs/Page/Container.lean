import Mathlib.Data.List.Nodup
import PageBlocks.Page.Preparation
import PageBlocks.Proofs.Markup.Scaffold.Ending
import PageBlocks.Proofs.Markup.Scaffold.Trees
import PageBlocks.Proofs.Page.Split

/-!
The content container of a page. However a text is prepared, the page that it says has a single body, which
is a child of the root element, exactly if the page has no frameset. Where a frameset has taken the place of
the body there is none at all, and the search for the container ends at the page itself.
-/
namespace PageBlocks.Markup

open LinkedTree

/-- Elements that take the place of the body. -/
def Element.isFrameset (e : Element) : Bool := e.name == (.html, "frameset")

namespace Document

variable {d : Document} {root : Element} {outer : List Node}

def bodyCount (d : Document) : Nat := (Node.elementsOf d.children).countP (·.1.tag == "body")

def hasFrameset (d : Document) : Bool := (Node.elementsOf d.children).any (·.1.isFrameset)

/-- The root element of a page of HTML. -/
structure IsRoot (d : Document) (root : Element) (outer : List Node) : Prop where
  mem : .element root outer ∈ d.children
  name : root.name = (.html, "html")

/-- The page has a single body, a child of its root element, and this is the container of its contents. Its
header and footer are looked for there. -/
structure HasBody (d : Document) (root body : Element) (outer inner : List Node) : Prop where
  root : d.IsRoot root outer
  mem : .element body inner ∈ outer
  name : body.name = (.html, "body")
  single : d.bodyCount = 1
  contents : d.bodyChildren = inner
  landmarks : (Page.Parts.split d).landmarks ⊆ inner

/-- The page has a frameset in its root element and no body, so all that it holds is taken for its contents. -/
structure HasFrames (d : Document) (root frame : Element) (outer inner : List Node) : Prop where
  root : d.IsRoot root outer
  mem : .element frame inner ∈ outer
  name : frame.isFrameset = true
  bodyless : d.bodyCount = 0
  contents : d.bodyChildren = d.children

theorem landmarks_subset (d : Document) : (Page.Parts.split d).landmarks ⊆ d.bodyChildren :=
  fun _ hn => (Page.split_perm d).symm.subset (List.mem_append_left _ hn)

/-- The search for the only body finds it. -/
theorem bodyChildren_of_single {body : Element} {inner : List Node} (hsingle : d.bodyCount = 1)
    (hmem : (body, inner) ∈ Node.elementsOf d.children) (htag : body.tag = "body") : d.bodyChildren = inner := by
  obtain ⟨only, honly⟩ := List.length_eq_one_iff.mp (List.countP_eq_length_filter.symm.trans hsingle)
  have hbody : (body, inner) ∈ (Node.elementsOf d.children).filter (·.1.tag == "body") :=
    List.mem_filter.mpr ⟨hmem, beq_iff_eq.mpr htag⟩
  have hfind : Node.findIn? "body" d.children = some (body, inner) := by
    rw [Node.findIn?_eq_find?, ← List.head?_filter, honly]
    rw [honly, List.mem_singleton] at hbody
    rw [hbody]
    rfl
  rw [bodyChildren, hfind]

theorem bodyChildren_of_bodyless (h : d.bodyCount = 0) : d.bodyChildren = d.children := by
  have hnone : Node.findIn? "body" d.children = none := by
    rw [Node.findIn?_eq_find?, List.find?_eq_none]
    exact List.countP_eq_zero.mp h
  rw [bodyChildren, hnone]

end Document

/-! ### What the cells say about the page -/

namespace Arena

variable {a : Arena} {ts : List LinkedTree} {root body frame : CellId} {id : CellId}

theorem name?_of_element {space : Space} {tag : Tag} (h : a.sort id = .element space tag) :
    a.name? id = some (space, tag.toString) := by
  rw [name?, h]

theorem exists_of_name? {space : Space} {name : String} (h : a.name? id = some (space, name)) :
    ∃ tag, a.sort id = .element space tag ∧ tag.toString = name := by
  unfold name? at h
  split at h
  · rename_i own tag hsort
    cases h
    exact ⟨tag, hsort, rfl⟩
  · cases h

/-- The bodies of the page are the cells that hold one. -/
theorem bodyCount_eq (h : a.Holds ts) :
    a.toDocument.bodyCount = (idsAll ts).countP fun id => ((a.name? id).map (·.2 == "body")).getD false := by
  have hnames := names_of_nodes h.shown
  rw [← List.countP_filterMap, ← hnames, List.countP_map, h.toDocument]
  rfl

/-- A cell that is counted as a body holds an element of that name. -/
theorem exists_of_body (h : ((a.name? id).map (·.2 == "body")).getD false = true) :
    ∃ space tag, a.sort id = .element space tag ∧ tag.toString = "body" := by
  cases hsort : a.name? id with
  | none => simp [hsort] at h
  | some name =>
    obtain ⟨space, name⟩ := name
    obtain ⟨tag, htag, hown⟩ := exists_of_name? hsort
    exact ⟨space, tag, htag, by simpa [hsort, ← hown] using h⟩

/-- A page has a frameset if and only if a cell of the page holds one. -/
theorem hasFrameset_iff (h : a.Holds ts) :
    a.toDocument.hasFrameset = true ↔ ∃ id ∈ idsAll ts, a.name? id = some (.html, "frameset") := by
  have hnames := names_of_nodes h.shown
  rw [← List.mem_filterMap, ← hnames, h.toDocument, Document.hasFrameset, List.any_eq_true, List.mem_map]
  simp only [Element.isFrameset, beq_iff_eq]

theorem Holds.mem_of_parent? (h : a.Holds ts) {child : CellId} (hid : id ∈ idsAll ts)
    (hchild : a.parent? child = some id) : child ∈ idsAll ts :=
  ShownAll.mem_idsAll_of_mem_children h.shown hid ((h.linked.mem_children_iff id child).mpr hchild)

/-- The root element, and an element in it. -/
theorem Holds.exists_inside (h : a.Holds ts) (hroot : a.sort root = .element .html .html)
    (hpage : a.parent? root = some page) {tag : Tag} (hid : a.sort id = .element .html tag)
    (hparent : a.parent? id = some root) :
    id ∈ idsAll ts ∧ ∃ e outer self inner, a.toDocument.IsRoot e outer ∧ .element self inner ∈ outer ∧
      self.name = (.html, tag.toString) := by
  have hmem : root ∈ ts.map LinkedTree.root := by
    rw [← h.roots]
    exact (h.linked.mem_children_iff page root).mpr hpage
  obtain ⟨attrs, children, helement, hroots, hshown⟩ := exists_element h.shown hmem hroot
  have hchild : id ∈ children.map LinkedTree.root := by
    rw [← hroots]
    exact (h.linked.mem_children_iff root id).mpr hparent
  obtain ⟨own, inner, hinside, -⟩ := exists_element hshown hchild hid
  refine ⟨h.mem_of_parent? ((roots_sublist ts).subset hmem) hparent, ⟨.html, Tag.html.toString, attrs⟩, _,
    ⟨.html, tag.toString, own⟩, _, ⟨?_, rfl⟩, hinside, rfl⟩
  rw [h.toDocument]
  exact helement

end Arena

section

variable {a : Arena} {root body frame : CellId}

/-- Only one cell is counted as a body. -/
theorem ShowsBody.counts_eq (h : ShowsBody a root body) (id : CellId) :
    ((a.name? id).map (·.2 == "body")).getD false = (id == body) := by
  rw [Bool.eq_iff_iff, beq_iff_eq]
  constructor
  · intro hid
    obtain ⟨space, tag, htag, hbodyTag⟩ := Arena.exists_of_body hid
    rcases h.only id (scaffolds_of_body htag hbodyTag) with rfl | rfl
    · rw [h.sort_root] at htag
      cases htag
      exact absurd hbodyTag (by decide)
    · rfl
  · rintro rfl
    rw [Arena.name?_of_element h.sort_body]
    rfl

theorem ShowsBody.hasFrameset_eq (h : ShowsBody a root body) (hsound : a.Sound) :
    a.toDocument.hasFrameset = false := by
  obtain ⟨ts, hholds, -⟩ := hsound.exists_holds
  rw [Bool.eq_false_iff, ne_eq, Arena.hasFrameset_iff hholds]
  rintro ⟨id, -, hid⟩
  obtain ⟨tag, htag, hframe⟩ := Arena.exists_of_name? hid
  have hscaffold : a.scaffolds id = true := by
    rw [scaffolds_of_element htag, Tag.isScaffold, hframe]
    rfl
  rcases h.only id hscaffold with rfl | rfl
  · rw [h.sort_root] at htag
    cases htag
    exact absurd hframe (by decide)
  · rw [h.sort_body] at htag
    cases htag
    exact absurd hframe (by decide)

theorem ShowsBody.hasBody (h : ShowsBody a root body) (hsound : a.Sound) :
    a.toDocument.hasFrameset = false ∧ ∃ e self outer inner, a.toDocument.HasBody e self outer inner := by
  obtain ⟨ts, hholds, -⟩ := hsound.exists_holds
  obtain ⟨hbody, e, outer, self, inner, he, hself, hname⟩ :=
    hholds.exists_inside h.sort_root h.parent_root h.sort_body h.parent_body
  have hsingle : a.toDocument.bodyCount = 1 := by
    rw [Arena.bodyCount_eq hholds, List.countP_congr fun id _ => by rw [h.counts_eq]]
    exact List.count_eq_one_of_mem hholds.nodup hbody
  have hmem : (self, inner) ∈ Node.elementsOf a.toDocument.children :=
    Node.elementsOf_subset (Node.elementsOf_subset_of_mem he.mem List.mem_cons_self)
      (Node.elementsOf_subset_of_mem hself List.mem_cons_self)
  have hcontents := Document.bodyChildren_of_single hsingle hmem (congrArg Prod.snd hname)
  refine ⟨h.hasFrameset_eq hsound, e, self, outer, inner, he, hself, hname, hsingle, hcontents, ?_⟩
  rw [← hcontents]
  exact Document.landmarks_subset _

theorem ShowsFrames.hasFrames (h : ShowsFrames a root frame) (hsound : a.Sound) :
    a.toDocument.hasFrameset = true ∧ ∃ e self outer inner, a.toDocument.HasFrames e self outer inner := by
  obtain ⟨ts, hholds, hparents⟩ := hsound.exists_holds
  obtain ⟨hframe, e, outer, self, inner, he, hself, hname⟩ :=
    hholds.exists_inside h.sort h.parent h.sort_frame h.parent_frame
  have hbodyless : a.toDocument.bodyCount = 0 := by
    rw [Arena.bodyCount_eq hholds, List.countP_eq_zero]
    intro id hid hbody
    obtain ⟨space, tag, htag, hbodyTag⟩ := Arena.exists_of_body hbody
    obtain ⟨parent, hparent⟩ := hparents id hid
    rw [h.bodies id _ tag htag hbodyTag] at hparent
    cases hparent
  refine ⟨(Arena.hasFrameset_iff hholds).mpr ⟨frame, hframe, Arena.name?_of_element h.sort_frame⟩, e, self, outer,
    inner, he, hself, ?_, hbodyless, Document.bodyChildren_of_bodyless hbodyless⟩
  rw [Element.isFrameset, hname]
  rfl

end

/-- A page that has been read has a single body in its root element, which is then the container of its contents,
exactly if no frameset stands in the page. If one does, there is one in the root element instead, and no body that
the search for the container could find. -/
theorem hasBody_read_iff (p : Preparation) (text : String) :
    ((∃ root body outer inner, (p.read text).HasBody root body outer inner) ↔ (p.read text).hasFrameset = false) ∧
      ((∃ root frame outer inner, (p.read text).HasFrames root frame outer inner) ↔
        (p.read text).hasFrameset = true) := by
  have hnot : ∀ {d : Document} {root root' self self' outer outer' inner inner'},
      d.HasBody root self outer inner → ¬d.HasFrames root' self' outer' inner' := by
    intro d root root' self self' outer outer' inner inner' hbody hframes
    exact absurd (hframes.bodyless.symm.trans hbody.single) Nat.zero_ne_one
  obtain ⟨a, hread, hsound, hshows⟩ := Document.exists_ofText (p.prepare text)
  rw [Preparation.read, hread]
  rcases hshows with ⟨root, body, hbody⟩ | ⟨root, frame, hframes⟩
  · obtain ⟨hnone, hhas⟩ := hbody.hasBody hsound
    obtain ⟨_, _, _, _, h⟩ := id hhas
    rw [hnone]
    exact ⟨iff_of_true hhas rfl, iff_of_false (fun ⟨_, _, _, _, h'⟩ => hnot h h') Bool.false_ne_true⟩
  · obtain ⟨hsome, hhas⟩ := hframes.hasFrames hsound
    obtain ⟨_, _, _, _, h⟩ := id hhas
    rw [hsome]
    exact ⟨iff_of_false (fun ⟨_, _, _, _, h'⟩ => hnot h' h) nofun, iff_of_true hhas rfl⟩

/-- A page with a frameset, whose root element bears the role of a banner. -/
def framesetPage : Document := .ofText "<html role=banner><frameset></frameset>"

/-- Where the body should be the page itself is searched, and so the root element is taken for the header. -/
theorem framesetPage_bodyless :
    (¬∃ root body outer inner, framesetPage.HasBody root body outer inner) ∧
      ((Page.Parts.split framesetPage).header.bind Node.element?).map Element.name = some (.html, "html") := by
  refine ⟨?_, by decide +kernel⟩
  rintro ⟨root, body, outer, inner, h⟩
  have hnone : framesetPage.bodyCount = 0 := by decide +kernel
  exact absurd (hnone.symm.trans h.single) Nat.zero_ne_one

end PageBlocks.Markup
