import PageBlocks.Proofs.Block.Origins
import PageBlocks.Proofs.Markup.Marks
import PageBlocks.Proofs.Text.Trim

/-!
What becomes of the images of a tree. The walk makes a block of an image that it comes to, and an
image in an element that is captured or embedded goes with the markup of that element. It does not go
below headings, and the block of a heading keeps the text only. A heading that has no text either makes
no block; nothing is said of the images in it.
-/
namespace PageBlocks

open Markup

/-- The way to the end of one path leads through the end of another one. -/
def Markup.Path.Above (q p : Path) : Prop := q <+: p ∧ q ≠ p

namespace Markup.Element

/-- The image that an element is, if it names a source. -/
def image? (e : Element) : Option ImageRef :=
  if Text.lower e.tag = "img" then
    ((e.get? "src").bind Text.trimmed?).map fun src => ⟨src, e.get? "alt", e.get? "title"⟩
  else none

def isHeading (e : Element) : Bool := (HeadingLevel.ofTag? (Text.lower e.tag)).isSome

/-- HTML gives the element no content. -/
def isContentless (e : Element) : Bool := e.isVoid || Text.lower e.tag == "img"

end Markup.Element

/-- The markup that a block keeps contains a start tag. -/
def Block.Shows (tag : String) : Block ImageRef → Prop
  | .captured _ html =>
    tag.toList <:+: html.inner.toList ∧ tag.toList <:+: html.outer.toList
  | .embed markup => tag.toList <:+: markup.toList
  | _ => False

/-- The image at the end of a path has its own block, or a block that shows its tag has been made of an
element around it. -/
def KeepsImage (found : List Finding) (p : Path) (e : Element) (image : ImageRef) : Prop :=
  (p, .image image) ∈ found ∨ ∃ s ∈ found, s.1.Above p ∧ s.2.Shows e.startTag

/-- One of the elements around the node at the end of a path passes a test, together with the way to it
and its content. The function tells to which node a way leads. -/
def LiesIn (get? : Path → Option Node) (p : Path) (test : Path → Element → List Node → Prop) : Prop :=
  ∃ q e content, q.Above p ∧ get? q = some (.element e content) ∧ test q e content

/-- The element at the end of a path has a heading for its block. -/
def HasHeading (found : List Finding) (q : Path) : Prop :=
  ∃ level text anchor, (q, .heading level text anchor) ∈ found

/-- A heading without text, with no element around it of which a block has been made. -/
def OpenBlankHeading (found : List Finding) (q : Path) (e : Element) (content : List Node) : Prop :=
  e.isHeading = true ∧ Text.isAllBlank (Node.textOf content) = true ∧ ∀ s ∈ found, ¬ s.1.Above q

theorem not_above_nil (q : Path) : ¬ q.Above [] := by
  rintro ⟨hpre, hne⟩
  exact hne (List.prefix_nil.mp hpre)

theorem nil_above_cons (i : Nat) (p : Path) : Path.Above [] (i :: p) :=
  ⟨List.nil_prefix, List.cons_ne_nil i p |>.symm⟩

@[simp]
theorem cons_above_cons {i j : Nat} {q p : Path} :
    Path.Above (i :: q) (j :: p) ↔ i = j ∧ q.Above p := by
  simp only [Path.Above, List.cons_prefix_cons, ne_eq, List.cons.injEq, not_and]
  constructor
  · rintro ⟨⟨rfl, hpre⟩, hne⟩
    exact ⟨rfl, hpre, hne rfl⟩
  · rintro ⟨rfl, hpre, hne⟩
    exact ⟨⟨rfl, hpre⟩, fun _ => hne⟩

theorem Markup.Path.Above.of_pair {i j : Nat} {q : Path} (h : q.Above [i, j]) : q = [] ∨ q = [i] := by
  rcases q with _ | ⟨k, _ | ⟨l, q⟩⟩
  · exact .inl rfl
  · obtain ⟨rfl, -⟩ := cons_above_cons.mp h
    exact .inr rfl
  · obtain ⟨-, hbelow⟩ := cons_above_cons.mp h
    exact absurd (cons_above_cons.mp hbelow).2 (not_above_nil q)

/-! ### Start tags in markup -/

namespace Markup.Node

theorem infix_writeAll_of_mem {n : Node} {ns : List Node} (raw : Bool) (h : n ∈ ns) :
    (n.write raw "").toList <:+: (writeAll raw "" ns).toList := by
  induction ns with
  | nil => cases h
  | cons m ns ih =>
    rw [writeAll, toList_writeAll]
    rcases List.mem_cons.mp h with rfl | h
    · exact (List.prefix_append _ _).isInfix
    · exact (ih h).trans (List.suffix_append _ _).isInfix

theorem startTag_prefix_write (raw : Bool) (e : Element) (children : List Node) :
    e.startTag.toList <+: ((Node.element e children).write raw "").toList := by
  rw [write]
  split
  · rw [String.empty_append]
  · rw [String.toList_append, toList_writeAll, String.empty_append, List.append_assoc]
    exact List.prefix_append _ _

/-- The markup of an element has that of its content, unless the element cannot have any. -/
theorem infix_write_of_child {n : Node} {e : Element} {children : List Node} (raw : Bool)
    (h : n ∈ children) (hvoid : e.isVoid = false) :
    (n.write e.hasRawText "").toList <:+: ((Node.element e children).write raw "").toList := by
  rw [write, if_neg (by rw [hvoid]; exact Bool.false_ne_true), String.toList_append, toList_writeAll,
    List.append_assoc]
  exact ((infix_writeAll_of_mem e.hasRawText h).trans (List.prefix_append _ _).isInfix).trans
    (List.suffix_append _ _).isInfix

/-- The start tag of an element below a node is in the markup of the node, unless the way to it
passes an element that is written without its content. -/
theorem startTag_infix_write {n : Node} {p : Path} {e : Element} {content : List Node} (raw : Bool)
    (h : n.get? p = some (.element e content)) :
    e.startTag.toList <:+: (n.write raw "").toList ∨
      LiesIn n.get? p fun _ a _ => a.isContentless = true := by
  induction p generalizing n raw with
  | nil =>
    cases h
    exact .inl (startTag_prefix_write raw e content).isInfix
  | cons i p ih =>
    cases n with
    | text _ | comment _ | doctype _ => cases h
    | element a children =>
      obtain ⟨child, hchild, hget⟩ := Option.bind_eq_some_iff.mp h
      have hmem : child ∈ children := List.mem_of_getElem? hchild
      cases hvoid : a.isVoid with
      | true =>
        exact .inr ⟨[], a, children, nil_above_cons i p, rfl, by simp [Element.isContentless, hvoid]⟩
      | false =>
        rcases ih a.hasRawText hget with hin | ⟨q, b, ds, habove, hq, hb⟩
        · exact .inl (hin.trans (infix_write_of_child raw hmem hvoid))
        · refine .inr ⟨i :: q, b, ds, cons_above_cons.mpr ⟨rfl, habove⟩, ?_, hb⟩
          exact Option.bind_eq_some_iff.mpr ⟨child, hchild, hq⟩

end Markup.Node

/-! ### Images in the walk -/

variable (stamps : Stamps) {n : Node} {p : Path} {e : Element} {content : List Node}
  {image : ImageRef}

theorem ofElement_of_image? (h : e.image? = some image) (children : List Node) :
    Fate.ofElement e children = .yield (some (.image image)) := by
  unfold Element.image? at h
  split at h
  · next htag =>
    have hrole : Role.ofTag "img" = .image := rfl
    obtain ⟨src, hsrc, rfl⟩ := Option.map_eq_some_iff.mp h
    rw [Fate.ofElement, htag, hrole]
    simp [Fate.imageBlock, hsrc]
  · cases h

/-- A block that keeps the markup of an element shows the tags in it. -/
theorem shows_captureBlock {child : Node} {a : Element} {children : List Node} {kind : CaptureKind}
    (hmem : child ∈ children) (hvoid : a.isVoid = false)
    (hin : ∀ raw, e.startTag.toList <:+: (child.write raw "").toList) :
    (captureBlock stamps kind a children).Shows e.startTag := by
  constructor
  · change e.startTag.toList <:+: (String.join (children.map Node.toMarkup)).toList
    rw [Node.join_toMarkup]
    exact (hin false).trans (Node.infix_writeAll_of_mem false hmem)
  · exact (hin _).trans (Node.infix_write_of_child (e := a.stamp (stamps.of kind)) false hmem hvoid)

/-- An element that is neither captured nor visited is a heading, has no content or is embedded. -/
theorem cases_of_yield {a : Element} {children : List Node} {block : Option (Block ImageRef)}
    (h : Fate.ofElement a children = .yield block) :
    (a.isHeading = true ∧ ∃ level, block = Fate.headingBlock level a children) ∨
      a.isContentless = true ∨ block = some (.embed (Node.element a children).toMarkup) := by
  unfold Fate.ofElement at h
  split at h
  case h_1 level hrole =>
    cases h
    refine .inl ⟨?_, level, rfl⟩
    unfold Element.isHeading
    unfold Role.ofTag at hrole
    split at hrole
    · next hlevel => rw [hlevel]; rfl
    · split at hrole <;> first | cases hrole | (split at hrole <;> cases hrole)
  case h_2 hrole =>
    refine .inr (.inl ?_)
    unfold Role.ofTag at hrole
    split at hrole
    · cases hrole
    · split at hrole
      · next htag => simp [Element.isContentless, htag]
      all_goals first | cases hrole | (split at hrole <;> cases hrole)
  case h_3 => split at h <;> cases h
  case h_5 =>
    cases h
    exact .inr (.inr rfl)
  all_goals cases h

/-- A heading has a block if it has a text. -/
theorem headingBlock_cases (level : HeadingLevel) (a : Element) (children : List Node) :
    (∃ text anchor, Fate.headingBlock level a children = some (.heading level text anchor)) ∨
      Text.isAllBlank (Node.textOf children) = true := by
  rw [Fate.headingBlock, Text.trimmed?_eq]
  cases hblank : Text.isAllBlank (Node.textOf children) with
  | true => exact .inr rfl
  | false => exact .inl ⟨_, _, rfl⟩

/-- What becomes of an image: it is kept, or it lies in a heading, of which only the text counts, or in
an element that should have no content. -/
def Accounted (found : List Finding) (get? : Path → Option Node) (p : Path) (e : Element)
    (image : ImageRef) : Prop :=
  KeepsImage found p e image ∨ (LiesIn get? p fun q _ _ => HasHeading found q) ∨
    LiesIn get? p (OpenBlankHeading found) ∨ LiesIn get? p fun _ a _ => a.isContentless = true

/-- What becomes of an image below a child that is visited becomes of it below the parent. -/
theorem Accounted.of_child {children : List Node} {child : Node} {i : Nat} {inner : Bool}
    {get? : Path → Option Node} (hchild : children[i]? = some child)
    (hget : ∀ q, get? (i :: q) = child.get? q)
    (h : Accounted (child.findings stamps inner) child.get? p e image) :
    Accounted (Node.findingsFrom stamps inner 0 children) get? (i :: p) e image := by
  have hfound : ∀ q b, (q, b) ∈ child.findings stamps inner →
      (i :: q, b) ∈ Node.findingsFrom stamps inner 0 children := by
    intro q b hq
    exact (mem_findingsFrom stamps).mpr ⟨i, child, q, hchild, hq, by rw [Nat.zero_add]⟩
  have hlies : ∀ test test' : Path → Element → List Node → Prop,
      (∀ q a ds, test q a ds → test' (i :: q) a ds) →
        LiesIn child.get? p test → LiesIn get? (i :: p) test' := by
    rintro test test' htest ⟨q, a, ds, habove, hq, ha⟩
    exact ⟨i :: q, a, ds, cons_above_cons.mpr ⟨rfl, habove⟩, (hget q).trans hq, htest q a ds ha⟩
  rcases h with (hown | ⟨⟨q, b⟩, hq, habove, hshows⟩) | hheading | hblank | hempty
  · exact .inl (.inl (hfound p _ hown))
  · exact .inl (.inr ⟨(i :: q, b), hfound q b hq, cons_above_cons.mpr ⟨rfl, habove⟩, hshows⟩)
  · refine .inr (.inl (hlies _ _ ?_ hheading))
    rintro q - - ⟨level, text, anchor, hq⟩
    exact ⟨level, text, anchor, hfound q _ hq⟩
  · refine .inr (.inr (.inl (hlies _ _ ?_ hblank)))
    rintro q a ds ⟨ha, hds, hopen⟩
    refine ⟨ha, hds, ?_⟩
    -- whatever is found around the heading is found below the same child
    intro s hs habove
    obtain ⟨j, m, r, hm, hr, hpath⟩ := (mem_findingsFrom stamps).mp hs
    rw [hpath, Nat.zero_add] at habove
    obtain ⟨rfl, hbelow⟩ := cons_above_cons.mp habove
    rw [hchild] at hm
    cases hm
    exact hopen _ hr hbelow
  · exact .inr (.inr (.inr (hlies _ _ (fun _ _ _ ha => ha) hempty)))

/-- An image inside of an element that is neither captured nor visited. -/
theorem accounted_yield {a : Element} {child : Node} {children : List Node} {i : Nat}
    {block : Option (Block ImageRef)} (hfate : Fate.ofElement a children = .yield block)
    (hcontent : a.isContentless = false) (hmem : child ∈ children)
    (hin : ∀ raw, e.startTag.toList <:+: (child.write raw "").toList) :
    Accounted (block.toList.map fun b => ([], b)) (Node.element a children).get? (i :: p) e image := by
  rcases cases_of_yield hfate with ⟨hheading, level, rfl⟩ | hempty | rfl
  · rcases headingBlock_cases level a children with ⟨text, anchor, htext⟩ | hblank
    · refine .inr (.inl ⟨[], a, children, nil_above_cons i p, rfl, level, text, anchor, ?_⟩)
      rw [htext]
      exact List.mem_singleton_self _
    · exact .inr (.inr (.inl ⟨[], a, children, nil_above_cons i p, rfl, hheading, hblank,
        fun s _ => not_above_nil s.1⟩))
  · rw [hempty] at hcontent
    cases hcontent
  · have hvoid : a.isVoid = false := (Bool.or_eq_false_iff.mp hcontent).1
    refine .inl (.inr ⟨_, List.mem_singleton_self _, nil_above_cons i p, ?_⟩)
    exact (hin _).trans (Node.infix_write_of_child false hmem hvoid)

/-- Over the elements on the way to the image: each of them is visited, or its markup is kept, or it
is a heading or should have no content. -/
theorem accounted_findings {container : Bool} (h : n.get? p = some (.element e content))
    (himage : e.image? = some image) :
    Accounted (n.findings stamps container) n.get? p e image := by
  induction p generalizing n container with
  | nil =>
    cases h
    refine .inl (.inl ?_)
    rw [Node.findings, ofElement_of_image? himage]
    exact List.mem_singleton_self _
  | cons i p ih =>
    by_cases hlies : LiesIn n.get? (i :: p) fun _ a _ => a.isContentless = true
    · exact .inr (.inr (.inr hlies))
    cases n with
    | text _ | comment _ | doctype _ => cases h
    | element a children =>
      obtain ⟨child, hchild, hget⟩ := Option.bind_eq_some_iff.mp h
      have hcontent : a.isContentless = false := by
        rw [Bool.eq_false_iff]
        intro ha
        exact hlies ⟨[], a, children, nil_above_cons i p, rfl, ha⟩
      have hmem : child ∈ children := List.mem_of_getElem? hchild
      have hin : ∀ raw, e.startTag.toList <:+: (child.write raw "").toList := by
        intro raw
        refine (Node.startTag_infix_write raw hget).resolve_right ?_
        rintro ⟨q, b, ds, habove, hq, hb⟩
        exact hlies ⟨i :: q, b, ds, cons_above_cons.mpr ⟨rfl, habove⟩,
          Option.bind_eq_some_iff.mpr ⟨child, hchild, hq⟩, hb⟩
      rw [Node.findings]
      cases hfate : Fate.ofElement a children with
      | capture kind =>
        have hvoid : a.isVoid = false := (Bool.or_eq_false_iff.mp hcontent).1
        exact .inl (.inr ⟨_, List.mem_singleton_self _, nil_above_cons i p,
          shows_captureBlock stamps hmem hvoid hin⟩)
      | visit inner =>
        refine (ih hget).of_child stamps hchild fun q => ?_
        rw [Node.get?, hchild, Option.bind_some]
      | yield block => exact accounted_yield hfate hcontent hmem hin

/-- No image outside of headings is lost. The blocks of a container come from its nodes, in document
order, and each image with a source is one of these nodes or its tag is in the markup that a block
keeps of an element around it; but the image may lie in a heading that has a block of its own, or in an
element that HTML gives no content. Images in a heading without text are left out. -/
theorem images_kept (children : List Node) :
    ∃ found : List Finding, Origins stamps children found ∧
      ∀ p e content image, Node.getIn? children p = some (.element e content) →
        e.image? = some image → ¬ LiesIn (Node.getIn? children) p (OpenBlankHeading found) →
          KeepsImage found p e image ∨
            (LiesIn (Node.getIn? children) p fun q _ _ => HasHeading found q) ∨
              LiesIn (Node.getIn? children) p fun _ a _ => a.isContentless = true := by
  refine ⟨Node.findingsFrom stamps true 0 children, origins_findingsFrom stamps children, ?_⟩
  intro p e content image h himage hblank
  cases p with
  | nil => cases h
  | cons i p =>
    obtain ⟨child, hchild, hget⟩ := Option.bind_eq_some_iff.mp h
    have haccounted : Accounted (Node.findingsFrom stamps true 0 children) (Node.getIn? children)
        (i :: p) e image := by
      refine (accounted_findings stamps hget himage).of_child stamps hchild fun q => ?_
      rw [Node.getIn?, hchild, Option.bind_some]
    rcases haccounted with hkept | hheading | hopen | hempty
    · exact .inl hkept
    · exact .inr (.inl hheading)
    · exact absurd hopen hblank
    · exact .inr (.inr hempty)

theorem exists_of_image? {n? : Option Node} (h : (n?.bind Node.element?).bind Element.image? = some image) :
    ∃ e content, n? = some (.element e content) ∧ e.image? = some image := by
  obtain ⟨e, he, himage⟩ := Option.bind_eq_some_iff.mp h
  obtain ⟨n, rfl, hself⟩ := Option.bind_eq_some_iff.mp he
  cases n with
  | element self content =>
    cases hself
    exact ⟨e, content, rfl, himage⟩
  | text _ | comment _ | doctype _ => cases hself

/-- A paragraph with an image alone. -/
def portraitPage : Document := .ofText "<p><img src=\"a.png\"></p>"

theorem portraitPage_keeps_image :
    ∃ found : List Finding, Origins (.ofLead "pb") portraitPage.bodyChildren found ∧
      ∃ p e content, Node.getIn? portraitPage.bodyChildren p = some (.element e content) ∧
        e.image? = some ⟨"a.png", none, none⟩ ∧
          ¬ LiesIn (Node.getIn? portraitPage.bodyChildren) p (OpenBlankHeading found) ∧
            KeepsImage found p e ⟨"a.png", none, none⟩ := by
  obtain ⟨found, horigins, hkept⟩ := images_kept (.ofLead "pb") portraitPage.bodyChildren
  have hbind : ((Node.getIn? portraitPage.bodyChildren [0, 0]).bind Node.element?).bind Element.image? =
      some ⟨"a.png", none, none⟩ := by decide +kernel
  obtain ⟨e, content, hget, himage⟩ := exists_of_image? hbind
  -- the paragraph is the only element around the image
  have hparagraph : ((Node.getIn? portraitPage.bodyChildren [0]).bind Node.element?).map
      (fun a => (a.isHeading, a.isContentless)) = some (false, false) := by decide +kernel
  have haround : ∀ q a ds, q.Above [0, 0] →
      Node.getIn? portraitPage.bodyChildren q = some (.element a ds) →
        a.isHeading = false ∧ a.isContentless = false := by
    intro q a ds habove hq
    rcases habove.of_pair with rfl | rfl
    · rw [Node.getIn?] at hq
      cases hq
    · rw [hq] at hparagraph
      exact Prod.mk.inj (Option.some_inj.mp hparagraph)
  have hblank : ¬ LiesIn (Node.getIn? portraitPage.bodyChildren) [0, 0] (OpenBlankHeading found) := by
    rintro ⟨q, a, ds, habove, hq, hheading, -⟩
    rw [(haround q a ds habove hq).1] at hheading
    cases hheading
  refine ⟨found, horigins, [0, 0], e, content, hget, himage, hblank, ?_⟩
  rcases hkept _ e content _ hget himage hblank with h | ⟨q, a, ds, -, -, level, text, anchor, hmem⟩ |
    ⟨q, a, ds, habove, hq, hempty⟩
  · exact h
  · have hblocks : found.map (·.2) = [.image ⟨"a.png", none, none⟩] := by
      rw [horigins.blocks]
      decide +kernel
    have himage := List.mem_map_of_mem (f := (·.2)) hmem
    rw [hblocks] at himage
    cases List.mem_singleton.mp himage
  · rw [(haround q a ds habove hq).2] at hempty
    cases hempty

/-- A heading with an image beside its text. -/
def newsPage : Document := .ofText "<h2>News <img src=\"a.png\"></h2>"

/-- The heading is all that the page yields. -/
theorem newsPage_loses_image :
    ¬ ∃ found : List Finding, Origins (.ofLead "pb") newsPage.bodyChildren found ∧
      ∀ p e content image, Node.getIn? newsPage.bodyChildren p = some (.element e content) →
        e.image? = some image → KeepsImage found p e image := by
  rintro ⟨found, horigins, hkept⟩
  have hblocks : found.map (·.2) = [.heading ⟨2, by decide, by decide⟩ "News" none] := by
    rw [horigins.blocks]
    decide +kernel
  have hheading : ∀ s ∈ found, s.2 = .heading ⟨2, by decide, by decide⟩ "News" none := by
    intro s hs
    have hmem := List.mem_map_of_mem (f := (·.2)) hs
    rw [hblocks] at hmem
    exact List.mem_singleton.mp hmem
  have hbind : ((Node.getIn? newsPage.bodyChildren [0, 1]).bind Node.element?).bind Element.image? =
      some ⟨"a.png", none, none⟩ := by decide +kernel
  obtain ⟨e, content, hget, himage⟩ := exists_of_image? hbind
  rcases hkept _ e content _ hget himage with hown | ⟨s, hs, -, hshows⟩
  · cases hheading _ hown
  · rw [hheading s hs] at hshows
    exact hshows

end PageBlocks
