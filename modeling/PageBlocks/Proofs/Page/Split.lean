import PageBlocks.Markup.Parser
import PageBlocks.Page.Landmarks
import PageBlocks.Proofs.Block.Recursion
import PageBlocks.Proofs.Markup.Body
import Mathlib.Data.List.Basic
import Mathlib.Data.List.TakeDrop

/-!
A page with and without its header and footer. To take a landmark out of the body is to move it in
front of the rest, so the parts of a page hold what the page holds. A landmark that dissolves, such as
a `header` or a `div`, yields the same by itself and as a container. Any other one, such as a list with
the role of a banner, is a block of its own in the body but is opened when it is taken out.
-/
namespace PageBlocks.Page

open Markup

/-! ### Taking a node out of a list -/

theorem takeFirst?_eq_some {p : Node → Bool} {ns rest : List Node} {n : Node}
    (h : takeFirst? p ns = some (n, rest)) :
    ∃ before after, ns = before ++ n :: after ∧ rest = before ++ after := by
  unfold takeFirst? at h
  split at h
  · rename_i before m after hspan
    obtain ⟨rfl, rfl⟩ := Prod.mk.inj (Option.some.inj h)
    refine ⟨before, after, ?_, rfl⟩
    rw [List.span_eq_takeWhile_dropWhile] at hspan
    obtain ⟨hbefore, hafter⟩ := Prod.mk.inj hspan
    rw [← hbefore, ← hafter, List.takeWhile_append_dropWhile]
  · cases h

/-- A list without one of its members makes up no element. -/
theorem findIn?_eq_none_of_removed {tag : String} {before after : List Node} {n : Node}
    (h : Node.findIn? tag (before ++ n :: after) = none) :
    Node.findIn? tag (before ++ after) = none := by
  induction before with
  | nil =>
    rw [List.nil_append, Node.findIn?] at h
    split at h
    · cases h
    · exact h
  | cons m before ih =>
    rw [List.cons_append, Node.findIn?] at h ⊢
    split at h
    · cases h
    · exact ih h

/-! ### The parts of a page -/

/-- What is taken out and what is left are together what was there. -/
theorem takeLandmark_perm (l : Landmark) (d : Document) :
    d.bodyChildren.Perm ((takeLandmark l d).1.toList ++ (takeLandmark l d).2.bodyChildren) := by
  unfold takeLandmark
  split
  · rename_i n rest htake
    obtain ⟨before, after, hns, rfl⟩ := takeFirst?_eq_some htake
    have hrest : (d.modifyBody fun _ => before ++ after).bodyChildren = before ++ after := by
      apply Document.bodyChildren_modifyBody
      intro hnone
      have hbody : d.bodyChildren = d.children := by
        rw [Document.bodyChildren, hnone]
      rw [hbody] at hns
      rw [hns] at hnone
      exact findIn?_eq_none_of_removed hnone
    rw [hrest, hns]
    exact List.perm_middle
  · exact List.Perm.refl _

/-- The landmarks that are taken out. -/
def Parts.landmarks (p : Parts) : List Node := p.header.toList ++ p.footer.toList

/-- The blocks of all parts: those of the header, of the body and of the footer. -/
def Parts.blocks (stamps : Stamps) (p : Parts) : List (Block ImageRef) :=
  (p.headerBlocks stamps).getD [] ++ p.bodyBlocks stamps ++ (p.footerBlocks stamps).getD []

theorem split_perm (d : Document) :
    d.bodyChildren.Perm ((Parts.split d).landmarks ++ (Parts.split d).body.bodyChildren) := by
  have hheader := takeLandmark_perm .header d
  have hfooter := takeLandmark_perm .footer (takeLandmark .header d).2
  rw [Parts.landmarks, List.append_assoc]
  exact hheader.trans (hfooter.append_left _)

/-- The blocks of a page in one piece are those of its landmarks, as they stand in the body, and those
of the rest. -/
theorem blocks_perm (stamps : Stamps) (d : Document) :
    (d.blocks stamps).Perm
      ((Parts.split d).landmarks.flatMap (Node.yields stamps true) ++
        (Parts.split d).bodyBlocks stamps) := by
  have hperm := (split_perm d).flatMap_right (Node.yields stamps true)
  rw [List.flatMap_append] at hperm
  rw [Document.blocks, blocksIn_eq, yieldsAll_eq_flatMap, Parts.bodyBlocks, Document.blocks,
    blocksIn_eq, yieldsAll_eq_flatMap]
  exact hperm

/-- The blocks of the parts are those of the landmarks, opened as containers, and those of the rest. -/
theorem partsBlocks_perm (stamps : Stamps) (p : Parts) :
    (p.blocks stamps).Perm
      ((p.landmarks.flatMap fun n => blocksIn stamps n.children) ++ p.bodyBlocks stamps) := by
  obtain ⟨body, header, footer⟩ := p
  have hopen : ∀ n : Option Node, (n.map fun n => blocksIn stamps n.children).getD [] =
      n.toList.flatMap fun n => blocksIn stamps n.children := by
    intro n
    cases n <;> simp
  simp only [Parts.blocks, Parts.headerBlocks, Parts.footerBlocks, Parts.landmarks, hopen,
    List.flatMap_append, List.append_assoc]
  exact List.perm_append_comm.append_left _

/-! ### Landmarks that dissolve -/

/-- A text that is not blank, which counts as a block inside a container. -/
def isLooseText : Node → Bool
  | .text value => !Text.isAllBlank value
  | _ => false

/-- An element that yields nothing but what its children yield: a wrapper, or an element that is
opened and has no text that stands by itself. -/
def dissolves : Node → Bool
  | .element e children =>
    match Fate.ofElement e children with
    | .visit container => container || !children.any isLooseText
    | _ => false
  | _ => false

/-- Without text that stands by itself it does not matter whether the nodes are in a container. -/
theorem yieldsAll_of_no_looseText (stamps : Stamps) {ns : List Node}
    (h : ∀ n ∈ ns, isLooseText n = false) :
    Node.yieldsAll stamps true ns = Node.yieldsAll stamps false ns := by
  rw [yieldsAll_eq_flatMap, yieldsAll_eq_flatMap]
  apply List.flatMap_congr
  intro n hn
  cases n with
  | text value =>
    have hblank : Text.isAllBlank value = true := by simpa [isLooseText] using h _ hn
    simp [Node.yields, hblank]
  | element e children => rw [yields_element, yields_element]
  | comment value => rfl
  | doctype name => rfl

theorem blocksIn_of_dissolves (stamps : Stamps) {n : Node} (h : dissolves n = true) :
    blocksIn stamps n.children = n.yields stamps true := by
  cases n with
  | element e children =>
    simp only [dissolves] at h
    split at h
    · rename_i container hfate
      rw [blocksIn_eq, yields_element, hfate, Node.children]
      cases container with
      | true => rfl
      | false =>
        apply yieldsAll_of_no_looseText
        simpa using h
    · cases h
  | text value => cases h
  | comment value => cases h
  | doctype name => cases h

/-- Splitting a page loses, adds and changes blocks exactly if opening its landmarks does. It does not
where each landmark dissolves, as `header`, `footer`, `div` and the other wrappers do. -/
theorem split_blocks_perm_iff (stamps : Stamps) (d : Document) :
    ((Parts.blocks stamps (.of true d)).Perm (Parts.blocks stamps (.of false d)) ↔
      ((Parts.split d).landmarks.flatMap fun n => blocksIn stamps n.children).Perm
        ((Parts.split d).landmarks.flatMap (Node.yields stamps true))) ∧
    ((∀ n ∈ (Parts.split d).landmarks, dissolves n = true) →
      (Parts.blocks stamps (.of true d)).Perm (Parts.blocks stamps (.of false d))) := by
  have hsplit := partsBlocks_perm stamps (Parts.split d)
  have hwhole : (Parts.blocks stamps (.of false d)).Perm
      ((Parts.split d).landmarks.flatMap (Node.yields stamps true) ++
        (Parts.split d).bodyBlocks stamps) := by
    have hblocks : Parts.blocks stamps (.of false d) = d.blocks stamps := by
      simp [Parts.blocks, Parts.of, Parts.whole, Parts.headerBlocks, Parts.footerBlocks,
        Parts.bodyBlocks]
    rw [hblocks]
    exact blocks_perm stamps d
  have hiff : (Parts.blocks stamps (.of true d)).Perm (Parts.blocks stamps (.of false d)) ↔
      ((Parts.split d).landmarks.flatMap fun n => blocksIn stamps n.children).Perm
        ((Parts.split d).landmarks.flatMap (Node.yields stamps true)) := by
    rw [Parts.of, if_pos rfl]
    constructor
    · intro h
      exact (List.perm_append_right_iff _).mp (hsplit.symm.trans (h.trans hwhole))
    · intro h
      exact hsplit.trans ((h.append_right _).trans hwhole.symm)
  refine ⟨hiff, fun hdissolve => hiff.mpr ?_⟩
  rw [List.flatMap_congr fun n hn => blocksIn_of_dissolves stamps (hdissolve n hn)]

/-- A page with a list that has the role of a banner, and a paragraph. -/
def listBannerPage : Document := .ofText "<ul role=\"banner\"><li>Home</li></ul><p>x</p>"

/-- The list is lost when it is taken out as the header. -/
theorem split_loses_list :
    ¬ (Parts.blocks (.ofLead "pb") (.of true listBannerPage)).Perm
      (Parts.blocks (.ofLead "pb") (.of false listBannerPage)) := by
  intro hperm
  have hlength := hperm.length_eq
  revert hlength
  decide +kernel

/-- A page with a `header` and a `div` that has the role of the footer. -/
def framedPage : Document :=
  .ofText "<header>Site<h1>Title</h1></header><p>x<div role=' ContentInfo'><ul><li>Legal</ul></div>"

theorem split_framedPage :
    (∀ n ∈ (Parts.split framedPage).landmarks, dissolves n = true) ∧
    (Parts.split framedPage).landmarks.length = 2 ∧
    (Parts.blocks (.ofLead "pb") (.of true framedPage)).Perm
      (Parts.blocks (.ofLead "pb") (.of false framedPage)) := by
  have hdissolve : ∀ n ∈ (Parts.split framedPage).landmarks, dissolves n = true := by
    decide +kernel
  exact ⟨hdissolve, by decide +kernel, (split_blocks_perm_iff _ framedPage).2 hdissolve⟩

end PageBlocks.Page
