import PageBlocks.Block.Walk
import PageBlocks.Proofs.Text.Trim

/-!
The blocks of a tree by recursion. Each kind of node is described by itself, with the blocks of its
children where they count; no stack of pending nodes occurs. The walk finds the same blocks, whatever
nodes are pending and whether each of them stands in a container.
-/
namespace PageBlocks

open Markup

mutual

/-- The blocks that a node yields, inside a container or outside of all. -/
def Markup.Node.yields (stamps : Stamps) (container : Bool) : Node → List (Block ImageRef)
  | .text value =>
    if container && !Text.isAllBlank value then [.plainText (Text.trim value)] else []
  | .element e children =>
    match Role.ofTag (Text.lower e.tag) with
    | .heading level =>
      if Text.isAllBlank (Node.textOf children) then []
      else [.heading level (Text.trim (Node.textOf children)) ((e.get? "id").bind Text.trimmed?)]
    | .image =>
      match e.get? "src" with
      | some src =>
        if Text.isAllBlank src then []
        else [.image ⟨Text.trim src, e.get? "alt", e.get? "title"⟩]
      | none => []
    | .capture .paragraph =>
      if Text.isAllBlank (Node.textOf children) then yieldsAll stamps false children
      else [captureBlock stamps .paragraph e children]
    | .capture kind => [captureBlock stamps kind e children]
    | .embed => [.embed (Node.element e children).toMarkup]
    | .group => yieldsAll stamps true children
    | .unrecognized => yieldsAll stamps false children
  | .comment _ => []
  | .doctype _ => []

/-- The blocks that the nodes of a list yield, one after the other. -/
def Markup.Node.yieldsAll (stamps : Stamps) (container : Bool) :
    List Node → List (Block ImageRef)
  | [] => []
  | n :: rest => n.yields stamps container ++ yieldsAll stamps container rest

end

/-- What an element yields in view of its fate. -/
def Fate.yields (stamps : Stamps) (e : Element) (children : List Node) :
    Fate → List (Block ImageRef)
  | .yield block => block.toList
  | .capture kind => [captureBlock stamps kind e children]
  | .visit container => Node.yieldsAll stamps container children

theorem yieldsAll_eq_flatMap (stamps : Stamps) (container : Bool) (ns : List Node) :
    Node.yieldsAll stamps container ns = ns.flatMap (Node.yields stamps container) := by
  induction ns with
  | nil => rfl
  | cons n ns ih => rw [Node.yieldsAll, List.flatMap_cons, ih]

theorem textBlock_toList (stamps : Stamps) (container : Bool) (value : String) :
    (textBlock container value).toList = (Node.text value).yields stamps container := by
  unfold textBlock Node.yields
  rw [Text.trimmed?_eq]
  cases container <;> cases Text.isAllBlank value <;> rfl

theorem headingBlock_toList (level : HeadingLevel) (e : Element) (children : List Node) :
    (Fate.headingBlock level e children).toList =
      if Text.isAllBlank (Node.textOf children) then []
      else [.heading level (Text.trim (Node.textOf children))
        ((e.get? "id").bind Text.trimmed?)] := by
  unfold Fate.headingBlock
  rw [Text.trimmed?_eq]
  cases Text.isAllBlank (Node.textOf children) <;> rfl

/-- The fate of an element says what it yields, in a container or not. -/
theorem yields_element (stamps : Stamps) (container : Bool) (e : Element) (children : List Node) :
    (Node.element e children).yields stamps container =
      (Fate.ofElement e children).yields stamps e children := by
  unfold Fate.ofElement Node.yields
  cases Role.ofTag (Text.lower e.tag) with
  | heading level => exact (headingBlock_toList level e children).symm
  | image =>
    simp only [Fate.yields, Fate.imageBlock]
    cases e.get? "src" with
    | none => rfl
    | some src =>
      simp only [Option.bind_some, Text.trimmed?_eq]
      cases Text.isAllBlank src <;> rfl
  | capture kind =>
    cases kind with
    | paragraph =>
      dsimp only
      cases Text.isAllBlank (Node.textOf children) <;> rfl
    | list ordered => rfl
    | table => rfl
    | blockquote => rfl
  | embed => rfl
  | group => rfl
  | unrecognized => rfl

/-! ### Blocks without markup -/

/-- A block that has nothing of the markup of the page. -/
def Block.isBare {ι : Type} : Block ι → Bool
  | .captured .. | .embed _ => false
  | _ => true

section

variable {stamps : Stamps} {container : Bool} {b : Block ImageRef}

theorem isBare_of_text {value : String} (hb : b ∈ (Node.text value).yields stamps container) :
    b.isBare = true := by
  rw [Node.yields] at hb
  split at hb
  · rw [List.mem_singleton.mp hb]
    rfl
  · cases hb

variable {e : Element} {children : List Node}

theorem isBare_of_heading {level : HeadingLevel} (h : Role.ofTag (Text.lower e.tag) = .heading level)
    (hb : b ∈ (Node.element e children).yields stamps container) : b.isBare = true := by
  simp only [Node.yields, h] at hb
  split at hb
  · cases hb
  · rw [List.mem_singleton.mp hb]
    rfl

theorem isBare_of_image (h : Role.ofTag (Text.lower e.tag) = .image)
    (hb : b ∈ (Node.element e children).yields stamps container) : b.isBare = true := by
  simp only [Node.yields, h] at hb
  split at hb
  · split at hb
    · cases hb
    · rw [List.mem_singleton.mp hb]
      rfl
  · cases hb

end

namespace Pending

/-- What pending nodes yield, the first to be visited first. -/
def yields (stamps : Stamps) (p : Pending) : List (Block ImageRef) :=
  p.flatMap fun entry => entry.2.yields stamps entry.1

theorem yields_cons (stamps : Stamps) (container : Bool) (n : Node) (p : Pending) :
    yields stamps ((container, n) :: p) = n.yields stamps container ++ yields stamps p :=
  List.flatMap_cons ..

theorem yields_push (stamps : Stamps) (container : Bool) (ns : List Node) (p : Pending) :
    (push container ns p).yields stamps =
      Node.yieldsAll stamps container ns ++ p.yields stamps := by
  rw [yields, push, List.flatMap_append, List.flatMap_map, yieldsAll_eq_flatMap]
  rfl

end Pending

/-- Loop invariant of the walk: what was found, then what the pending nodes yield. -/
theorem blocksFrom_eq (stamps : Stamps) (found : List (Block ImageRef)) (p : Pending) :
    blocksFrom stamps found p = found.reverse ++ p.yields stamps := by
  fun_induction blocksFrom stamps found p with
  | case1 found => simp [Pending.yields]
  | case2 found container value p ih =>
    rw [ih, Pending.yields_cons, ← textBlock_toList, ← List.append_assoc]
    cases textBlock container value <;> simp
  | case3 found container e children p block hfate ih =>
    rw [ih, Pending.yields_cons, yields_element, hfate, Fate.yields, ← List.append_assoc]
    cases block <;> simp
  | case4 found container e children p kind hfate ih =>
    rw [ih, Pending.yields_cons, yields_element, hfate, Fate.yields]
    simp
  | case5 found outer e children p container hfate ih =>
    rw [ih, Pending.yields_push, Pending.yields_cons, yields_element, hfate, Fate.yields]
  | case6 found container value p ih => rw [ih, Pending.yields_cons, Node.yields, List.nil_append]
  | case7 found container name p ih => rw [ih, Pending.yields_cons, Node.yields, List.nil_append]

/-- The walk over the children of a container finds what they yield by recursion. -/
theorem blocksIn_eq (stamps : Stamps) (children : List Node) :
    blocksIn stamps children = Node.yieldsAll stamps true children := by
  rw [blocksIn, blocksFrom_eq, Pending.yields_push]
  simp [Pending.yields]

end PageBlocks
