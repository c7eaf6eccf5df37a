import PageBlocks.Proofs.Block.Path
import PageBlocks.Proofs.Block.Recursion

/-!
Where the blocks of a tree come from. Each block takes the place of one node, and in the order of the
blocks these nodes stand one after the other in the tree. In document order a path comes before those
that continue it; where two paths part, the one to the earlier child comes first.
-/
namespace PageBlocks

open Markup

/-- A block with the way down to the node whose place it takes. -/
abbrev Finding := Path × Block ImageRef

/-- The block that takes the place of a node, if the node is visited and stands in a container. -/
def Markup.Node.block? (stamps : Stamps) : Node → Option (Block ImageRef)
  | .text value => textBlock true value
  | .element e children =>
    match Fate.ofElement e children with
    | .yield block => block
    | .capture kind => some (captureBlock stamps kind e children)
    | .visit _ => none
  | .comment _ => none
  | .doctype _ => none

/-- These are the blocks of a container with their nodes, in document order. -/
structure Origins (stamps : Stamps) (children : List Node) (findings : List Finding) : Prop where
  blocks : findings.map (·.2) = blocksIn stamps children
  nodes : ∀ s ∈ findings, (Node.getIn? children s.1).bind (Node.block? stamps) = some s.2
  order : (findings.map (·.1)).Pairwise (· < ·)

mutual

/-- What is found at a node. -/
def Markup.Node.findings (stamps : Stamps) (container : Bool) : Node → List Finding
  | .text value => (textBlock container value).toList.map fun b => ([], b)
  | .element e children =>
    match Fate.ofElement e children with
    | .yield block => block.toList.map fun b => ([], b)
    | .capture kind => [([], captureBlock stamps kind e children)]
    | .visit container => findingsFrom stamps container 0 children
  | .comment _ => []
  | .doctype _ => []

/-- What is found at nodes that are the children from the `i`th one on. -/
def Markup.Node.findingsFrom (stamps : Stamps) (container : Bool) (i : Nat) : List Node → List Finding
  | [] => []
  | n :: rest =>
    (n.findings stamps container).map (fun s => (i :: s.1, s.2)) ++
      findingsFrom stamps container (i + 1) rest

end

variable (stamps : Stamps)

/-- What is found at children is found at one of them, one step further down. -/
theorem mem_findingsFrom {container : Bool} {i : Nat} {ns : List Node} {s : Finding} :
    s ∈ Node.findingsFrom stamps container i ns ↔
      ∃ j n q, ns[j]? = some n ∧ (q, s.2) ∈ n.findings stamps container ∧ s.1 = (i + j) :: q := by
  induction ns generalizing i with
  | nil => simp [Node.findingsFrom]
  | cons n ns ih =>
    obtain ⟨p, b⟩ := s
    rw [Node.findingsFrom, List.mem_append, List.mem_map, ih]
    constructor
    · rintro (⟨⟨q, b'⟩, hq, heq⟩ | ⟨j, m, q, hm, hq, hp⟩)
      · cases heq
        exact ⟨0, n, q, rfl, hq, rfl⟩
      · exact ⟨j + 1, m, q, hm, hq, hp.trans (by rw [Nat.add_assoc, Nat.add_comm 1 j])⟩
    · rintro ⟨j, m, q, hm, hq, hp⟩
      cases j with
      | zero =>
        cases hm
        exact .inl ⟨(q, b), hq, Prod.ext hp.symm rfl⟩
      | succ j =>
        exact .inr ⟨j, m, q, hm, hq, hp.trans (by rw [Nat.add_assoc, Nat.add_comm 1 j])⟩

mutual

theorem findings_blocks (container : Bool) (n : Node) :
    (n.findings stamps container).map (·.2) = n.yields stamps container := by
  match n with
  | .text value =>
    rw [Node.findings, ← textBlock_toList, List.map_map]
    exact List.map_id _
  | .comment _ | .doctype _ => rfl
  | .element e children =>
    rw [Node.findings, yields_element]
    cases Fate.ofElement e children with
    | yield block => cases block <;> rfl
    | capture kind => rfl
    | visit container => exact findingsFrom_blocks container 0 children

theorem findingsFrom_blocks (container : Bool) (i : Nat) (ns : List Node) :
    (Node.findingsFrom stamps container i ns).map (·.2) = Node.yieldsAll stamps container ns := by
  match ns with
  | [] => rfl
  | n :: ns =>
    rw [Node.findingsFrom, Node.yieldsAll, List.map_append, List.map_map,
      ← findings_blocks container n, ← findingsFrom_blocks container (i + 1) ns]
    rfl

end

/-- A block that is found at a node comes from it or from a child that is visited. -/
theorem mem_findings_cases {container : Bool} {n : Node} {s : Finding}
    (h : s ∈ n.findings stamps container) :
    (s.1 = [] ∧ n.block? stamps = some s.2) ∨
      ∃ e children inner j child q, n = .element e children ∧
        Fate.ofElement e children = .visit inner ∧ children[j]? = some child ∧
          (q, s.2) ∈ child.findings stamps inner ∧ s.1 = j :: q := by
  match n with
  | .comment _ | .doctype _ => cases h
  | .text value =>
    rw [Node.findings, List.mem_map] at h
    obtain ⟨b, hb, rfl⟩ := h
    rw [Option.mem_toList] at hb
    refine .inl ⟨rfl, ?_⟩
    cases container with
    | true => exact hb
    | false => cases hb
  | .element e children =>
    rw [Node.findings] at h
    cases hfate : Fate.ofElement e children with
    | yield block =>
      rw [hfate, List.mem_map] at h
      obtain ⟨b, hb, rfl⟩ := h
      refine .inl ⟨rfl, ?_⟩
      simpa [Node.block?, hfate] using hb
    | capture kind =>
      rw [hfate, List.mem_singleton] at h
      subst h
      exact .inl ⟨rfl, by simp [Node.block?, hfate]⟩
    | visit inner =>
      rw [hfate, mem_findingsFrom] at h
      obtain ⟨j, child, q, hchild, hq, hp⟩ := h
      exact .inr ⟨e, children, inner, j, child, q, rfl, hfate, hchild, hq, by rw [hp, Nat.zero_add]⟩

theorem block?_of_mem_findings {container : Bool} {n : Node} {p : Path} {b : Block ImageRef}
    (h : (p, b) ∈ n.findings stamps container) : (n.get? p).bind (Node.block? stamps) = some b := by
  induction p generalizing n container with
  | nil =>
    rcases mem_findings_cases stamps h with ⟨-, hb⟩ | ⟨e, children, inner, j, child, q, -, -, -, -, hp⟩
    · exact hb
    · cases hp
  | cons i p ih =>
    rcases mem_findings_cases stamps h with ⟨hp, -⟩ | ⟨e, children, inner, j, child, q, rfl, -, hchild, hq, hp⟩
    · cases hp
    · cases hp
      rw [Node.get?, Node.children, hchild]
      exact ih hq

mutual

theorem findings_order (container : Bool) (n : Node) :
    ((n.findings stamps container).map (·.1)).Pairwise (· < ·) := by
  match n with
  | .text value =>
    rw [Node.findings]
    cases textBlock container value <;> simp
  | .comment _ | .doctype _ => exact .nil
  | .element e children =>
    rw [Node.findings]
    cases Fate.ofElement e children with
    | yield block => cases block <;> simp
    | capture kind => simp
    | visit container => exact findingsFrom_order container 0 children

theorem findingsFrom_order (container : Bool) (i : Nat) (ns : List Node) :
    ((Node.findingsFrom stamps container i ns).map (·.1)).Pairwise (· < ·) := by
  match ns with
  | [] => exact .nil
  | n :: ns =>
    rw [Node.findingsFrom, List.map_append, List.pairwise_append]
    refine ⟨?_, findingsFrom_order container (i + 1) ns, ?_⟩
    · have hn := findings_order container n
      rw [List.map_map]
      rw [List.pairwise_map] at hn ⊢
      exact hn.imp fun hlt => List.cons_lt_cons_iff.mpr (.inr ⟨rfl, hlt⟩)
    · -- a later child is further on, whatever the way down from it
      intro p hp q hq
      obtain ⟨_, hs, rfl⟩ := List.mem_map.mp hp
      obtain ⟨s, -, rfl⟩ := List.mem_map.mp hs
      obtain ⟨t, ht, rfl⟩ := List.mem_map.mp hq
      obtain ⟨j, -, q, -, -, hpath⟩ := (mem_findingsFrom stamps).mp ht
      rw [hpath]
      exact List.cons_lt_cons_iff.mpr (.inl (by omega))

end

/-- The blocks of a container come from its nodes, in document order. -/
theorem origins_findingsFrom (children : List Node) :
    Origins stamps children (Node.findingsFrom stamps true 0 children) where
  blocks := by rw [findingsFrom_blocks, blocksIn_eq]
  order := findingsFrom_order stamps true 0 children
  nodes := by
    intro s hs
    obtain ⟨j, n, q, hn, hq, hp⟩ := (mem_findingsFrom stamps).mp hs
    rw [hp, Nat.zero_add, Node.getIn?, hn]
    exact block?_of_mem_findings stamps hq

end PageBlocks
