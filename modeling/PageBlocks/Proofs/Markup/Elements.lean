import PageBlocks.Proofs.Block.Path

/-!
The elements of a page in document order. The elements below an element of a page are elements of the
page, and the first element with a tag is the first of them that has it.
-/
namespace PageBlocks.Markup

namespace Node

mutual

theorem prependElements_eq (n : Node) (after : List (Element × List Node)) :
    n.prependElements after = n.prependElements [] ++ after := by
  match n with
  | .text _ | .comment _ | .doctype _ => rfl
  | .element self children =>
    rw [prependElements, prependElements, prependElementsOf_eq children after, List.cons_append]

theorem prependElementsOf_eq (ns : List Node) (after : List (Element × List Node)) :
    prependElementsOf ns after = prependElementsOf ns [] ++ after := by
  match ns with
  | [] => rfl
  | n :: ns =>
    rw [prependElementsOf, prependElementsOf, prependElements_eq n (prependElementsOf ns after),
      prependElements_eq n (prependElementsOf ns []), prependElementsOf_eq ns after, List.append_assoc]

end

theorem elementsOf_cons (n : Node) (ns : List Node) :
    elementsOf (n :: ns) = elementsOf [n] ++ elementsOf ns :=
  prependElements_eq n (prependElementsOf ns [])

theorem elementsOf_element (e : Element) (children : List Node) :
    elementsOf [.element e children] = (e, children) :: elementsOf children := rfl

theorem elementsOf_subset_of_mem {n : Node} {ns : List Node} (h : n ∈ ns) :
    elementsOf [n] ⊆ elementsOf ns := by
  induction ns with
  | nil => cases h
  | cons m ns ih =>
    rw [elementsOf_cons m ns]
    rcases List.mem_cons.mp h with rfl | h
    · exact List.subset_append_left _ _
    · exact List.Subset.trans (ih h) (List.subset_append_right _ _)

/-- An element at the end of a path is an element of the trees. -/
theorem mem_elementsOf_of_get? {n : Node} {path : Path} {e : Element} {children : List Node}
    (h : n.get? path = some (.element e children)) : (e, children) ∈ elementsOf [n] := by
  induction path generalizing n with
  | nil =>
    obtain rfl := Option.some.inj h
    exact List.mem_cons_self
  | cons i path ih =>
    obtain ⟨child, hchild, hget⟩ := Option.bind_eq_some_iff.mp h
    cases n with
    | element self inner =>
      rw [elementsOf_element]
      exact List.mem_cons_of_mem _ (elementsOf_subset_of_mem (List.mem_of_getElem? hchild) (ih hget))
    | text _ | comment _ | doctype _ => cases hchild

theorem mem_elementsOf_of_getIn? {ns : List Node} {path : Path} {e : Element} {children : List Node}
    (h : getIn? ns path = some (.element e children)) : (e, children) ∈ elementsOf ns := by
  cases path with
  | nil => cases h
  | cons i path =>
    obtain ⟨n, hn, hget⟩ := Option.bind_eq_some_iff.mp h
    exact elementsOf_subset_of_mem (List.mem_of_getElem? hn) (mem_elementsOf_of_get? hget)

mutual

theorem find?_eq_find? (tag : String) (n : Node) :
    n.find? tag = (elementsOf [n]).find? fun x => x.1.tag == tag := by
  match n with
  | .text _ | .comment _ | .doctype _ => rfl
  | .element self children =>
    rw [find?, elementsOf_element, List.find?_cons, findIn?_eq_find? tag children]
    cases hself : self.tag == tag <;> rfl

/-- The search for a tag goes through the elements in document order. -/
theorem findIn?_eq_find? (tag : String) (ns : List Node) :
    findIn? tag ns = (elementsOf ns).find? fun x => x.1.tag == tag := by
  match ns with
  | [] => rfl
  | n :: ns =>
    rw [findIn?, elementsOf_cons, List.find?_append, find?_eq_find? tag n, findIn?_eq_find? tag ns]
    cases (elementsOf [n]).find? fun x => x.1.tag == tag <;> rfl

end

mutual

theorem elementsOf_subset_of_mem_singleton {n : Node} {e : Element} {children : List Node}
    (h : (e, children) ∈ elementsOf [n]) : elementsOf children ⊆ elementsOf [n] := by
  match n with
  | .text _ | .comment _ | .doctype _ => cases h
  | .element self inner =>
    rw [elementsOf_element] at h ⊢
    rcases List.mem_cons.mp h with heq | h
    · cases heq
      exact List.subset_cons_self _ _
    · exact List.Subset.trans (elementsOf_subset h) (List.subset_cons_self _ _)

/-- The elements below an element of trees are elements of the trees. -/
theorem elementsOf_subset {ns : List Node} {e : Element} {children : List Node}
    (h : (e, children) ∈ elementsOf ns) : elementsOf children ⊆ elementsOf ns := by
  match ns with
  | [] => cases h
  | n :: ns =>
    rw [elementsOf_cons] at h ⊢
    rcases List.mem_append.mp h with h | h
    · exact List.Subset.trans (elementsOf_subset_of_mem_singleton h) (List.subset_append_left _ _)
    · exact List.Subset.trans (elementsOf_subset h) (List.subset_append_right _ _)

end

end Node

/-- The elements of the content container of a page are elements of the page. -/
theorem Document.elementsOf_bodyChildren_subset (d : Document) :
    Node.elementsOf d.bodyChildren ⊆ Node.elementsOf d.children := by
  rw [bodyChildren]
  split
  · rename_i e children hfind
    rw [Node.findIn?_eq_find?] at hfind
    exact Node.elementsOf_subset (List.mem_of_find?_eq_some hfind)
  · exact List.Subset.refl _

end PageBlocks.Markup
