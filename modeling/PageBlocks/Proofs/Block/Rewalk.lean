import PageBlocks.Proofs.Block.LiveWalk
import PageBlocks.Proofs.Block.Stamping
import PageBlocks.Proofs.Markup.Body

/-!
Walking the same page again and again. The elements that a walk captures are told by their tags and by
the text below them, and stamps change neither. So every walk captures the same elements and finds the
same blocks but for their classes, and all that it changes is the class attribute of those elements.
-/
namespace PageBlocks

open Markup

/-! ### The captured elements -/

/-- The walk that enters a node captures the element at a path below it. -/
inductive Markup.Node.Captures : Node → Path → CaptureKind → Prop
  | here {e : Element} {children : List Node} {kind : CaptureKind}
      (h : Fate.ofElement e children = .capture kind) : Captures (.element e children) [] kind
  | down {e : Element} {children : List Node} {container : Bool} {i : Nat} {n : Node} {p : Path}
      {kind : CaptureKind} (h : Fate.ofElement e children = .visit container)
      (hn : children[i]? = some n) (hp : Captures n p kind) :
      Captures (.element e children) (i :: p) kind

/-- The walk through a list of trees captures the element at a path. -/
def Markup.Node.CapturesIn (ns : List Node) (p : Path) (kind : CaptureKind) : Prop :=
  ∃ i n q, p = i :: q ∧ ns[i]? = some n ∧ Captures n q kind

/-- What a node is apart from its children, and how many they are. -/
def Markup.Node.shell : Node → Node × Nat
  | .element e children => (.element e [], children.length)
  | n => (n, 0)

mutual

theorem Markup.Node.appendText_stamp (stamps : Stamps) (acc : String) (n : Node) :
    (n.stamp stamps).appendText acc = n.appendText acc := by
  cases n with
  | element e children =>
    rw [Node.stamp]
    split
    · rfl
    · rfl
    · exact appendTexts_stampAll stamps acc children
  | text value => rfl
  | comment value => rfl
  | doctype name => rfl

/-- Stamps do not change the text of a tree. -/
theorem Markup.Node.appendTexts_stampAll (stamps : Stamps) (acc : String) (ns : List Node) :
    Node.appendTexts acc (Node.stampAll stamps ns) = Node.appendTexts acc ns := by
  cases ns with
  | nil => rfl
  | cons n rest =>
    rw [Node.stampAll, Node.appendTexts, Node.appendTexts, appendText_stamp,
      appendTexts_stampAll stamps _ rest]

end

theorem Markup.Node.textOf_stampAll (stamps : Stamps) (ns : List Node) :
    Node.textOf (Node.stampAll stamps ns) = Node.textOf ns :=
  Node.appendTexts_stampAll stamps "" ns

/-! ### One walk -/

theorem Fate.ofElement_stamp {e : Element} {children : List Node} {kind : CaptureKind}
    (h : Fate.ofElement e children = .capture kind) (stamp : String) :
    Fate.ofElement (e.stamp stamp) children = .capture kind := by
  have htag : (e.stamp stamp).tag = e.tag := rfl
  unfold Fate.ofElement at h ⊢
  rw [htag]
  split at h
  · cases h
  · cases h
  · exact h
  · rename_i hrole
    exact h
  · cases h
  · cases h
  · cases h

theorem Fate.ofElement_of_text {e : Element} {children children' : List Node} {container : Bool}
    (h : Fate.ofElement e children = .visit container)
    (htext : Node.textOf children' = Node.textOf children) :
    Fate.ofElement e children' = .visit container := by
  unfold Fate.ofElement at h ⊢
  rw [htext]
  split at h
  · cases h
  · cases h
  · exact h
  · cases h
  · cases h
  · exact h
  · exact h

theorem Markup.Node.getElem?_stampAll (stamps : Stamps) (ns : List Node) (i : Nat) :
    (Node.stampAll stamps ns)[i]? = ns[i]?.map (Node.stamp stamps) := by
  rw [LiveWalk.stampAll_eq_map, List.getElem?_map]

theorem Markup.Node.length_stampAll (stamps : Stamps) (ns : List Node) :
    (Node.stampAll stamps ns).length = ns.length := by
  rw [LiveWalk.stampAll_eq_map, List.length_map]

/-- A stamped element has the fate that it had before, and where it is visited its children are stamped. -/
theorem Markup.Node.exists_of_stamp_eq {stamps : Stamps} {n : Node} {e' : Element}
    {children' : List Node} (h : n.stamp stamps = .element e' children') :
    ∃ e children, n = .element e children ∧ Fate.ofElement e' children' = Fate.ofElement e children ∧
      ∀ container, Fate.ofElement e children = .visit container →
        children' = Node.stampAll stamps children := by
  cases n with
  | element e children =>
    refine ⟨e, children, rfl, ?_⟩
    rw [Node.stamp] at h
    cases hfate : Fate.ofElement e children <;> rw [hfate] at h <;> obtain ⟨rfl, rfl⟩ := h
    case yield block => exact ⟨hfate, fun _ => Fate.noConfusion⟩
    case capture kind => exact ⟨Fate.ofElement_stamp hfate _, fun _ => Fate.noConfusion⟩
    case visit container =>
      exact ⟨Fate.ofElement_of_text hfate (textOf_stampAll stamps children), fun _ _ => rfl⟩
  | text value => cases h
  | comment value => cases h
  | doctype name => cases h

/-- A walk captures the same elements again. -/
theorem Markup.Node.captures_stamp (stamps : Stamps) {n : Node} {p : Path} {kind : CaptureKind} :
    Captures (n.stamp stamps) p kind ↔ Captures n p kind := by
  constructor
  · intro h
    generalize hstamped : n.stamp stamps = stamped at h
    induction h generalizing n with
    | here h =>
      obtain ⟨e, children, rfl, hfate, -⟩ := exists_of_stamp_eq hstamped
      exact .here (hfate.symm.trans h)
    | down h hn hp ih =>
      obtain ⟨e, children, rfl, hfate, hstampAll⟩ := exists_of_stamp_eq hstamped
      rw [hfate] at h
      rw [hstampAll _ h, getElem?_stampAll] at hn
      obtain ⟨m, hm, hsame⟩ := Option.map_eq_some_iff.mp hn
      exact .down h hm (ih hsame)
  · intro h
    induction h with
    | here h =>
      rw [Node.stamp, h]
      exact .here (Fate.ofElement_stamp h _)
    | down h hn hp ih =>
      rw [Node.stamp, h]
      refine .down (Fate.ofElement_of_text h (textOf_stampAll stamps _)) ?_ ih
      rw [getElem?_stampAll, hn]
      rfl

/-- Where an element is captured it is stamped, and what it holds stays as it is. -/
theorem Markup.Node.get?_stamp_of_captures (stamps : Stamps) {n : Node} {p : Path}
    {kind : CaptureKind} (h : Captures n p kind) :
    ∃ e children, n.get? p = some (.element e children) ∧
      (n.stamp stamps).get? p = some (.element (e.stamp (stamps.of kind)) children) := by
  induction h with
  | here h =>
    refine ⟨_, _, rfl, ?_⟩
    rw [Node.stamp, h]
    rfl
  | down h hn hp ih =>
    obtain ⟨e, children, hget, hstamp⟩ := ih
    refine ⟨e, children, ?_, ?_⟩
    · rw [Node.get?, Node.children, hn]
      exact hget
    · rw [Node.stamp, h, Node.get?, Node.children, getElem?_stampAll, hn]
      exact hstamp

/-- Where nothing is captured nothing changes. -/
theorem Markup.Node.shell_stamp (stamps : Stamps) {n : Node} {p : Path}
    (h : ∀ kind, ¬ Captures n p kind) :
    ((n.stamp stamps).get? p).map Node.shell = (n.get? p).map Node.shell := by
  induction p generalizing n with
  | nil =>
    cases n with
    | element e children =>
      cases hfate : Fate.ofElement e children with
      | yield block => simp only [Node.stamp, hfate]
      | capture kind => exact absurd (.here hfate) (h kind)
      | visit container =>
        simp only [Node.stamp, hfate, Node.get?, Option.map_some, Node.shell, length_stampAll]
    | text value => rfl
    | comment value => rfl
    | doctype name => rfl
  | cons i p ih =>
    cases n with
    | element e children =>
      cases hfate : Fate.ofElement e children with
      | yield block => simp only [Node.stamp, hfate]
      | capture kind => simp only [Node.stamp, hfate, Node.get?, Node.children]
      | visit container =>
        simp only [Node.stamp, hfate, Node.get?, Node.children, getElem?_stampAll]
        cases hn : children[i]? with
        | none => rfl
        | some m => exact ih fun kind hm => h kind (.down hfate hn hm)
    | text value => rfl
    | comment value => rfl
    | doctype name => rfl

mutual

/-- A walk that finds its stamps on all the elements that it captures leaves the tree alone. -/
theorem Markup.Node.stamp_of_stamped {stamps : Stamps} {n : Node}
    (h : ∀ p kind e children, Captures n p kind → n.get? p = some (.element e children) →
      e.stamp (stamps.of kind) = e) : n.stamp stamps = n := by
  cases n with
  | element e children =>
    cases hfate : Fate.ofElement e children with
    | yield block => simp only [Node.stamp, hfate]
    | capture kind =>
      simp only [Node.stamp, hfate]
      rw [h [] kind e children (.here hfate) rfl]
    | visit container =>
      simp only [Node.stamp, hfate]
      rw [stampAll_of_stamped]
      intro i n hn p kind f inner hcaptures hget
      apply h (i :: p) kind f inner (.down hfate hn hcaptures)
      rw [Node.get?, Node.children, hn]
      exact hget
  | text value => rfl
  | comment value => rfl
  | doctype name => rfl

theorem Markup.Node.stampAll_of_stamped {stamps : Stamps} {ns : List Node}
    (h : ∀ (i : Nat) n, ns[i]? = some n → ∀ p kind e children, Captures n p kind →
      n.get? p = some (.element e children) → e.stamp (stamps.of kind) = e) :
    Node.stampAll stamps ns = ns := by
  cases ns with
  | nil => rfl
  | cons n rest =>
    rw [Node.stampAll, stamp_of_stamped (h 0 n rfl), stampAll_of_stamped]
    intro i m hm
    exact h (i + 1) m hm

end

/-! ### What is found -/

/-- A block without its classes: of a captured element only what it holds is left. -/
def Block.sansClasses {ι : Type} : Block ι → Block ι
  | .captured kind html => .captured kind ⟨html.inner, "", ""⟩
  | b => b

theorem sansClasses_captureBlock (stamps : Stamps) (kind : CaptureKind) (e : Element)
    (children : List Node) :
    (captureBlock stamps kind e children).sansClasses =
      .captured kind ⟨String.join (children.map Node.toMarkup), "", ""⟩ := rfl

mutual

/-- But for the classes, a walk finds in a stamped tree what any walk finds in the tree before. -/
theorem Markup.Node.yields_stamp (stamps stamps' used : Stamps) (container : Bool) (n : Node) :
    ((n.stamp used).yields stamps container).map Block.sansClasses =
      (n.yields stamps' container).map Block.sansClasses := by
  cases n with
  | element e children =>
    cases hfate : Fate.ofElement e children with
    | yield block =>
      simp only [Node.stamp, hfate]
      rw [yields_element, yields_element, hfate]
      rfl
    | capture kind =>
      simp only [Node.stamp, hfate]
      rw [yields_element, yields_element, hfate, Fate.ofElement_stamp hfate, Fate.yields,
        Fate.yields, List.map_singleton, List.map_singleton, sansClasses_captureBlock,
        sansClasses_captureBlock]
    | visit inner =>
      simp only [Node.stamp, hfate]
      rw [yields_element, yields_element, hfate,
        Fate.ofElement_of_text hfate (Node.textOf_stampAll used children)]
      exact yieldsAll_stampAll stamps stamps' used inner children
  | text value => simp only [Node.stamp, Node.yields]
  | comment value => simp only [Node.stamp, Node.yields]
  | doctype name => simp only [Node.stamp, Node.yields]

theorem Markup.Node.yieldsAll_stampAll (stamps stamps' used : Stamps) (container : Bool)
    (ns : List Node) :
    (Node.yieldsAll stamps container (Node.stampAll used ns)).map Block.sansClasses =
      (Node.yieldsAll stamps' container ns).map Block.sansClasses := by
  cases ns with
  | nil => rfl
  | cons n rest =>
    rw [Node.stampAll, Node.yieldsAll, Node.yieldsAll, List.map_append, List.map_append,
      yields_stamp stamps stamps', yieldsAll_stampAll stamps stamps']

end

/-! ### Lists of trees -/

namespace Markup.Node

theorem capturesIn_stampAll (stamps : Stamps) (ns : List Node) (p : Path) (kind : CaptureKind) :
    CapturesIn (stampAll stamps ns) p kind ↔ CapturesIn ns p kind := by
  constructor
  · rintro ⟨i, n, q, rfl, hn, hq⟩
    rw [getElem?_stampAll] at hn
    obtain ⟨m, hm, rfl⟩ := Option.map_eq_some_iff.mp hn
    exact ⟨i, m, q, rfl, hm, (captures_stamp stamps).mp hq⟩
  · rintro ⟨i, n, q, rfl, hn, hq⟩
    refine ⟨i, n.stamp stamps, q, rfl, ?_, (captures_stamp stamps).mpr hq⟩
    rw [getElem?_stampAll, hn]
    rfl

theorem getIn?_stampAll_of_capturesIn (stamps : Stamps) {ns : List Node} {p : Path}
    {kind : CaptureKind} (h : CapturesIn ns p kind) :
    ∃ e children, getIn? ns p = some (.element e children) ∧
      getIn? (stampAll stamps ns) p = some (.element (e.stamp (stamps.of kind)) children) := by
  obtain ⟨i, n, q, rfl, hn, hq⟩ := h
  obtain ⟨e, children, hget, hstamp⟩ := get?_stamp_of_captures stamps hq
  refine ⟨e, children, ?_, ?_⟩
  · rw [getIn?, hn]
    exact hget
  · rw [getIn?, getElem?_stampAll, hn]
    exact hstamp

theorem shell_stampAll (stamps : Stamps) {ns : List Node} {p : Path}
    (h : ∀ kind, ¬ CapturesIn ns p kind) :
    (getIn? (stampAll stamps ns) p).map shell = (getIn? ns p).map shell := by
  cases p with
  | nil => rfl
  | cons i p =>
    rw [getIn?, getIn?, getElem?_stampAll]
    cases hn : ns[i]? with
    | none => rfl
    | some n => exact shell_stamp stamps fun kind hp => h kind ⟨i, n, p, rfl, hn, hp⟩

mutual

theorem find?_stamp_eq_none (stamps : Stamps) (tag : String) (n : Node) :
    (n.stamp stamps).find? tag = none ↔ n.find? tag = none := by
  cases n with
  | element e children =>
    have hin := findIn?_stampAll_eq_none stamps tag children
    rw [stamp]
    split
    · rfl
    · have htag : ∀ stamp, (e.stamp stamp).tag = e.tag := fun _ => rfl
      rw [find?, find?, htag]
      split <;> simp
    · rw [find?, find?]
      split
      · simp
      · exact hin
  | text value => rfl
  | comment value => rfl
  | doctype name => rfl

/-- Stamps make up no element. -/
theorem findIn?_stampAll_eq_none (stamps : Stamps) (tag : String) (ns : List Node) :
    findIn? tag (stampAll stamps ns) = none ↔ findIn? tag ns = none := by
  cases ns with
  | nil => rfl
  | cons n rest =>
    have hn := find?_stamp_eq_none stamps tag n
    have hrest := findIn?_stampAll_eq_none stamps tag rest
    rw [stampAll, findIn?, findIn?]
    cases hfind : n.find? tag with
    | some found =>
      cases hstamp : (n.stamp stamps).find? tag with
      | some other => simp
      | none => rw [hn.mp hstamp] at hfind; cases hfind
    | none => rw [hn.mpr hfind]; exact hrest

end

end Markup.Node

/-! ### Walk after walk -/

/-- A page after walks with the leads in turn. -/
def Markup.Document.rewalked (d : Document) (leads : List String) : Document :=
  leads.foldl (fun d lead => d.stamp (.ofLead lead)) d

namespace Markup.Document

variable (d : Document)

theorem rewalked_concat (leads : List String) (lead : String) :
    d.rewalked (leads ++ [lead]) = (d.rewalked leads).stamp (.ofLead lead) := by
  rw [rewalked, List.foldl_append]
  rfl

theorem bodyChildren_stamp (stamps : Stamps) :
    (d.stamp stamps).bodyChildren = Node.stampAll stamps d.bodyChildren :=
  bodyChildren_modifyBody (Node.findIn?_stampAll_eq_none stamps "body" d.children).mpr

theorem capturesIn_rewalked (leads : List String) (p : Path) (kind : CaptureKind) :
    Node.CapturesIn (d.rewalked leads).bodyChildren p kind ↔
      Node.CapturesIn d.bodyChildren p kind := by
  induction leads using List.reverseRecOn with
  | nil => rfl
  | append_singleton leads lead ih =>
    rw [rewalked_concat, bodyChildren_stamp, Node.capturesIn_stampAll, ih]

theorem blocks_eq (stamps : Stamps) :
    d.blocks stamps = Node.yieldsAll stamps true d.bodyChildren :=
  blocksIn_eq stamps d.bodyChildren

/-- The walks before a walk change only the classes of what it finds. -/
theorem blocks_rewalked (leads : List String) (stamps stamps' : Stamps) :
    ((d.rewalked leads).blocks stamps).map Block.sansClasses =
      (d.blocks stamps').map Block.sansClasses := by
  induction leads using List.reverseRecOn generalizing stamps with
  | nil =>
    -- both agree with what is found in the tree that bears some stamps already
    have hstamped := fun other =>
      Node.yieldsAll_stampAll stamps other stamps true d.bodyChildren
    rw [rewalked, List.foldl_nil, blocks_eq, blocks_eq, ← hstamped stamps, ← hstamped stamps']
  | append_singleton leads lead ih =>
    rw [rewalked_concat, blocks_eq, bodyChildren_stamp,
      Node.yieldsAll_stampAll stamps stamps, ← blocks_eq, ih]

/-- The element at a captured place has had the stamps of its kind put on in turn. -/
theorem getIn?_rewalked (leads : List String) {p : Path} {kind : CaptureKind}
    (h : Node.CapturesIn d.bodyChildren p kind) :
    ∃ e children, Node.getIn? d.bodyChildren p = some (.element e children) ∧
      Node.getIn? (d.rewalked leads).bodyChildren p =
        some (.element (e.stampedBy (leads.map fun lead => (Stamps.ofLead lead).of kind)) children) := by
  induction leads using List.reverseRecOn with
  | nil =>
    obtain ⟨e, children, hget, -⟩ := Node.getIn?_stampAll_of_capturesIn (.ofLead "") h
    exact ⟨e, children, hget, hget⟩
  | append_singleton leads lead ih =>
    obtain ⟨e, children, hget, hbefore⟩ := ih
    obtain ⟨f, inner, hf, hafter⟩ := Node.getIn?_stampAll_of_capturesIn (.ofLead lead)
      ((d.capturesIn_rewalked leads p kind).mpr h)
    obtain ⟨rfl, rfl⟩ := Node.element.inj (Option.some.inj (hbefore.symm.trans hf))
    refine ⟨e, children, hget, ?_⟩
    rw [rewalked_concat, bodyChildren_stamp, hafter, List.map_append, List.map_singleton,
      Element.stampedBy_concat]

/-- The live walk finds the blocks of the page and leaves its container stamped. -/
theorem run_walk (stamps : Stamps) (self : Element) :
    (LiveWalk.run stamps (.start self d.bodyChildren)).found = d.blocks stamps ∧
      (LiveWalk.run stamps (.start self d.bodyChildren)).tree =
        .element self (d.stamp stamps).bodyChildren := by
  have hroot : (Node.element self d.bodyChildren).get? [] = some (.element self d.bodyChildren) := rfl
  obtain ⟨-, hfound, htree⟩ := LiveWalk.run_spec stamps (LiveWalk.undisturbed_start self d.bodyChildren)
  constructor
  · rw [hfound, LiveWalk.State.start, LiveWalk.yieldsOf_pushChildren hroot, blocks_eq]
    exact List.append_nil _
  · rw [htree, LiveWalk.State.start, LiveWalk.stampPaths_pushChildren hroot, bodyChildren_stamp]
    rfl

/-- One page is another one whose captured elements have been given classes: nothing else in it is
new, and each of the classes asked for is among those that an element has now. -/
structure Restamped (before after : Document) (captured : Path → CaptureKind → Prop)
    (asked : CaptureKind → List String) : Prop where
  outside : after = before.modifyBody fun _ => after.bodyChildren
  elsewhere : ∀ p, (∀ kind, ¬ captured p kind) →
    (Node.getIn? after.bodyChildren p).map Node.shell =
      (Node.getIn? before.bodyChildren p).map Node.shell
  captured : ∀ p kind, captured p kind → ∃ e children classes,
    Node.getIn? before.bodyChildren p = some (.element e children) ∧
    Node.getIn? after.bodyChildren p = some (.element (e.set "class" classes) children) ∧
    ∀ stamp ∈ asked kind, stamp ∈ Text.words classes

/-- The classes of a kind for each of the leads. -/
def stampsOf (leads : List String) (kind : CaptureKind) : List String :=
  leads.map fun lead => (Stamps.ofLead lead).of kind

theorem isWord_of_mem_stampsOf {leads : List String} (hvalid : ∀ l ∈ leads, isClassName l = true)
    {kind : CaptureKind} {stamp : String} (h : stamp ∈ stampsOf leads kind) : Text.IsWord stamp := by
  obtain ⟨l, hl, rfl⟩ := List.mem_map.mp h
  exact Stamps.isWord_of_ofLead (hvalid l hl) kind

theorem restamped_rewalked (leads : List String) (lead : String)
    (hvalid : ∀ l ∈ leads ++ [lead], isClassName l = true) :
    Restamped (d.rewalked leads) (d.rewalked (leads ++ [lead]))
      (Node.CapturesIn d.bodyChildren) (stampsOf (leads ++ [lead])) := by
  constructor
  · rw [rewalked_concat]
    apply modifyBody_congr
    rw [bodyChildren_stamp]
  · intro p hp
    rw [rewalked_concat, bodyChildren_stamp]
    exact Node.shell_stampAll _ fun kind h => hp kind ((d.capturesIn_rewalked leads p kind).mp h)
  · intro p kind hp
    have hbefore := (d.capturesIn_rewalked leads p kind).mpr hp
    obtain ⟨e, children, hget, hafter⟩ := Node.getIn?_stampAll_of_capturesIn (.ofLead lead) hbefore
    rw [← bodyChildren_stamp, ← rewalked_concat] at hafter
    refine ⟨e, children, _, hget, hafter, ?_⟩
    -- the same element, seen as the one of the first page with all stamps put on
    obtain ⟨f, inner, -, hstamped⟩ := d.getIn?_rewalked (leads ++ [lead]) hp
    obtain ⟨heq, -⟩ := Node.element.inj (Option.some.inj (hafter.symm.trans hstamped))
    have hne : stampsOf (leads ++ [lead]) kind ≠ [] := by simp [stampsOf]
    obtain ⟨classes, hset, -, hmem⟩ :=
      f.bears_stampedBy hne fun stamp => isWord_of_mem_stampsOf hvalid
    have hclasses := congrArg (Element.get? · "class") (heq.trans hset)
    simp only [Element.get?_stamp, Element.get?_set, Option.some.injEq] at hclasses
    rw [hclasses]
    exact hmem

/-- Where a stamp of its lead is put on again, a page stays as it is. -/
theorem stamp_rewalked {leads : List String} {lead : String}
    (hvalid : ∀ l ∈ leads, isClassName l = true) (hmem : lead ∈ leads) :
    (d.rewalked leads).stamp (.ofLead lead) = d.rewalked leads := by
  apply modifyBody_of_fixed
  apply Node.stampAll_of_stamped
  intro i n hn p kind e children hp hget
  have hcaptures : Node.CapturesIn (d.rewalked leads).bodyChildren (i :: p) kind :=
    ⟨i, n, p, rfl, hn, hp⟩
  obtain ⟨f, inner, -, hbefore⟩ :=
    d.getIn?_rewalked leads ((d.capturesIn_rewalked leads _ kind).mp hcaptures)
  rw [Node.getIn?, hn, Option.bind_some, hget] at hbefore
  obtain ⟨rfl, rfl⟩ := Node.element.inj (Option.some.inj hbefore)
  have hthere : (Stamps.ofLead lead).of kind ∈ stampsOf leads kind := List.mem_map_of_mem hmem
  exact (f.bears_stampedBy (List.ne_nil_of_mem hthere)
    fun stamp => isWord_of_mem_stampsOf hvalid).stamp_again hthere

/-- Walking a page once more. Whatever valid leads it has been walked with before, the walk - done in
place on the live tree - finds the blocks that every walk finds but for their classes, and captures the
elements that every walk captures. The page it leaves differs from the one before in the class
attributes of these elements alone, and each of them has the stamps of all leads so far among its
words. With a lead that has been used the walk changes nothing at all. -/
theorem rewalk (leads : List String) (lead : String) (self : Element) (stamps : Stamps)
    (hvalid : ∀ l ∈ leads ++ [lead], isClassName l = true) :
    (LiveWalk.run (.ofLead lead) (.start self (d.rewalked leads).bodyChildren)).found =
      (d.rewalked leads).blocks (.ofLead lead) ∧
    (LiveWalk.run (.ofLead lead) (.start self (d.rewalked leads).bodyChildren)).tree =
      .element self (d.rewalked (leads ++ [lead])).bodyChildren ∧
    ((d.rewalked leads).blocks (.ofLead lead)).map Block.sansClasses =
      (d.blocks stamps).map Block.sansClasses ∧
    (∀ p kind, Node.CapturesIn (d.rewalked leads).bodyChildren p kind ↔
      Node.CapturesIn d.bodyChildren p kind) ∧
    Restamped (d.rewalked leads) (d.rewalked (leads ++ [lead]))
      (Node.CapturesIn d.bodyChildren) (stampsOf (leads ++ [lead])) ∧
    (lead ∈ leads → d.rewalked (leads ++ [lead]) = d.rewalked leads) := by
  obtain ⟨hfound, htree⟩ := (d.rewalked leads).run_walk (.ofLead lead) self
  refine ⟨hfound, ?_, d.blocks_rewalked leads _ stamps, d.capturesIn_rewalked leads,
    d.restamped_rewalked leads lead hvalid, ?_⟩
  · rw [rewalked_concat]
    exact htree
  · intro hmem
    rw [rewalked_concat]
    exact d.stamp_rewalked (fun l hl => hvalid l (List.mem_append_left _ hl)) hmem

/-- A paragraph whose classes stand between no-break spaces, and a list that bears a stamp already. -/
def spacedPage : Document :=
  ⟨[.element ⟨.html, "p", [⟨.plain "class", "\u00a0lead\u00a0"⟩]⟩ [.text "x"],
    .element ⟨.html, "ul", [⟨.plain "class", "ai-list"⟩]⟩ []]⟩

/-- With the first of two leads again nothing changes. -/
theorem rewalk_spacedPage :
    (∀ l ∈ ["pb", "ai"] ++ ["pb"], isClassName l = true) ∧
    Restamped (spacedPage.rewalked ["pb", "ai"]) (spacedPage.rewalked (["pb", "ai"] ++ ["pb"]))
      (Node.CapturesIn spacedPage.bodyChildren) (stampsOf (["pb", "ai"] ++ ["pb"])) ∧
    spacedPage.rewalked (["pb", "ai"] ++ ["pb"]) = spacedPage.rewalked ["pb", "ai"] := by
  have hvalid : ∀ l ∈ ["pb", "ai"] ++ ["pb"], isClassName l = true := by decide
  obtain ⟨-, -, -, -, hrestamped, hagain⟩ :=
    rewalk spacedPage ["pb", "ai"] "pb" ⟨.html, "body", []⟩ (.ofLead "pb") hvalid
  exact ⟨hvalid, hrestamped, hagain (by decide)⟩

end Markup.Document

end PageBlocks
