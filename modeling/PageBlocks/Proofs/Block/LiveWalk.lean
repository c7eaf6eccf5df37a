import PageBlocks.Proofs.Block.Path
import PageBlocks.Proofs.Block.Recursion
import Mathlib.Algebra.GroupWithZero.Nat
import Mathlib.Logic.Relation

/-!
The walk over a live tree. Here the stack holds paths instead of nodes, its top is its end, and a
node is looked up in the tree as it is when its turn comes, with all stamps that were put on before.
The stamps never reach a pending node: whatever is pending reads as it did before the walk. So the
live walk finds what the tree yields by recursion, and leaves the stamped tree behind.
-/
namespace PageBlocks.LiveWalk

open Markup

/-- The state of a walk between two visits. -/
structure State where
  tree : Node
  /-- Paths to visit and whether they stand in a container; the last one is visited next. -/
  pending : List (Path × Bool)
  found : List (Block ImageRef)

/-- Put the children of a node on the stack so that they are taken off in document order. -/
def pushChildren (pending : List (Path × Bool)) (path : Path) (count : Nat) (container : Bool) :
    List (Path × Bool) :=
  pending ++ ((List.range count).map fun i => (path ++ [i], container)).reverse

/-- The stamp is put on one element; what is below it stays. -/
def mark (stamp : String) : Node → Node
  | .element e children => .element (e.stamp stamp) children
  | n => n

/-- The block of a captured element, read off the tree that bears the stamp already. -/
def capturedAt (kind : CaptureKind) (path : Path) (tree : Node) : Option (Block ImageRef) :=
  match tree.get? path with
  | some (.element e children) =>
    some (.captured kind {
      inner := String.join (children.map Node.toMarkup)
      outer := (Node.element e children).toMarkup
      classes := (e.get? "class").getD "" })
  | _ => none

namespace State

/-- Before the first visit the children of the container are pending. -/
def start (self : Element) (children : List Node) : State :=
  ⟨.element self children, pushChildren [] [] children.length true, []⟩

def find (s : State) (block : Option (Block ImageRef)) : State :=
  { s with found := s.found ++ block.toList }

def capture (stamps : Stamps) (kind : CaptureKind) (path : Path) (s : State) : State :=
  let tree := s.tree.modifyAt (mark (stamps.of kind)) path
  { s with tree := tree, found := s.found ++ (capturedAt kind path tree).toList }

/-- Visit the node that now stands at a path. -/
def visit (stamps : Stamps) (path : Path) (container : Bool) (s : State) : State :=
  match s.tree.get? path with
  | some (.text value) => s.find (textBlock container value)
  | some (.element e children) =>
    match Fate.ofElement e children with
    | .yield block => s.find block
    | .capture kind => s.capture stamps kind path
    | .visit container =>
      { s with pending := pushChildren s.pending path children.length container }
  | _ => s.find none

/-- Take the top off the stack and visit it. -/
def step? (stamps : Stamps) (s : State) : Option State :=
  match s.pending.getLast? with
  | none => none
  | some (path, container) =>
    some (({ s with pending := s.pending.dropLast } : State).visit stamps path container)

theorem step?_nil (stamps : Stamps) (tree : Node) (found : List (Block ImageRef)) :
    step? stamps ⟨tree, [], found⟩ = none := rfl

theorem step?_concat (stamps : Stamps) (tree : Node) (rest : List (Path × Bool)) (path : Path)
    (container : Bool) (found : List (Block ImageRef)) :
    step? stamps ⟨tree, rest ++ [(path, container)], found⟩ =
      some (visit stamps path container ⟨tree, rest, found⟩) := by
  simp [step?]

end State

/-! ### The walk ends -/

/-- The number of nodes at and below a path. -/
def sizeAt (tree : Node) (path : Path) : Nat :=
  match tree.get? path with
  | some n => n.size
  | none => 1

/-- The number of visits that may still come. -/
def State.size (s : State) : Nat := (s.pending.map fun entry => sizeAt s.tree entry.1).sum

theorem sizeAt_pos (tree : Node) (path : Path) : 0 < sizeAt tree path := by
  unfold sizeAt
  split
  · exact Pending.size_pos _
  · exact Nat.one_pos

theorem size_mark (stamp : String) (n : Node) : (mark stamp n).size = n.size := by
  cases n <;> rfl

theorem children_mark (stamp : String) (n : Node) : (mark stamp n).children = n.children := by
  cases n <;> rfl

theorem sizeOfAll_modify (f : Node → Node) (i : Nat) (ns : List Node)
    (h : ∀ n, (f n).size = n.size) : Node.sizeOfAll (ns.modify i f) = Node.sizeOfAll ns := by
  induction ns generalizing i with
  | nil => rw [List.modify_nil]
  | cons n ns ih =>
    cases i with
    | zero => rw [List.modify_zero_cons, Node.sizeOfAll, Node.sizeOfAll, h]
    | succ i => rw [List.modify_succ_cons, Node.sizeOfAll, Node.sizeOfAll, ih]

theorem size_modifyAt_mark (stamp : String) (path : Path) (n : Node) :
    (n.modifyAt (mark stamp) path).size = n.size := by
  induction path generalizing n with
  | nil => exact size_mark stamp n
  | cons i rest ih =>
    cases n with
    | element self children =>
      simp only [Node.modifyAt, Node.mapChildren, Node.size]
      rw [sizeOfAll_modify _ _ _ ih]
    | text value => rfl
    | comment value => rfl
    | doctype name => rfl

/-- A stamp changes the size of no node, wherever it is put. -/
theorem sizeAt_modifyAt_mark (stamp : String) (p q : Path) (tree : Node) :
    sizeAt (tree.modifyAt (mark stamp) p) q = sizeAt tree q := by
  induction q generalizing tree p with
  | nil => exact size_modifyAt_mark stamp p tree
  | cons j q ih =>
    cases p with
    | nil => simp only [Node.modifyAt, sizeAt, Node.get?, children_mark]
    | cons i p =>
      unfold sizeAt
      rw [Node.get?, Node.children_modifyAt_cons, Node.get?]
      by_cases hij : i = j
      · subst hij
        rw [List.getElem?_modify_eq]
        cases tree.children[i]? with
        | none => rfl
        | some child => exact ih p child
      · rw [List.getElem?_modify_ne _ _ hij]

theorem sum_sizeAt_children {tree : Node} {path : Path} {e : Element} {children : List Node}
    (h : tree.get? path = some (.element e children)) :
    ((List.range children.length).map fun i => sizeAt tree (path ++ [i])).sum =
      Node.sizeOfAll children := by
  have hat : ∀ i, sizeAt tree (path ++ [i]) = (children[i]?.map Node.size).getD 1 := by
    intro i
    rw [sizeAt, Node.get?_child h, Node.children]
    cases children[i]? <;> rfl
  simp only [hat]
  clear h hat
  induction children with
  | nil => rfl
  | cons n ns ih =>
    rw [List.length_cons, List.range_succ_eq_map, List.map_cons, List.sum_cons, List.map_map]
    exact congrArg (n.size + ·) ih

theorem size_pushChildren {s : State} {path : Path} {e : Element} {children : List Node}
    (h : s.tree.get? path = some (.element e children)) (container : Bool) :
    State.size { s with pending := pushChildren s.pending path children.length container } =
      s.size + Node.sizeOfAll children := by
  simp only [State.size, pushChildren, List.map_append, List.sum_append, List.map_reverse,
    List.sum_reverse, List.map_map]
  rw [← sum_sizeAt_children h]
  rfl

theorem size_visit (stamps : Stamps) (path : Path) (container : Bool) (s : State) :
    (s.visit stamps path container).size < s.size + sizeAt s.tree path := by
  have hpos := sizeAt_pos s.tree path
  unfold State.visit
  split
  · simpa [State.find, State.size] using hpos
  · rename_i e children hat
    split
    · simpa [State.find, State.size] using hpos
    · simp only [State.capture, State.size, sizeAt_modifyAt_mark]
      omega
    · rw [size_pushChildren hat]
      simp only [sizeAt, hat, Node.size]
      omega
  · simpa [State.find, State.size] using hpos

theorem size_step? {stamps : Stamps} {s t : State} (h : s.step? stamps = some t) :
    t.size < s.size := by
  obtain ⟨tree, pending, found⟩ := s
  rcases List.eq_nil_or_concat' pending with rfl | ⟨rest, ⟨path, container⟩, rfl⟩
  · simp [State.step?_nil] at h
  · rw [State.step?_concat] at h
    obtain rfl := Option.some.inj h
    have hlt := size_visit stamps path container ⟨tree, rest, found⟩
    simpa [State.size] using hlt

/-- Visit pending nodes until none is left. -/
def run (stamps : Stamps) (s : State) : State :=
  match _h : s.step? stamps with
  | none => s
  | some t => run stamps t
termination_by s.size
decreasing_by exact size_step? _h

/-! ### What the walk finds and leaves behind -/

/-- Loop invariant of the walk: whatever is pending is as it was before the walk, and no pending
path is above another. -/
structure Undisturbed (original : Node) (s : State) : Prop where
  apart : s.pending.Pairwise fun a b => a.1.Apart b.1
  unchanged : ∀ entry ∈ s.pending, s.tree.get? entry.1 = original.get? entry.1

/-- What the node at a path of the tree before the walk yields. -/
def yieldsAt (stamps : Stamps) (original : Node) (entry : Path × Bool) : List (Block ImageRef) :=
  (original.get? entry.1).elim [] (Node.yields stamps entry.2)

/-- What pending nodes yield in the order in which they are visited. -/
def yieldsOf (stamps : Stamps) (original : Node) (pending : List (Path × Bool)) :
    List (Block ImageRef) :=
  pending.reverse.flatMap (yieldsAt stamps original)

/-- A tree once the nodes at all pending paths have been stamped. -/
def stampPaths (stamps : Stamps) (tree : Node) (pending : List (Path × Bool)) : Node :=
  pending.reverse.foldl (fun tree entry => tree.modifyAt (Node.stamp stamps) entry.1) tree

theorem yieldsOf_concat (stamps : Stamps) (original : Node) (rest : List (Path × Bool))
    (entry : Path × Bool) :
    yieldsOf stamps original (rest ++ [entry]) =
      yieldsAt stamps original entry ++ yieldsOf stamps original rest := by
  simp [yieldsOf]

theorem stampPaths_concat (stamps : Stamps) (tree : Node) (rest : List (Path × Bool))
    (entry : Path × Bool) :
    stampPaths stamps tree (rest ++ [entry]) =
      stampPaths stamps (tree.modifyAt (Node.stamp stamps) entry.1) rest := by
  simp [stampPaths]

theorem flatMap_range_getElem? {α β : Type} (f : α → List β) (as : List α) :
    ((List.range as.length).flatMap fun i => as[i]?.elim [] f) = as.flatMap f := by
  induction as with
  | nil => rfl
  | cons a as ih =>
    rw [List.length_cons, List.range_succ_eq_map, List.flatMap_cons, List.flatMap_map,
      List.flatMap_cons, ← ih]
    rfl

/-- The children pushed onto a stack yield what the list of the children yields. -/
theorem yieldsOf_pushChildren {original : Node} {path : Path} {e : Element}
    {children : List Node} (h : original.get? path = some (.element e children))
    (stamps : Stamps) (container : Bool) (pending : List (Path × Bool)) :
    yieldsOf stamps original (pushChildren pending path children.length container) =
      Node.yieldsAll stamps container children ++ yieldsOf stamps original pending := by
  rw [yieldsOf, pushChildren, List.reverse_append, List.reverse_reverse, List.flatMap_append,
    List.flatMap_map, yieldsAll_eq_flatMap,
    ← flatMap_range_getElem? (Node.yields stamps container) children, yieldsOf]
  simp only [yieldsAt, Node.get?_child h, Node.children]

theorem stampAll_eq_map (stamps : Stamps) (ns : List Node) :
    Node.stampAll stamps ns = ns.map (Node.stamp stamps) := by
  induction ns with
  | nil => rfl
  | cons n ns ih => rw [Node.stampAll, List.map_cons, ih]

/-- To stamp each child at its path is to stamp the list of the children. -/
theorem stampPaths_pushChildren {tree : Node} {path : Path} {e : Element}
    {children : List Node} (h : tree.get? path = some (.element e children)) (stamps : Stamps)
    (container : Bool) (pending : List (Path × Bool)) :
    stampPaths stamps tree (pushChildren pending path children.length container) =
      stampPaths stamps (tree.modifyAt (Node.mapChildren (Node.stampAll stamps)) path)
        pending := by
  rw [stampPaths, pushChildren, List.reverse_append, List.reverse_reverse, List.foldl_append,
    List.foldl_map]
  simp only [Node.modifyAt_append]
  rw [Node.foldl_modifyAt (fun i => Node.modifyAt (Node.stamp stamps) [i]), stampPaths]
  congr 1
  apply Node.modifyAt_congr
  intro m hm
  obtain rfl := Option.some.inj (h.symm.trans hm)
  rw [Node.foldl_modifyAt_children, Node.mapChildren, stampAll_eq_map]

/-- Pending children stand apart from each other and from all that was pending before. -/
theorem pairwise_pushChildren {rest : List (Path × Bool)} {path : Path}
    (hrest : rest.Pairwise fun a b => a.1.Apart b.1) (hpath : ∀ a ∈ rest, a.1.Apart path)
    (count : Nat) (container : Bool) :
    (pushChildren rest path count container).Pairwise fun a b => a.1.Apart b.1 := by
  rw [pushChildren, List.pairwise_append]
  refine ⟨hrest, ?_, ?_⟩
  · rw [List.pairwise_reverse, List.pairwise_map]
    exact List.nodup_range.imp fun hne => Path.apart_children path hne.symm
  · intro a ha b hb
    simp only [List.mem_reverse, List.mem_map] at hb
    obtain ⟨i, -, rfl⟩ := hb
    exact ((hpath a ha).symm.child i).symm

theorem undisturbed_start (self : Element) (children : List Node) :
    Undisturbed (.element self children) (State.start self children) where
  apart := pairwise_pushChildren List.Pairwise.nil (by simp) children.length true
  unchanged _ _ := rfl

/-- What a visit keeps: the invariant, what the walk is bound to find, and the tree it is bound to
leave behind. -/
structure Keeps (stamps : Stamps) (original : Node) (s t : State) : Prop where
  undisturbed : Undisturbed original t
  found_eq : t.found ++ yieldsOf stamps original t.pending =
    s.found ++ yieldsOf stamps original s.pending
  tree_eq : stampPaths stamps t.tree t.pending = stampPaths stamps s.tree s.pending

section Visit

variable {stamps : Stamps} {original tree : Node} {rest : List (Path × Bool)} {path : Path}
  {container : Bool} {found : List (Block ImageRef)}

/-- A node that bears no stamp and yields at most one block is done with at once. -/
theorem keeps_find (h : Undisturbed original ⟨tree, rest ++ [(path, container)], found⟩)
    (block : Option (Block ImageRef))
    (hyields : yieldsAt stamps original (path, container) = block.toList)
    (hstamp : ∀ m, tree.get? path = some m → m.stamp stamps = m) :
    Keeps stamps original ⟨tree, rest ++ [(path, container)], found⟩
      (State.find ⟨tree, rest, found⟩ block) where
  undisturbed := {
    apart := (List.pairwise_append.mp h.apart).1
    unchanged := fun entry hentry => h.unchanged entry (List.mem_append_left _ hentry) }
  found_eq := by
    simp only [State.find]
    rw [yieldsOf_concat, hyields, List.append_assoc]
  tree_eq := by
    simp only [State.find]
    rw [stampPaths_concat, Node.modifyAt_of_fixed hstamp]

theorem keeps_capture (h : Undisturbed original ⟨tree, rest ++ [(path, container)], found⟩)
    {e : Element} {children : List Node} {kind : CaptureKind}
    (hat : tree.get? path = some (.element e children))
    (hfate : Fate.ofElement e children = .capture kind) :
    Keeps stamps original ⟨tree, rest ++ [(path, container)], found⟩
      (State.capture stamps kind path ⟨tree, rest, found⟩) := by
  have horiginal : original.get? path = some (.element e children) := by
    rw [← h.unchanged (path, container) (by simp), hat]
  have hafter : (tree.modifyAt (mark (stamps.of kind)) path).get? path =
      some (.element (e.stamp (stamps.of kind)) children) := by
    rw [Node.get?_modifyAt_self, hat]
    rfl
  obtain ⟨hrest, -, hpath⟩ := List.pairwise_append.mp h.apart
  constructor
  · constructor
    · exact hrest
    · intro entry hentry
      have hapart := (hpath entry hentry _ (List.mem_singleton_self _)).symm
      simp only [State.capture]
      rw [Node.get?_modifyAt_of_apart _ hapart]
      exact h.unchanged entry (List.mem_append_left _ hentry)
  · have hblock : capturedAt kind path (tree.modifyAt (mark (stamps.of kind)) path) =
        some (captureBlock stamps kind e children) := by
      rw [capturedAt, hafter]
      simp only [Element.get?_stamp, Option.getD_some, captureBlock]
    simp only [State.capture]
    rw [hblock, yieldsOf_concat, yieldsAt, horiginal, List.append_assoc]
    simp only [Option.elim_some, yields_element, hfate, Fate.yields, Option.toList_some]
  · simp only [State.capture]
    rw [stampPaths_concat]
    congr 1
    apply Node.modifyAt_congr
    intro m hm
    obtain rfl := Option.some.inj (hat.symm.trans hm)
    rw [mark, Node.stamp, hfate]

theorem keeps_push (h : Undisturbed original ⟨tree, rest ++ [(path, container)], found⟩)
    {e : Element} {children : List Node} {inner : Bool}
    (hat : tree.get? path = some (.element e children))
    (hfate : Fate.ofElement e children = .visit inner) :
    Keeps stamps original ⟨tree, rest ++ [(path, container)], found⟩
      ⟨tree, pushChildren rest path children.length inner, found⟩ := by
  have horiginal : original.get? path = some (.element e children) := by
    rw [← h.unchanged (path, container) (by simp), hat]
  obtain ⟨hrest, -, hpath⟩ := List.pairwise_append.mp h.apart
  constructor
  · constructor
    · exact pairwise_pushChildren hrest
        (fun a ha => hpath a ha _ (List.mem_singleton_self _)) children.length inner
    · intro entry hentry
      rcases List.mem_append.mp hentry with hentry | hentry
      · exact h.unchanged entry (List.mem_append_left _ hentry)
      · simp only [List.mem_reverse, List.mem_map] at hentry
        obtain ⟨i, -, rfl⟩ := hentry
        rw [Node.get?_child hat, Node.get?_child horiginal]
  · dsimp only
    rw [yieldsOf_pushChildren horiginal, yieldsOf_concat, yieldsAt, horiginal]
    simp only [Option.elim_some, yields_element, hfate, Fate.yields]
  · dsimp only
    rw [stampPaths_pushChildren hat, stampPaths_concat]
    congr 1
    apply Node.modifyAt_congr
    intro m hm
    obtain rfl := Option.some.inj (hat.symm.trans hm)
    rw [Node.mapChildren, Node.stamp, hfate]

/-- A node that bears no stamp and yields nothing is passed over. -/
theorem keeps_skip (h : Undisturbed original ⟨tree, rest ++ [(path, container)], found⟩)
    (hskip : ∀ m, tree.get? path = some m → m.stamp stamps = m ∧ m.yields stamps container = []) :
    Keeps stamps original ⟨tree, rest ++ [(path, container)], found⟩
      (State.find ⟨tree, rest, found⟩ none) := by
  apply keeps_find h none
  · rw [yieldsAt, ← h.unchanged (path, container) (by simp)]
    cases hat : tree.get? path with
    | none => rfl
    | some m => exact (hskip m hat).2
  · exact fun m hm => (hskip m hm).1

theorem keeps_visit (h : Undisturbed original ⟨tree, rest ++ [(path, container)], found⟩) :
    Keeps stamps original ⟨tree, rest ++ [(path, container)], found⟩
      (State.visit stamps path container ⟨tree, rest, found⟩) := by
  have horiginal : original.get? path = tree.get? path :=
    (h.unchanged (path, container) (by simp)).symm
  cases hat : tree.get? path with
  | none =>
    simp only [State.visit, hat]
    exact keeps_skip h (by simp [hat])
  | some n =>
    cases n with
    | text value =>
      simp only [State.visit, hat]
      apply keeps_find h (textBlock container value)
      · rw [yieldsAt, horiginal, hat, textBlock_toList stamps]
        rfl
      · intro m hm
        obtain rfl := Option.some.inj (hat.symm.trans hm)
        rfl
    | element e children =>
      cases hfate : Fate.ofElement e children with
      | yield block =>
        simp only [State.visit, hat, hfate]
        apply keeps_find h block
        · rw [yieldsAt, horiginal, hat, Option.elim_some, yields_element, hfate, Fate.yields]
        · intro m hm
          obtain rfl := Option.some.inj (hat.symm.trans hm)
          rw [Node.stamp, hfate]
      | capture kind =>
        simp only [State.visit, hat, hfate]
        exact keeps_capture h hat hfate
      | visit inner =>
        simp only [State.visit, hat, hfate]
        exact keeps_push h hat hfate
    | comment value =>
      simp only [State.visit, hat]
      exact keeps_skip h (by simp [hat, Node.stamp, Node.yields])
    | doctype name =>
      simp only [State.visit, hat]
      exact keeps_skip h (by simp [hat, Node.stamp, Node.yields])

end Visit

theorem keeps_step {stamps : Stamps} {original : Node} {s t : State}
    (h : Undisturbed original s) (hstep : s.step? stamps = some t) :
    Keeps stamps original s t := by
  obtain ⟨tree, pending, found⟩ := s
  rcases List.eq_nil_or_concat' pending with rfl | ⟨rest, ⟨path, container⟩, rfl⟩
  · simp [State.step?_nil] at hstep
  · rw [State.step?_concat] at hstep
    obtain rfl := Option.some.inj hstep
    exact keeps_visit h

theorem pending_eq_nil {stamps : Stamps} {s : State} (h : s.step? stamps = none) :
    s.pending = [] := by
  obtain ⟨tree, pending, found⟩ := s
  rcases List.eq_nil_or_concat' pending with rfl | ⟨rest, ⟨path, container⟩, rfl⟩
  · rfl
  · simp [State.step?_concat] at h

/-- A whole walk finds what its first state promised and leaves the tree that it aimed at. -/
theorem run_spec (stamps : Stamps) {original : Node} {s : State} (h : Undisturbed original s) :
    (run stamps s).pending = [] ∧
      (run stamps s).found = s.found ++ yieldsOf stamps original s.pending ∧
      (run stamps s).tree = stampPaths stamps s.tree s.pending := by
  fun_induction run stamps s with
  | case1 s hstep =>
    have hnil := pending_eq_nil hstep
    rw [hnil]
    exact ⟨rfl, (List.append_nil _).symm, rfl⟩
  | case2 s t hstep ih =>
    have hkeeps := keeps_step h hstep
    rw [← hkeeps.found_eq, ← hkeeps.tree_eq]
    exact ih hkeeps.undisturbed

/-- One state comes right before another in a walk. -/
def Steps (stamps : Stamps) (s t : State) : Prop := s.step? stamps = some t

theorem undisturbed_of_steps {stamps : Stamps} {original : Node} {s t : State}
    (h : Undisturbed original s) (hsteps : Relation.ReflTransGen (Steps stamps) s t) :
    Undisturbed original t := by
  induction hsteps with
  | refl => exact h
  | tail _ hstep ih => exact (keeps_step ih hstep).undisturbed

theorem reflTransGen_run (stamps : Stamps) (s : State) :
    Relation.ReflTransGen (Steps stamps) s (run stamps s) := by
  fun_induction run stamps s with
  | case1 s hstep => exact Relation.ReflTransGen.refl
  | case2 s t hstep ih => exact Relation.ReflTransGen.head hstep ih

/-- The walk with a stack is the recursion. The live walk comes to its end with an empty stack and has
found what the children of the container yield by recursion, which is also what the walk over the tree
as it was finds. Every node that is pending at any time still reads as it did before the walk, and
the tree that is left is the stamped one. -/
theorem walk_eq_recursion (stamps : Stamps) (self : Element) (children : List Node) :
    Relation.ReflTransGen (Steps stamps) (State.start self children)
      (run stamps (State.start self children)) ∧
    (run stamps (State.start self children)).pending = [] ∧
    (run stamps (State.start self children)).found = Node.yieldsAll stamps true children ∧
    blocksIn stamps children = Node.yieldsAll stamps true children ∧
    (∀ s, Relation.ReflTransGen (Steps stamps) (State.start self children) s →
      ∀ entry ∈ s.pending,
        s.tree.get? entry.1 = (Node.element self children).get? entry.1) ∧
    (run stamps (State.start self children)).tree =
      .element self (Node.stampAll stamps children) := by
  have hstart := undisturbed_start self children
  have hroot : (Node.element self children).get? [] = some (.element self children) := rfl
  obtain ⟨hpending, hfound, htree⟩ := run_spec stamps hstart
  refine ⟨reflTransGen_run stamps _, hpending, ?_, blocksIn_eq stamps children, ?_, ?_⟩
  · rw [hfound, State.start, yieldsOf_pushChildren hroot]
    exact List.append_nil _
  · intro s hs
    exact (undisturbed_of_steps hstart hs).unchanged
  · rw [htree, State.start, stampPaths_pushChildren hroot]
    rfl

end PageBlocks.LiveWalk
