import PageBlocks.Markup.Node
import Mathlib.Data.List.Basic

/-!
Paths in a tree. A path is the way down to a node, written as the indices of the children that are
passed. A change at the end of one path is not seen from a path apart from it, that is, from one that
neither continues it nor is continued by it.
-/
namespace PageBlocks.Markup

/-- The indices of the children on the way down to a node. -/
abbrev Path := List Nat

namespace Path

/-- Neither path continues the other. -/
def Apart (p q : Path) : Prop := ¬ p <+: q ∧ ¬ q <+: p

theorem Apart.symm {p q : Path} (h : Apart p q) : Apart q p := ⟨h.2, h.1⟩

theorem Apart.tail {i : Nat} {p q : Path} (h : Apart (i :: p) (i :: q)) : Apart p q := by
  simpa only [Apart, List.cons_prefix_cons, true_and] using h

theorem Apart.child {p q : Path} (h : Apart p q) (i : Nat) : Apart (p ++ [i]) q := by
  constructor
  · intro hpre
    exact h.1 ((List.prefix_append p [i]).trans hpre)
  · intro hpre
    rcases List.prefix_concat_iff.mp (by simpa using hpre) with heq | hle
    · exact h.1 (heq ▸ List.prefix_append p [i])
    · exact h.2 hle

theorem apart_children (p : Path) {i j : Nat} (h : i ≠ j) : Apart (p ++ [i]) (p ++ [j]) := by
  constructor
  · intro hpre
    have heq := hpre.eq_of_length (by simp)
    simp [h] at heq
  · intro hpre
    have heq := hpre.eq_of_length (by simp)
    simp [h.symm] at heq

end Path

namespace Node

/-- Change the list of the children. -/
def mapChildren (f : List Node → List Node) : Node → Node
  | element self children => element self (f children)
  | n => n

/-- The node at the end of a path. -/
def get? (n : Node) : Path → Option Node
  | [] => some n
  | i :: rest => n.children[i]?.bind fun child => child.get? rest

/-- The node at a path in a list of trees. -/
def getIn? (ns : List Node) : Path → Option Node
  | [] => none
  | i :: p => ns[i]?.bind fun n => n.get? p

/-- Change the node at the end of a path. -/
def modifyAt (f : Node → Node) : Path → Node → Node
  | [], n => f n
  | i :: rest, n => n.mapChildren fun children => children.modify i (modifyAt f rest)

theorem children_modifyAt_cons (f : Node → Node) (i : Nat) (rest : Path) (n : Node) :
    (n.modifyAt f (i :: rest)).children = n.children.modify i (modifyAt f rest) := by
  cases n <;> simp [modifyAt, mapChildren, children]

theorem get?_append (n : Node) (p q : Path) :
    n.get? (p ++ q) = (n.get? p).bind fun m => m.get? q := by
  induction p generalizing n with
  | nil => rfl
  | cons i rest ih =>
    simp only [List.cons_append, get?, Option.bind_assoc]
    congr 1
    funext child
    exact ih child

theorem get?_child {n m : Node} {p : Path} (h : n.get? p = some m) (i : Nat) :
    n.get? (p ++ [i]) = m.children[i]? := by
  rw [get?_append, h, Option.bind_some, get?]
  simp only [get?, Option.bind_fun_some]

theorem modifyAt_append (f : Node → Node) (p q : Path) (n : Node) :
    n.modifyAt f (p ++ q) = n.modifyAt (modifyAt f q) p := by
  induction p generalizing n with
  | nil => rfl
  | cons i rest ih =>
    simp only [List.cons_append, modifyAt]
    congr 1
    funext children
    congr 1
    funext child
    exact ih child

theorem get?_modifyAt_self (f : Node → Node) (p : Path) (n : Node) :
    (n.modifyAt f p).get? p = (n.get? p).map f := by
  induction p generalizing n with
  | nil => rfl
  | cons i rest ih =>
    rw [get?, children_modifyAt_cons, List.getElem?_modify_eq, get?]
    cases n.children[i]? with
    | none => rfl
    | some child => exact ih child

theorem get?_modifyAt_of_apart (f : Node → Node) {p q : Path} (h : p.Apart q) (n : Node) :
    (n.modifyAt f p).get? q = n.get? q := by
  induction p generalizing n q with
  | nil => exact absurd List.nil_prefix h.1
  | cons i p ih =>
    cases q with
    | nil => exact absurd List.nil_prefix h.2
    | cons j q =>
      rw [get?, children_modifyAt_cons, get?]
      by_cases hij : i = j
      · subst hij
        rw [List.getElem?_modify_eq]
        cases n.children[i]? with
        | none => rfl
        | some child => exact ih h.tail child
      · rw [List.getElem?_modify_ne _ _ hij]

/-- Only what a change does to the node at the end of the path counts, if there is one. -/
theorem modifyAt_congr {f g : Node → Node} {p : Path} {n : Node}
    (h : ∀ m, n.get? p = some m → f m = g m) : n.modifyAt f p = n.modifyAt g p := by
  induction p generalizing n with
  | nil => exact h n rfl
  | cons i rest ih =>
    cases n with
    | element self children =>
      simp only [modifyAt, mapChildren]
      congr 1
      apply List.ext_getElem?
      intro j
      by_cases hij : i = j
      · subst hij
        rw [List.getElem?_modify_eq, List.getElem?_modify_eq]
        cases hchild : children[i]? with
        | none => rfl
        | some child =>
          have hrest : ∀ m, child.get? rest = some m → f m = g m := by
            intro m hm
            apply h m
            rw [get?, Node.children, hchild, Option.bind_some, hm]
          exact congrArg some (ih hrest)
      · rw [List.getElem?_modify_ne _ _ hij, List.getElem?_modify_ne _ _ hij]
    | text value => rfl
    | comment value => rfl
    | doctype name => rfl

theorem modifyAt_self (p : Path) (n : Node) : n.modifyAt (fun m => m) p = n := by
  induction p generalizing n with
  | nil => rfl
  | cons i rest ih =>
    have hid : modifyAt (fun m => m) rest = fun m => m := funext ih
    cases n with
    | element self children =>
      rw [modifyAt, mapChildren, hid]
      congr 1
      exact List.modify_id i children
    | text value => rfl
    | comment value => rfl
    | doctype name => rfl

/-- A change that leaves the node at the end of the path alone leaves the tree alone. -/
theorem modifyAt_of_fixed {f : Node → Node} {p : Path} {n : Node}
    (h : ∀ m, n.get? p = some m → f m = m) : n.modifyAt f p = n := by
  rw [modifyAt_congr h, modifyAt_self]

theorem modifyAt_modifyAt (f g : Node → Node) (p : Path) (n : Node) :
    (n.modifyAt g p).modifyAt f p = n.modifyAt (fun m => f (g m)) p := by
  induction p generalizing n with
  | nil => rfl
  | cons i rest ih =>
    cases n with
    | element self children =>
      simp only [modifyAt, mapChildren]
      congr 1
      rw [List.modify_modify_eq]
      congr 1
      funext child
      exact ih child
    | text value => rfl
    | comment value => rfl
    | doctype name => rfl

theorem getElem?_foldl_modify (f : Node → Node) (ns : List Node) (count j : Nat) :
    ((List.range count).foldl (fun ns i => ns.modify i f) ns)[j]? =
      if j < count then ns[j]?.map f else ns[j]? := by
  induction count with
  | zero => simp
  | succ count ih =>
    rw [List.range_succ, List.foldl_append, List.foldl_cons, List.foldl_nil]
    by_cases hj : count = j
    · subst hj
      rw [List.getElem?_modify_eq, ih, if_neg (by omega), if_pos (by omega)]
      rfl
    · rw [List.getElem?_modify_ne _ _ hj, ih]
      by_cases hlt : j < count
      · rw [if_pos hlt, if_pos (by omega)]
      · rw [if_neg hlt, if_neg (by omega)]

/-- To change each child in turn is to change all of them. -/
theorem foldl_modifyAt_children (f : Node → Node) (self : Element) (children : List Node) :
    (List.range children.length).foldl (fun n i => n.modifyAt f [i]) (element self children) =
      element self (children.map f) := by
  have hall : ∀ (is : List Nat) (ns : List Node),
      is.foldl (fun n i => n.modifyAt f [i]) (element self ns) =
        element self (is.foldl (fun ns i => ns.modify i f) ns) := by
    intro is
    induction is with
    | nil => intro ns; rfl
    | cons i is ih => intro ns; exact ih _
  rw [hall]
  congr 1
  apply List.ext_getElem?
  intro j
  rw [getElem?_foldl_modify, List.getElem?_map]
  by_cases hj : j < children.length
  · rw [if_pos hj]
  · rw [if_neg hj, List.getElem?_eq_none (by omega)]
    rfl

/-- Changes of the node at one path add up. -/
theorem foldl_modifyAt {α : Type} (g : α → Node → Node) (p : Path) (as : List α) (n : Node) :
    as.foldl (fun n a => n.modifyAt (g a) p) n =
      n.modifyAt (fun m => as.foldl (fun m a => g a m) m) p := by
  induction as generalizing n with
  | nil => exact (modifyAt_self p n).symm
  | cons a as ih => rw [List.foldl_cons, ih, modifyAt_modifyAt]; rfl

end Node

end PageBlocks.Markup
