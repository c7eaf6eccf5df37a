import Mathlib.Data.List.Basic

/-!
Texts that stand in another text in their order. Each has a place, the places grow, and none of the texts
begins before those in front of it have ended, so nothing of the text that they stand in is told twice.
-/
namespace PageBlocks.Text

/-- A text stands at its place in another. -/
def StandsAt (cs : List Char) (x : Nat × List Char) : Prop :=
  ∃ front back, cs = front ++ (x.2 ++ back) ∧ front.length = x.1

/-- Texts with their places in another one, which grow so that each text begins where the last has ended, or
behind that. -/
structure Placed (cs : List Char) (placed : List (Nat × List Char)) : Prop where
  stands : ∀ x ∈ placed, StandsAt cs x
  ordered : placed.Pairwise fun x y => x.1 < y.1 ∧ x.1 + x.2.length ≤ y.1

/-- The parts stand in a text one behind the other. -/
def StandInOrder (cs : List Char) (parts : List (List Char)) : Prop :=
  ∃ placed, Placed cs placed ∧ placed.map Prod.snd = parts

/-- Move texts to later places. -/
def later (n : Nat) (placed : List (Nat × List Char)) : List (Nat × List Char) :=
  placed.map fun x => (n + x.1, x.2)

variable {cs ds part : List Char} {parts parts' : List (List Char)} {placed placed' : List (Nat × List Char)}

theorem map_snd_later (n : Nat) (placed : List (Nat × List Char)) :
    (later n placed).map Prod.snd = placed.map Prod.snd := by
  rw [later, List.map_map]
  rfl

namespace StandsAt

variable {x : Nat × List Char}

theorem end_le (h : StandsAt cs x) : x.1 + x.2.length ≤ cs.length := by
  obtain ⟨front, back, rfl, hfront⟩ := h
  rw [← hfront, List.length_append, List.length_append]
  omega

theorem drop_eq (h : StandsAt cs x) : cs.drop x.1 = x.2 ++ cs.drop (x.1 + x.2.length) := by
  obtain ⟨front, back, rfl, hfront⟩ := h
  rw [← hfront, ← List.drop_drop, List.drop_left, List.drop_left]

theorem append (h : StandsAt cs x) (ds : List Char) : StandsAt (cs ++ ds) x := by
  obtain ⟨front, back, rfl, hfront⟩ := h
  exact ⟨front, back ++ ds, by simp only [List.append_assoc], hfront⟩

theorem prepend (h : StandsAt cs x) (ds : List Char) : StandsAt (ds ++ cs) (ds.length + x.1, x.2) := by
  obtain ⟨front, back, rfl, hfront⟩ := h
  exact ⟨ds ++ front, back, (List.append_assoc _ _ _).symm, by rw [List.length_append, hfront]⟩

end StandsAt

namespace Placed

theorem append (h : Placed cs placed) (ds : List Char) : Placed (cs ++ ds) placed :=
  ⟨fun x hx => (h.stands x hx).append ds, h.ordered⟩

theorem prepend (h : Placed cs placed) (ds : List Char) : Placed (ds ++ cs) (later ds.length placed) where
  stands := by
    intro x hx
    obtain ⟨y, hy, rfl⟩ := List.mem_map.mp hx
    exact (h.stands y hy).prepend ds
  ordered := by
    refine List.pairwise_map.mpr (h.ordered.imp fun hxy => ?_)
    dsimp only
    omega

/-- Texts in the front of a text come before texts that begin behind it. -/
theorem concat (h : Placed cs placed) (h' : Placed ds placed') (c : Char) :
    Placed (cs ++ c :: ds) (placed ++ later (cs.length + 1) placed') := by
  have hbehind := h'.prepend (cs ++ [c])
  rw [List.length_append, List.length_singleton, List.append_assoc, List.singleton_append] at hbehind
  refine ⟨List.forall_mem_append.mpr ⟨(h.append (c :: ds)).stands, hbehind.stands⟩, ?_⟩
  refine List.pairwise_append.mpr ⟨h.ordered, hbehind.ordered, fun x hx y hy => ?_⟩
  obtain ⟨z, -, rfl⟩ := List.mem_map.mp hy
  have hend := (h.stands x hx).end_le
  dsimp only
  omega

/-- Texts at places from some place on make up no more than the rest of the text from there. -/
theorem flatten_sublist (h : Placed cs placed) {n : Nat} (hn : ∀ x ∈ placed, n ≤ x.1) :
    (placed.map Prod.snd).flatten.Sublist (cs.drop n) := by
  induction placed generalizing n with
  | nil => exact List.nil_sublist _
  | cons x placed ih =>
    obtain ⟨hx, hstands⟩ := List.forall_mem_cons.mp h.stands
    obtain ⟨hbehind, hordered⟩ := List.pairwise_cons.mp h.ordered
    have hrest := ih ⟨hstands, hordered⟩ fun y hy => (hbehind y hy).2
    rw [List.map_cons, List.flatten_cons]
    refine List.Sublist.trans ?_ (List.drop_sublist_drop_left cs (hn x List.mem_cons_self))
    rw [hx.drop_eq]
    exact (List.Sublist.refl _).append hrest

end Placed

namespace StandInOrder

theorem nil (cs : List Char) : StandInOrder cs [] := ⟨[], ⟨List.forall_mem_nil _, .nil⟩, rfl⟩

theorem singleton (hsub : part <:+: cs) : StandInOrder cs [part] := by
  obtain ⟨front, back, rfl⟩ := hsub
  refine ⟨[(front.length, part)], ⟨List.forall_mem_singleton.mpr ?_, List.pairwise_singleton _ _⟩, rfl⟩
  exact ⟨front, back, List.append_assoc _ _ _, rfl⟩

/-- Behind a text that is not empty there is a place for an empty one. -/
theorem pair (hsub : part <:+: cs) (hne : part ≠ []) : StandInOrder cs [part, []] := by
  obtain ⟨front, back, rfl⟩ := hsub
  have hpos := List.length_pos_iff.mpr hne
  refine ⟨[(front.length, part), ((front ++ part ++ back).length, [])], ⟨?_, List.pairwise_pair.mpr ?_⟩, rfl⟩
  · refine List.forall_mem_cons.mpr ⟨⟨front, back, List.append_assoc _ _ _, rfl⟩, ?_⟩
    exact List.forall_mem_singleton.mpr ⟨front ++ part ++ back, [], (List.append_nil _).symm, rfl⟩
  · simp only [List.length_append]
    omega

theorem of_suffix (h : StandInOrder cs parts) (hsuffix : cs <:+ ds) : StandInOrder ds parts := by
  obtain ⟨placed, hplaced, rfl⟩ := h
  obtain ⟨front, rfl⟩ := hsuffix
  exact ⟨_, hplaced.prepend front, map_snd_later _ _⟩

theorem of_inside (h : StandInOrder cs parts) (hinside : cs <:+: ds) : StandInOrder ds parts := by
  obtain ⟨front, back, rfl⟩ := hinside
  obtain ⟨placed, hplaced, rfl⟩ := h.of_suffix (List.suffix_append front cs)
  exact ⟨placed, hplaced.append back, rfl⟩

/-- What stands in two texts stands in them one behind the other, with a character between them. -/
theorem concat (h : StandInOrder cs parts) (h' : StandInOrder ds parts') (c : Char) :
    StandInOrder (cs ++ c :: ds) (parts ++ parts') := by
  obtain ⟨placed, hplaced, rfl⟩ := h
  obtain ⟨placed', hplaced', rfl⟩ := h'
  exact ⟨_, hplaced.concat hplaced' c, by rw [List.map_append, map_snd_later]⟩

theorem flatten_sublist (h : StandInOrder cs parts) : parts.flatten.Sublist cs := by
  obtain ⟨placed, hplaced, rfl⟩ := h
  exact hplaced.flatten_sublist fun x _ => Nat.zero_le x.1

end StandInOrder

end PageBlocks.Text
