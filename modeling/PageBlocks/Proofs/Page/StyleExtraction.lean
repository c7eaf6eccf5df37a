import PageBlocks.Page.Styles
import PageBlocks.Proofs.Markup.Links

/-!
Style sheets that are taken out of a live page. The style sheets are collected first; then each of them is
read and taken away from its parent, one after the other. A style sheet may stand inside another one and
have left the page with it when its turn comes. But no style sheet that was taken away earlier stands below
it, so it is read as it was. What the live page loses is what the recursion leaves out, and the rules are
those that the recursion finds.
-/
namespace PageBlocks

open Markup LinkedTree

namespace Markup.Arena

/-- The cells below a cell, in document order. -/
def descendants (a : Arena) (id : CellId) : List CellId :=
  (a.preorder a.cells.size (a.children id).toList []).reverse

/-- The text that a cell holds itself. -/
def ownText (a : Arena) (id : CellId) : String :=
  match a.data id with
  | .text value => value
  | _ => ""

/-- All text below a cell. -/
def textBelow (a : Arena) (id : CellId) : String :=
  (a.descendants id).foldl (fun acc id => acc ++ a.ownText id) ""

/-- Whether a cell holds a style sheet. -/
def isStyle (a : Arena) (id : CellId) : Bool :=
  match a.data id with
  | .element space tag attrs => Page.isStyle ⟨space, tag.toString, attrs⟩
  | _ => false

/-- The style sheets of the page in document order. -/
def styles (a : Arena) : List CellId := (a.descendants page).filter a.isStyle

end Markup.Arena

namespace Page

/-- A live page from which style sheets are taken, and the rules of those that have been taken. -/
structure Extraction where
  arena : Arena
  rules : List Style.Rule

/-- Read a style sheet and take it away from its parent. -/
def Extraction.take (x : Extraction) (id : CellId) : Extraction :=
  ⟨x.arena.detach id, x.rules ++ Style.parse (x.arena.textBelow id)⟩

/-- Take all style sheets out of a live page. -/
def extract (a : Arena) : Extraction := a.styles.foldl Extraction.take ⟨a, []⟩

end Page

/-! ### Style sheets in trees -/

namespace Markup.LinkedTree

mutual

/-- The style sheets in a tree in document order, with those that stand inside others. -/
def styleTrees : LinkedTree → List LinkedTree
  | .leaf _ _ => []
  | .element id space tag attrs children =>
    if Page.isStyle ⟨space, tag.toString, attrs⟩ then
      .element id space tag attrs children :: styleTreesAll children
    else styleTreesAll children

def styleTreesAll : List LinkedTree → List LinkedTree
  | [] => []
  | t :: ts => t.styleTrees ++ styleTreesAll ts

end

mutual

/-- What is left of a tree without style sheets, if anything. -/
def unstyled? : LinkedTree → Option LinkedTree
  | .leaf id self => some (.leaf id self)
  | .element id space tag attrs children =>
    if Page.isStyle ⟨space, tag.toString, attrs⟩ then none
    else some (.element id space tag attrs (unstyledAll children))

def unstyledAll : List LinkedTree → List LinkedTree
  | [] => []
  | t :: ts => t.unstyled?.toList ++ unstyledAll ts

end

variable {a : Arena}

theorem isStyle_leaf {id : CellId} {self : Leaf} (h : (leaf id self).Shown a) : a.isStyle id = false := by
  rw [Arena.isStyle, h.1]
  cases self <;> rfl

theorem isStyle_element {id : CellId} {space : Space} {tag : Tag} {attrs : Attributes}
    {children : List LinkedTree} (h : (element id space tag attrs children).Shown a) :
    a.isStyle id = Page.isStyle ⟨space, tag.toString, attrs⟩ := by
  rw [Arena.isStyle, h.1]

mutual

theorem roots_styleTrees {t : LinkedTree} (h : t.Shown a) :
    t.styleTrees.map root = t.ids.filter a.isStyle := by
  match t with
  | .leaf id self =>
    rw [ids, List.filter_cons, isStyle_leaf h]
    rfl
  | .element id space tag attrs children =>
    rw [ids, List.filter_cons, isStyle_element h, styleTrees, ← roots_styleTreesAll h.2.2]
    split <;> rfl

theorem roots_styleTreesAll {ts : List LinkedTree} (h : ShownAll a ts) :
    (styleTreesAll ts).map root = (idsAll ts).filter a.isStyle := by
  match ts with
  | [] => rfl
  | t :: ts =>
    rw [styleTreesAll, List.map_append, roots_styleTrees h.1, roots_styleTreesAll h.2, idsAll,
      List.filter_append]

end

mutual

theorem shown_of_mem_styleTrees {t s : LinkedTree} (h : t.Shown a) (hs : s ∈ t.styleTrees) :
    s.Shown a ∧ s.ids.Sublist t.ids := by
  match t with
  | .leaf id self => cases hs
  | .element id space tag attrs children =>
    have hinner (hs : s ∈ styleTreesAll children) :
        s.Shown a ∧ s.ids.Sublist (element id space tag attrs children).ids := by
      obtain ⟨hshown, hsub⟩ := shown_of_mem_styleTreesAll h.2.2 hs
      exact ⟨hshown, hsub.cons id⟩
    rw [styleTrees] at hs
    split at hs
    · rcases List.mem_cons.mp hs with rfl | hs
      · exact ⟨h, List.Sublist.refl _⟩
      · exact hinner hs
    · exact hinner hs

theorem shown_of_mem_styleTreesAll {ts : List LinkedTree} {s : LinkedTree} (h : ShownAll a ts)
    (hs : s ∈ styleTreesAll ts) : s.Shown a ∧ s.ids.Sublist (idsAll ts) := by
  match ts with
  | [] => cases hs
  | t :: ts =>
    rcases List.mem_append.mp hs with hs | hs
    · obtain ⟨hshown, hsub⟩ := shown_of_mem_styleTrees h.1 hs
      exact ⟨hshown, hsub.trans (List.sublist_append_left _ _)⟩
    · obtain ⟨hshown, hsub⟩ := shown_of_mem_styleTreesAll h.2 hs
      exact ⟨hshown, hsub.trans (List.sublist_append_right _ _)⟩

end

mutual

/-- No style sheet stands below one that comes later in document order. -/
theorem pairwise_styleTrees {t : LinkedTree} (h : t.Shown a) (hnodup : t.ids.Nodup) :
    t.styleTrees.Pairwise fun s u => s.root ∉ u.ids := by
  match t with
  | .leaf id self => exact List.Pairwise.nil
  | .element id space tag attrs children =>
    obtain ⟨hid, hnodup⟩ := List.nodup_cons.mp hnodup
    have hinner := pairwise_styleTreesAll h.2.2 hnodup
    rw [styleTrees]
    split
    · -- the others stand inside this one, so it cannot stand in them
      refine List.pairwise_cons.mpr ⟨fun u hu hmem => hid ?_, hinner⟩
      exact (shown_of_mem_styleTreesAll h.2.2 hu).2.subset hmem
    · exact hinner

theorem pairwise_styleTreesAll {ts : List LinkedTree} (h : ShownAll a ts) (hnodup : (idsAll ts).Nodup) :
    (styleTreesAll ts).Pairwise fun s u => s.root ∉ u.ids := by
  match ts with
  | [] => exact List.Pairwise.nil
  | t :: ts =>
    obtain ⟨hnodup, hnodupRest, hdisjoint⟩ := List.nodup_append.mp hnodup
    rw [styleTreesAll, List.pairwise_append]
    refine ⟨pairwise_styleTrees h.1 hnodup, pairwise_styleTreesAll h.2 hnodupRest, ?_⟩
    intro s hs u hu hmem
    have hroot := (shown_of_mem_styleTrees h.1 hs).2.subset s.root_mem_ids
    exact hdisjoint _ hroot _ ((shown_of_mem_styleTreesAll h.2 hu).2.subset hmem) rfl

end

/-! ### What the recursion finds and leaves -/

/-- The rules of the style sheets among elements. -/
def rulesAmong (elements : List (Element × List Node)) : List Style.Rule :=
  (elements.filter fun (e, _) => Page.isStyle e).flatMap fun (_, children) =>
    Style.parse (Node.textOf children)

/-- The rules that a tree has if its topmost node is a style sheet. -/
def ownRules (t : LinkedTree) : List Style.Rule := Style.parse (Node.textOf t.node.children)

theorem rulesAmong_cons (e : Element) (children : List Node) (rest : List (Element × List Node)) :
    rulesAmong ((e, children) :: rest) =
      if Page.isStyle e then Style.parse (Node.textOf children) ++ rulesAmong rest
      else rulesAmong rest := by
  by_cases hstyle : Page.isStyle e = true
  · simp [rulesAmong, hstyle]
  · simp [rulesAmong, hstyle]

mutual

theorem rulesAmong_prependElements (t : LinkedTree) (after : List (Element × List Node)) :
    rulesAmong (t.node.prependElements after) = t.styleTrees.flatMap ownRules ++ rulesAmong after := by
  match t with
  | .leaf id self =>
    cases self <;> rfl
  | .element id space tag attrs children =>
    have hinner := rulesAmong_prependElementsOf children after
    rw [node, Node.prependElements, rulesAmong_cons, hinner, styleTrees]
    split
    · rw [List.flatMap_cons, List.append_assoc]
      rfl
    · rfl

theorem rulesAmong_prependElementsOf (ts : List LinkedTree) (after : List (Element × List Node)) :
    rulesAmong (Node.prependElementsOf (nodes ts) after) =
      (styleTreesAll ts).flatMap ownRules ++ rulesAmong after := by
  match ts with
  | [] => rfl
  | t :: ts =>
    rw [nodes, Node.prependElementsOf, rulesAmong_prependElements, rulesAmong_prependElementsOf,
      styleTreesAll, List.flatMap_append, List.append_assoc]

end

theorem styleRules_nodes (ts : List LinkedTree) :
    Page.styleRules ⟨nodes ts⟩ = (styleTreesAll ts).flatMap ownRules :=
  (rulesAmong_prependElementsOf ts []).trans (List.append_nil _)

mutual

theorem node_unstyled? (t : LinkedTree) :
    nodes t.unstyled?.toList = (Page.withoutStyles? t.node).toList := by
  match t with
  | .leaf id self => cases self <;> rfl
  | .element id space tag attrs children =>
    rw [unstyled?, node, Page.withoutStyles?]
    split
    · rfl
    · rw [← nodes_unstyledAll children]
      rfl

theorem nodes_unstyledAll (ts : List LinkedTree) :
    nodes (unstyledAll ts) = Page.withoutStylesIn (nodes ts) := by
  match ts with
  | [] => rfl
  | t :: ts =>
    rw [unstyledAll, nodes_append, node_unstyled?, nodes_unstyledAll, nodes, Page.withoutStylesIn]

end

theorem styleTreesAll_append (ts us : List LinkedTree) :
    styleTreesAll (ts ++ us) = styleTreesAll ts ++ styleTreesAll us := by
  induction ts with
  | nil => rfl
  | cons t ts ih => rw [List.cons_append, styleTreesAll, styleTreesAll, ih, List.append_assoc]

mutual

theorem styleTrees_unstyled? (t : LinkedTree) : styleTreesAll t.unstyled?.toList = [] := by
  match t with
  | .leaf id self => rfl
  | .element id space tag attrs children =>
    rw [unstyled?]
    split
    · rfl
    · rename_i hstyle
      rw [Option.toList_some, styleTreesAll, styleTrees, if_neg hstyle, styleTreesAll_unstyledAll]
      rfl

theorem styleTreesAll_unstyledAll (ts : List LinkedTree) : styleTreesAll (unstyledAll ts) = [] := by
  match ts with
  | [] => rfl
  | t :: ts =>
    rw [unstyledAll, styleTreesAll_append, styleTrees_unstyled?, styleTreesAll_unstyledAll]
    rfl

end

mutual

theorem ids_unstyled?_sublist (t : LinkedTree) : (idsAll t.unstyled?.toList).Sublist t.ids := by
  match t with
  | .leaf id self => exact List.Sublist.refl _
  | .element id space tag attrs children =>
    rw [unstyled?]
    split
    · exact List.nil_sublist _
    · rw [Option.toList_some, idsAll, idsAll, List.append_nil]
      exact (ids_unstyledAll_sublist children).cons_cons id

theorem ids_unstyledAll_sublist (ts : List LinkedTree) :
    (idsAll (unstyledAll ts)).Sublist (idsAll ts) := by
  match ts with
  | [] => exact List.Sublist.refl _
  | t :: ts =>
    rw [unstyledAll, idsAll_append, idsAll]
    exact (ids_unstyled?_sublist t).append (ids_unstyledAll_sublist ts)

end

/-! ### Arenas without style sheets -/

/-- The topmost nodes that are left are those that are no style sheets. -/
theorem roots_unstyledAll {ts : List LinkedTree} (h : ShownAll a ts) :
    (unstyledAll ts).map root = (ts.map root).filter fun id => !a.isStyle id := by
  induction ts with
  | nil => rfl
  | cons t ts ih =>
    rw [unstyledAll, List.map_append, ih h.2, List.map_cons, List.filter_cons]
    cases t with
    | leaf id self =>
      rw [root, isStyle_leaf h.1]
      rfl
    | element id space tag attrs children =>
      rw [root, isStyle_element h.1, unstyled?]
      by_cases hstyle : Page.isStyle ⟨space, tag.toString, attrs⟩ = true
      · simp [hstyle]
      · simp [hstyle, root]

mutual

/-- An arena shows what is left of a tree once no cell of it has a style sheet among its children. -/
theorem Shown.unstyled? {a' : Arena} {t : LinkedTree} (h : t.Shown a)
    (hdata : ∀ id, a'.data id = a.data id)
    (hchildren : ∀ id ∈ t.ids,
      (a'.children id).toList = (a.children id).toList.filter fun child => !a.isStyle child) :
    ShownAll a' t.unstyled?.toList := by
  match t with
  | .leaf id self =>
    have hnone := hchildren id List.mem_cons_self
    rw [h.2] at hnone
    exact ⟨⟨(hdata id).trans h.1, Array.toList_eq_nil_iff.mp hnone⟩, trivial⟩
  | .element id space tag attrs children =>
    rw [LinkedTree.unstyled?]
    split
    · trivial
    · refine ⟨⟨(hdata id).trans h.1, ?_, ?_⟩, trivial⟩
      · rw [hchildren id List.mem_cons_self, h.2.1, roots_unstyledAll h.2.2]
      · exact ShownAll.unstyledAll h.2.2 hdata fun child hchild =>
          hchildren child (List.mem_cons_of_mem _ hchild)

theorem ShownAll.unstyledAll {a' : Arena} {ts : List LinkedTree} (h : ShownAll a ts)
    (hdata : ∀ id, a'.data id = a.data id)
    (hchildren : ∀ id ∈ idsAll ts,
      (a'.children id).toList = (a.children id).toList.filter fun child => !a.isStyle child) :
    ShownAll a' (unstyledAll ts) := by
  match ts with
  | [] => trivial
  | t :: ts =>
    rw [LinkedTree.unstyledAll, shownAll_append]
    exact ⟨Shown.unstyled? h.1 hdata fun id hid => hchildren id (List.mem_append_left _ hid),
      ShownAll.unstyledAll h.2 hdata fun id hid => hchildren id (List.mem_append_right _ hid)⟩

end

end Markup.LinkedTree

namespace Markup.Arena

variable {a : Arena}

theorem descendants_of_shown {ts : List LinkedTree} {id : CellId} (h : ShownAll a ts)
    (hroots : (a.children id).toList = ts.map LinkedTree.root)
    (hlength : (idsAll ts).length ≤ a.cells.size) : a.descendants id = idsAll ts := by
  rw [descendants, hroots, preorder_of_shown h hlength, List.reverse_reverse]

theorem Holds.descendants {ts : List LinkedTree} (h : a.Holds ts) : a.descendants page = idsAll ts :=
  descendants_of_shown h.shown h.roots (length_le_size h.nodup h.lt_size)

theorem Holds.styles {ts : List LinkedTree} (h : a.Holds ts) :
    a.styles = (styleTreesAll ts).map LinkedTree.root := by
  rw [Arena.styles, h.descendants, roots_styleTreesAll h.shown]

mutual

theorem foldl_ownText_tree {t : LinkedTree} (h : t.Shown a) (acc : String) :
    t.ids.foldl (fun acc id => acc ++ a.ownText id) acc = t.node.appendText acc := by
  match t with
  | .leaf id self =>
    rw [LinkedTree.ids, List.foldl_cons, List.foldl_nil, ownText, h.1]
    cases self with
    | text value => rfl
    | comment value => exact String.append_empty
    | doctype name => exact String.append_empty
  | .element id space tag attrs children =>
    rw [LinkedTree.ids, List.foldl_cons, ownText, h.1, String.append_empty,
      foldl_ownText_trees h.2.2]
    rfl

theorem foldl_ownText_trees {ts : List LinkedTree} (h : ShownAll a ts) (acc : String) :
    (idsAll ts).foldl (fun acc id => acc ++ a.ownText id) acc = Node.appendTexts acc (nodes ts) := by
  match ts with
  | [] => rfl
  | t :: ts =>
    rw [idsAll, List.foldl_append, foldl_ownText_tree h.1, foldl_ownText_trees h.2, nodes,
      Node.appendTexts]

end

/-- The text below the topmost node of a tree. -/
theorem textBelow_root {t : LinkedTree} (h : t.Shown a) (hlength : t.ids.length ≤ a.cells.size) :
    a.textBelow t.root = Node.textOf t.node.children := by
  match t with
  | .leaf id self =>
    have hbelow : a.descendants id = idsAll [] :=
      descendants_of_shown trivial (congrArg Array.toList h.2) (Nat.zero_le _)
    rw [textBelow, LinkedTree.root, hbelow]
    cases self <;> rfl
  | .element id space tag attrs children =>
    rw [textBelow, LinkedTree.root, descendants_of_shown h.2.2 h.2.1 (Nat.le_of_succ_le hlength),
      foldl_ownText_trees h.2.2]
    rfl

/-- A tree stays as it is when a cell outside it is taken away. -/
theorem Linked.shown_detach (hlinked : a.Linked) {t : LinkedTree} (h : t.Shown a) {id : CellId}
    (hid : id ∉ t.ids) : t.Shown (a.detach id) := by
  apply h.congr
  intro other hother
  refine ⟨hlinked.data_detach id other, ?_⟩
  rw [hlinked.children_detach, Array.filter_eq_self]
  intro child hchild
  rw [bne_iff_ne]
  rintro rfl
  exact hid (h.mem_ids_of_mem_children hother (Array.mem_toList_iff.mpr hchild))

end Markup.Arena

namespace Page

/-- Style sheets none of which stands below a later one are read as they were, whatever has been taken away
before. -/
theorem foldl_take {trees : List LinkedTree} {x : Extraction} (hlinked : x.arena.Linked)
    (hshown : ∀ t ∈ trees, t.Shown x.arena) (hlength : ∀ t ∈ trees, t.ids.length ≤ x.arena.cells.size)
    (hapart : trees.Pairwise fun s t => s.root ∉ t.ids) :
    (trees.map LinkedTree.root).foldl Extraction.take x =
      ⟨x.arena.detachAll (trees.map LinkedTree.root), x.rules ++ trees.flatMap ownRules⟩ := by
  induction trees generalizing x with
  | nil =>
    rw [List.flatMap_nil, List.append_nil]
    rfl
  | cons t trees ih =>
    rw [List.forall_mem_cons] at hshown hlength
    obtain ⟨hroot, hapart⟩ := List.pairwise_cons.mp hapart
    rw [List.map_cons, List.foldl_cons, ih (hlinked.detach t.root)]
    · rw [Extraction.take, Arena.textBelow_root hshown.1 hlength.1, List.flatMap_cons,
        ← List.append_assoc]
      rfl
    · -- the first one may have had others in it, but those are trees as before
      exact fun u hu => hlinked.shown_detach (hshown.2 u hu) (hroot u hu)
    · intro u hu
      rw [Extraction.take, Arena.size_detach]
      exact hlength.2 u hu
    · exact hapart

theorem extract_eq {a : Arena} {ts : List LinkedTree} (h : a.Holds ts) :
    extract a = ⟨a.detachAll a.styles, (styleTreesAll ts).flatMap ownRules⟩ := by
  have hshown : ∀ t ∈ styleTreesAll ts, t.Shown a := fun t ht =>
    (shown_of_mem_styleTreesAll h.shown ht).1
  have hlength : ∀ t ∈ styleTreesAll ts, t.ids.length ≤ a.cells.size := fun t ht =>
    Nat.le_trans (shown_of_mem_styleTreesAll h.shown ht).2.length_le
      (Arena.length_le_size h.nodup h.lt_size)
  rw [extract, h.styles, foldl_take h.linked hshown hlength (pairwise_styleTreesAll h.shown h.nodup)]
  rfl

/-- What is left in the arena is what is left of the trees. -/
theorem holds_unstyledAll {a : Arena} {ts : List LinkedTree} (h : a.Holds ts) :
    (a.detachAll a.styles).Holds (unstyledAll ts) := by
  -- below the page, to have been taken away is to be a style sheet
  have hmem : ∀ id ∈ idsAll ts, id ∉ a.styles ↔ a.isStyle id = false := by
    intro id hid
    rw [Arena.styles, h.descendants, List.mem_filter, not_and, Bool.not_eq_true]
    exact ⟨fun himp => himp hid, fun hstyle _ => hstyle⟩
  have hchildren : ∀ id, (∀ child ∈ (a.children id).toList, child ∈ idsAll ts) →
      ((a.detachAll a.styles).children id).toList =
        (a.children id).toList.filter fun child => !a.isStyle child := by
    intro id hchild
    rw [h.linked.children_detachAll, Array.toList_filter]
    apply List.filter_congr
    intro child hin
    rw [Bool.eq_iff_iff, decide_eq_true_iff, hmem child (hchild child hin), Bool.not_eq_true']
  constructor
  · exact h.linked.detachAll _
  · exact h.shown.unstyledAll (h.linked.data_detachAll _) fun id hid =>
      hchildren id fun child hchild => h.shown.mem_idsAll_of_mem_children hid hchild
  · rw [hchildren Arena.page, h.roots, roots_unstyledAll h.shown]
    rw [h.roots]
    exact fun child hchild => (roots_sublist ts).subset hchild
  · exact h.nodup.sublist (ids_unstyledAll_sublist ts)
  · intro id hid
    rw [Arena.size_detachAll]
    exact h.lt_size id ((ids_unstyledAll_sublist ts).subset hid)

/-- Every page stands in the cells of an arena. Whichever arena it is, in what is left no style sheet is
found any more; it is the page without its style sheets, and the rules are those of the style sheets of the
page in document order. The cells of the style sheets have lost their parents and have been struck from
all lists of children, and no cell has changed otherwise. -/
theorem extract_eq_recursion (d : Document) :
    ((Arena.ofDocument d).IsPage ∧ (Arena.ofDocument d).toDocument = d) ∧
    ∀ a : Arena, a.IsPage → a.toDocument = d →
      (extract a).arena.IsPage ∧ (extract a).arena.styles = [] ∧
        (extract a).arena.toDocument = withoutStyles d ∧ (extract a).rules = styleRules d ∧
        ∀ id, (extract a).arena.cell id =
          ⟨a.data id, if id ∈ a.styles then none else a.parent? id,
            (a.children id).filter fun child => child ∉ a.styles, a.contents? id⟩ := by
  constructor
  · obtain ⟨ts, hnodes, h⟩ := Arena.exists_holds_ofDocument d
    refine ⟨⟨ts, h⟩, ?_⟩
    rw [h.toDocument, hnodes]
  · rintro a ⟨ts, h⟩ hdocument
    have hleft := holds_unstyledAll h
    obtain rfl : d = ⟨nodes ts⟩ := hdocument.symm.trans h.toDocument
    rw [extract_eq h]
    refine ⟨⟨_, hleft⟩, ?_, ?_, (styleRules_nodes ts).symm, h.linked.cell_detachAll _⟩
    · rw [hleft.styles, styleTreesAll_unstyledAll]
      rfl
    · rw [hleft.toDocument, nodes_unstyledAll]
      rfl

/-- A style sheet in a drawing with another one inside it, before a style sheet of the page. -/
def nestedStyles : Document := ⟨[
  .element ⟨.svg, "svg", []⟩ [
    .element ⟨.svg, "style", []⟩ [
      .text ".a\x7bb:c\x7d",
      .element ⟨.svg, "g", []⟩ [.element ⟨.svg, "style", []⟩ [.text ".d\x7be:f\x7d"]]],
    .comment "drawn"],
  .element ⟨.html, "style", []⟩ [.text "p\x7bm:0\x7d"],
  .element ⟨.html, "p", []⟩ [.text "shown"]]⟩

/-- The inner style sheet is read twice, with the outer one and by itself. -/
theorem extract_nestedStyles :
    (extract (Arena.ofDocument nestedStyles)).rules =
        [⟨[".a"], "b:c", false⟩, ⟨[".d"], "e:f", false⟩, ⟨[".d"], "e:f", false⟩, ⟨["p"], "m:0", false⟩] ∧
      (extract (Arena.ofDocument nestedStyles)).arena.toDocument =
        ⟨[.element ⟨.svg, "svg", []⟩ [.comment "drawn"], .element ⟨.html, "p", []⟩ [.text "shown"]]⟩ := by
  obtain ⟨⟨hpage, hsame⟩, hextract⟩ := extract_eq_recursion nestedStyles
  obtain ⟨-, -, hleft, hrules, -⟩ := hextract (Arena.ofDocument nestedStyles) hpage hsame
  constructor
  · rw [hrules]
    decide +kernel
  · rw [hleft]
    rfl

end Page

end PageBlocks
