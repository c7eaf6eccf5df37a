import PageBlocks.Proofs.Elementor.Items
import PageBlocks.Proofs.Id.Issuing
import PageBlocks.Proofs.Image.Placing
import PageBlocks.Proofs.Json.Sorted

/-!
The tree of a page for Elementor. It is empty if there is nothing but text that stands by itself; else it
is one section with one column, which has the widgets of the blocks in their order. The ids in it are the
next ones of the issuer, as many as there are elements.
-/
namespace PageBlocks

open Image

namespace Block

/-- Text that stands by itself. -/
def isPlainText {ι : Type} : Block ι → Bool
  | .plainText _ => true
  | _ => false

theorem isPlainText_unplaced (b : Block Placed) : (unplaced b).isPlainText = b.isPlainText := by
  cases b <;> rfl

end Block

/-! ### Ids in a tree -/

namespace Json

mutual

/-- The ids of the elements of a tree. -/
def elementIds : Json → List String
  | arr items => elementIdsIn items
  | obj fields => elementIdsAmong fields
  | _ => []

def elementIdsIn : List Json → List String
  | [] => []
  | item :: rest => item.elementIds ++ elementIdsIn rest

/-- An element has its own id and the elements that stand inside; its settings have none. -/
def elementIdsAmong : List (String × Json) → List String
  | [] => []
  | (key, value) :: rest =>
    (if key = "id" then value.asText?.toList
      else if key = "elements" then value.elementIds else []) ++ elementIdsAmong rest

end

theorem elementIdsIn_eq (items : List Json) : elementIdsIn items = items.flatMap elementIds := by
  induction items with
  | nil => rfl
  | cons item items ih => rw [elementIdsIn, ih, List.flatMap_cons]

theorem elementIdsAmong_eq (fields : Fields) :
    elementIdsAmong fields = fields.flatMap fun field =>
      if field.1 = "id" then field.2.asText?.toList
      else if field.1 = "elements" then field.2.elementIds else [] := by
  induction fields with
  | nil => rfl
  | cons field fields ih => rw [elementIdsAmong, ih, List.flatMap_cons]

theorem elementIds_sortedObj {fields : Fields} (h : (fields.map (·.1)).Nodup) :
    (sortedObj fields).elementIds.Perm (elementIdsAmong fields) := by
  rw [sortedObj, elementIds, elementIdsAmong_eq, elementIdsAmong_eq]
  exact (Fields.sorted_perm h).flatMap_right _

end Json

namespace Elementor

/-- The ids of a page in the order in which they are drawn. -/
def idsOf : Option Page → List String
  | some p => p.widgets.map (·.id) ++ [p.columnId, p.sectionId]
  | none => []

theorem elementIds_widget (w : Widget) : w.toJson.elementIds.Perm [w.id] := by
  have hkeys : (["id", "elType", "widgetType", "settings", "elements"] : List String).Nodup := by
    decide
  exact Json.elementIds_sortedObj hkeys

/-- An element that holds others has their ids beside its own. -/
theorem elementIds_holder (id kind : String) (settings inner : Json) (items : List Json) :
    (Json.sortedObj [("id", .str id), ("elType", .str kind), ("settings", settings),
      ("elements", .arr items), ("isInner", inner)]).elementIds.Perm
      (id :: items.flatMap Json.elementIds) := by
  have hkeys : (["id", "elType", "settings", "elements", "isInner"] : List String).Nodup := by decide
  rw [← Json.elementIdsIn_eq]
  refine List.Perm.trans (Json.elementIds_sortedObj ?_) (.of_eq ?_)
  · exact hkeys
  · simp [Json.elementIdsAmong, Json.elementIds, Json.asText?]

theorem elementIds_column (p : Page) :
    p.columnJson.elementIds.Perm (p.columnId :: p.widgets.map (·.id)) := by
  refine (elementIds_holder ..).trans (.cons _ ?_)
  rw [List.flatMap_map, List.map_eq_flatMap]
  exact .flatMap_left _ fun w _ => elementIds_widget w

/-- The ids in the tree of a page are those that were drawn for it. -/
theorem elementIds_optJson (p : Option Page) : (Page.optJson p).elementIds.Perm (idsOf p) := by
  cases p with
  | none => exact .nil
  | some p =>
    have hsection : (Page.optJson (some p)).elementIds.Perm
        (p.sectionId :: p.columnJson.elementIds) := by
      rw [Page.optJson, Page.toJson, Json.elementIds, Json.elementIdsIn_eq, List.flatMap_singleton,
        ← List.flatMap_singleton Json.elementIds p.columnJson]
      exact elementIds_holder ..
    have hdrawn : (idsOf (some p)).Perm ([p.columnId, p.sectionId] ++ p.widgets.map (·.id)) :=
      List.perm_append_comm
    exact (hsection.trans ((elementIds_column p).cons _)).trans
      ((List.Perm.swap ..).trans hdrawn.symm)

/-! ### The ids that a page draws -/

/-- How many ids the blocks of a page need: one for each widget and, if there are any, one for the column
and one for the section. -/
def idCount {ι : Type} (blocks : List (Block ι)) : Nat :=
  let widgets := blocks.countP (!·.isPlainText)
  if widgets = 0 then 0 else widgets + 2

theorem idCount_map_unplaced (blocks : List (Block Placed)) :
    idCount (blocks.map unplaced) = idCount blocks := by
  have hcount : (blocks.map unplaced).countP (!·.isPlainText) =
      blocks.countP (!·.isPlainText) := by
    rw [List.countP_map]
    exact List.countP_congr fun b _ => by rw [Function.comp, Block.isPlainText_unplaced]
  rw [idCount, idCount, hcount]

variable {ρ : Type}

theorem widgetsFrom_cons (words : WordSource ρ) (done : List Widget) (ids : IdIssuer ρ)
    (kind : String) (settings : Json.Fields) (rest : List (String × Json.Fields)) :
    widgetsFrom words done ids ((kind, settings) :: rest) =
      widgetsFrom words (⟨(ids.next words).1, kind, settings⟩ :: done) (ids.next words).2 rest := rfl

/-- Each content takes the next id. -/
theorem ids_widgetsFrom (words : WordSource ρ) (done : List Widget) (ids : IdIssuer ρ)
    (contents : List (String × Json.Fields)) :
    (widgetsFrom words done ids contents).1.map (·.id) =
        done.reverse.map (·.id) ++ (ids.take words contents.length).1 ∧
      (widgetsFrom words done ids contents).2 = (ids.take words contents.length).2 := by
  induction contents generalizing done ids with
  | nil => exact ⟨(List.append_nil _).symm, rfl⟩
  | cons content contents ih =>
    obtain ⟨kind, settings⟩ := content
    obtain ⟨hwidgets, hrest⟩ := ih (⟨(ids.next words).1, kind, settings⟩ :: done) (ids.next words).2
    rw [widgetsFrom_cons, List.length_cons, IdIssuer.take_succ, hwidgets, hrest, List.reverse_cons,
      List.map_append, List.append_assoc]
    exact ⟨rfl, rfl⟩

theorem length_contents (style : HeadingLook) (blocks : List (Block Placed)) :
    (blocks.filterMap (content? style)).length = blocks.countP (!·.isPlainText) := by
  rw [List.length_filterMap_eq_countP]
  refine List.countP_congr fun b _ => ?_
  cases b <;> simp [content?, Block.isPlainText]

/-- The column and the section take their ids behind the widgets, if there are any. -/
theorem page_eq (words : WordSource ρ) (style : HeadingLook) (ids : IdIssuer ρ)
    (blocks : List (Block Placed)) :
    let drawn := widgetsFrom words [] ids (blocks.filterMap (content? style))
    page words style ids blocks =
      if drawn.1.isEmpty then (none, drawn.2)
      else
        let column := drawn.2.next words
        let part := column.2.next words
        (some ⟨part.1, column.1, drawn.1⟩, part.2) := rfl

/-- A page takes the next ids, as many as it needs. -/
theorem ids_page (words : WordSource ρ) (style : HeadingLook) (ids : IdIssuer ρ)
    (blocks : List (Block Placed)) :
    (idsOf (page words style ids blocks).1, (page words style ids blocks).2) =
      ids.take words (idCount blocks) := by
  obtain ⟨hids, hafter⟩ := ids_widgetsFrom words [] ids (blocks.filterMap (content? style))
  rw [length_contents] at hids hafter
  rw [page_eq]
  generalize widgetsFrom words [] ids (blocks.filterMap (content? style)) = drawn at *
  obtain ⟨ws, rest⟩ := drawn
  have hlength : ws.length = blocks.countP (!·.isPlainText) := by
    have hsame := congrArg List.length hids
    simpa only [List.length_map, List.reverse_nil, List.map_nil, List.nil_append,
      IdIssuer.length_take] using hsame
  cases ws with
  | nil =>
    have hcount : idCount blocks = 0 := if_pos hlength.symm
    rw [← hlength] at hafter
    rw [hcount]
    exact Prod.ext rfl hafter
  | cons w ws =>
    have hcount : idCount blocks = blocks.countP (!·.isPlainText) + 2 :=
      if_neg (hlength ▸ Nat.succ_ne_zero _)
    rw [hcount, IdIssuer.take_add, ← hafter]
    exact Prod.ext (congrArg (· ++ _) hids) rfl

/-! ### The shape of a tree -/

/-- The widget of a block, wherever the image of the block was placed. -/
def IsWidgetOf (style : HeadingLook) (b : Block ImageRef) (widget : Json) : Prop :=
  ∃ (placed : Block Placed) (w : Widget), unplaced placed = b ∧
    content? style placed = some (w.kind, w.settings) ∧ widget = w.toJson

/-- The tree of blocks: nothing at all if all of them are text that stands by itself, else one section
that holds one column, which holds a widget for each of the others, in order. -/
inductive IsTreeOf (style : HeadingLook) (blocks : List (Block ImageRef)) : Json → Prop
  | empty (h : ∀ b ∈ blocks, b.isPlainText = true) : IsTreeOf style blocks (.arr [])
  | whole {part column : Json} {widgets : List Json}
      (h : ∃ b ∈ blocks, b.isPlainText = false)
      (hpart : textOf? "elType" part = some "section")
      (hcolumns : part.field? "elements" = some (.arr [column]))
      (hcolumn : textOf? "elType" column = some "column")
      (hwidgets : column.field? "elements" = some (.arr widgets))
      (hall : List.Forall₂ (IsWidgetOf style) (blocks.filter (!·.isPlainText)) widgets) :
      IsTreeOf style blocks (.arr [part])

/-- The section of a page and its column are of their kinds and hold what they should. -/
theorem fields_holder (id kind : String) (settings inner : Json) (items : List Json) :
    let holder := Json.sortedObj [("id", .str id), ("elType", .str kind), ("settings", settings),
      ("elements", .arr items), ("isInner", inner)]
    textOf? "elType" holder = some kind ∧ holder.field? "elements" = some (.arr items) := by
  intro holder
  have hkind : holder.field? "elType" = some (.str kind) := Json.field?_sortedObj ..
  refine ⟨?_, Json.field?_sortedObj ..⟩
  rw [textOf?, hkind]
  rfl

theorem filter_map_unplaced (blocks : List (Block Placed)) :
    (blocks.map unplaced).filter (!·.isPlainText) =
      (blocks.filter hasWidget).map unplaced := by
  rw [List.filter_map]
  congr 1
  refine List.filter_congr fun b _ => ?_
  cases b <;> rfl

theorem forall₂_isWidgetOf {style : HeadingLook} {blocks : List (Block Placed)} {ws : List Widget}
    (h : ws.map (fun w => (w.kind, w.settings)) = blocks.filterMap (content? style)) :
    List.Forall₂ (IsWidgetOf style) ((blocks.map unplaced).filter (!·.isPlainText))
      (ws.map (·.toJson)) := by
  rw [filter_map_unplaced, List.forall₂_map_left_iff, List.forall₂_map_right_iff]
  exact (forall₂_contents style h).imp fun b w hcontent => ⟨b, w, rfl, hcontent, rfl⟩

theorem exists_isPlainText_eq_false {style : HeadingLook} {blocks : List (Block ImageRef)}
    {widgets : List Json} (h : widgets ≠ [])
    (hall : List.Forall₂ (IsWidgetOf style) (blocks.filter (!·.isPlainText)) widgets) :
    ∃ b ∈ blocks, b.isPlainText = false := by
  have hsome : blocks.filter (!·.isPlainText) ≠ [] := by
    intro hnil
    rw [hnil] at hall
    exact h (List.forall₂_nil_left_iff.mp hall)
  obtain ⟨b, hb⟩ := List.exists_mem_of_ne_nil _ hsome
  obtain ⟨hmem, hplain⟩ := List.mem_filter.mp hb
  exact ⟨b, hmem, by simpa using hplain⟩

/-- What the tree of a page is. -/
theorem isTreeOf_page (words : WordSource ρ) (style : HeadingLook) (ids : IdIssuer ρ)
    (blocks : List (Block Placed)) :
    IsTreeOf style (blocks.map unplaced) (Page.optJson (page words style ids blocks).1) := by
  have hall := forall₂_isWidgetOf (widgetsOf_page words style ids blocks)
  rw [page_eq] at hall ⊢
  generalize widgetsFrom words [] ids (blocks.filterMap (content? style)) = drawn at *
  obtain ⟨ws, rest⟩ := drawn
  cases ws with
  | nil =>
    have hnone := List.forall₂_nil_right_iff.mp hall
    exact .empty fun b hb => by simpa using List.filter_eq_nil_iff.mp hnone b hb
  | cons w ws =>
    obtain ⟨hpart, hcolumns⟩ := fields_holder ..
    obtain ⟨hcolumn, hwidgets⟩ := fields_holder ..
    exact .whole (exists_isPlainText_eq_false (List.cons_ne_nil _ _) hall) hpart hcolumns hcolumn
      hwidgets hall

end Elementor

end PageBlocks
