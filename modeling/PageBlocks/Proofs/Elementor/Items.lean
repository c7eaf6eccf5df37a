import Mathlib.Data.List.Forall2
import PageBlocks.Emit.Elementor
import PageBlocks.Proofs.Emit.ItemReader
import PageBlocks.Proofs.Json.Fields

/-!
What Elementor widgets show. The widgets of a page stand in the only column of its only section, one for
each block except text that stands by itself. A widget has its values as they are, so all of them come
back.
-/
namespace PageBlocks.Elementor

open Image

/-! ### How a page and its widgets are read -/

/-- The text of a field. -/
def textOf? (key : String) (value : Json) : Option String := (value.field? key).bind Json.asText?

/-- The settings of a widget of a kind. -/
def settings? (kind : String) (widget : Json) : Option Json :=
  if textOf? "widgetType" widget = some kind then widget.field? "settings" else none

/-- The medium of an image widget. -/
def medium? (widget : Json) : Option Json := (settings? "image" widget).bind (·.field? "image")

/-- How widgets are read. -/
def reader : ItemReader Json where
  isItem widget := textOf? "elType" widget = some "widget"
  level? widget := ((settings? "heading" widget).bind (textOf? "header_size")).bind HeadingLevel.ofTag?
  text? widget := (settings? "heading" widget).bind (textOf? "title")
  anchor? widget :=
    (settings? "heading" widget).bind fun settings =>
      (settings.field? "_element_id").mapM Json.asText?
  url? widget := (medium? widget).bind (textOf? "url")
  attachment? widget := (medium? widget).bind fun medium => (medium.field? "id").mapM Json.asNumber?
  markup? widget := (settings? "html" widget).bind (textOf? "html")
  part _ html := html.outer
  captured? _ widget := (settings? "text-editor" widget).bind (textOf? "editor")
  plain? _ := none
  valueComesBack _ := True
  markupComesBack _ := True
  partComesBack _ _ := True

/-! ### One widget -/

/-- Whether a block has a widget. -/
def hasWidget : Block Placed → Bool
  | .plainText _ => false
  | _ => true

theorem isSome_content? (style : HeadingLook) (b : Block Placed) :
    (content? style b).isSome = hasWidget b := by
  cases b <;> rfl

variable {ρ : Type}

theorem contents_widgetsFrom (words : WordSource ρ) (done : List Widget) (ids : IdIssuer ρ)
    (contents : List (String × Json.Fields)) :
    (widgetsFrom words done ids contents).1.map (fun w => (w.kind, w.settings)) =
      (done.reverse.map fun w => (w.kind, w.settings)) ++ contents := by
  induction contents generalizing done ids with
  | nil => rw [widgetsFrom, List.append_nil]
  | cons content contents ih =>
    obtain ⟨kind, settings⟩ := content
    rcases hnext : ids.next words with ⟨id, rest⟩
    simp only [widgetsFrom, hnext]
    rw [ih, List.reverse_cons, List.map_append, List.append_assoc]
    rfl

/-- The widgets of a page that may have no section. -/
def widgetsOf (p : Option Page) : List Widget := p.elim [] Page.widgets

theorem widgetsOf_page (words : WordSource ρ) (style : HeadingLook) (ids : IdIssuer ρ)
    (blocks : List (Block Placed)) :
    (widgetsOf (page words style ids blocks).1).map (fun w => (w.kind, w.settings)) =
      blocks.filterMap (content? style) := by
  have hcontents := contents_widgetsFrom words [] ids (blocks.filterMap (content? style))
  -- the ids are taken as they are, or the two sides are compared by drawing them
  rcases hwidgets : widgetsFrom words [] ids (blocks.filterMap (content? style)) with ⟨ws, rest⟩
  rw [hwidgets] at hcontents
  rcases hcolumn : rest.next words with ⟨columnId, more⟩
  rcases hsection : more.next words with ⟨sectionId, last⟩
  simp only [page, hwidgets, hcolumn, hsection]
  cases ws with
  | nil => exact hcontents
  | cons w ws => exact hcontents

/-- Widgets with the contents of blocks stand one for each block that has a widget, in order. -/
theorem forall₂_contents (style : HeadingLook) {blocks : List (Block Placed)} {ws : List Widget}
    (h : ws.map (fun w => (w.kind, w.settings)) = blocks.filterMap (content? style)) :
    List.Forall₂ (fun b w => content? style b = some (w.kind, w.settings))
      (blocks.filter hasWidget) ws := by
  induction blocks generalizing ws with
  | nil =>
    rw [List.filterMap_nil, List.map_eq_nil_iff] at h
    rw [h]
    exact .nil
  | cons b blocks ih =>
    have hwidget := isSome_content? style b
    cases hcontent : content? style b with
    | none =>
      rw [hcontent] at hwidget
      rw [List.filterMap_cons_none hcontent] at h
      rw [List.filter_cons_of_neg (by rw [← hwidget]; decide)]
      exact ih h
    | some content =>
      rw [hcontent] at hwidget
      rw [List.filterMap_cons_some hcontent] at h
      obtain ⟨w, ws, rfl, hw, hws⟩ := List.map_eq_cons_iff.mp h
      rw [List.filter_cons_of_pos hwidget.symm]
      exact .cons (hcontent.trans (congrArg some hw.symm)) (ih hws)

end PageBlocks.Elementor
