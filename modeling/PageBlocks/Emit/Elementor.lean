import PageBlocks.Convert.Config
import PageBlocks.Id.ElementId
import PageBlocks.Image.Placement

/-!
Elementor: a page is a tree of elements, one section with one column, which holds a widget for each
block. Every element has an id of its own. Text that stands by itself has no widget, and a page
without widgets has no section either.
-/
namespace PageBlocks.Elementor

structure Widget where
  id : String
  kind : String
  settings : Json.Fields

structure Page where
  sectionId : String
  columnId : String
  widgets : List Widget

namespace Widget

def toJson (w : Widget) : Json :=
  .sortedObj [("id", .str w.id), ("elType", .str "widget"), ("widgetType", .str w.kind),
    ("settings", .sortedObj w.settings), ("elements", .arr [])]

end Widget

namespace Page

def columnJson (p : Page) : Json :=
  .sortedObj [("id", .str p.columnId), ("elType", .str "column"),
    ("settings", .obj [("_column_size", .nat 100)]), ("elements", .arr (p.widgets.map (·.toJson))),
    ("isInner", .bool false)]

/-- The list of the sections of a page. -/
def toJson (p : Page) : Json :=
  .arr [.sortedObj [("id", .str p.sectionId), ("elType", .str "section"), ("settings", .obj []),
    ("elements", .arr [p.columnJson]), ("isInner", .bool false)]]

/-- The list of the sections of a page that may have none. -/
def optJson : Option Page → Json
  | some p => p.toJson
  | none => .arr []

end Page

/-- The look of a heading. -/
def ofLook (style : HeadingLook) : Json.Fields :=
  if style.enabled then
    (style.titleColor.map fun color => ("title_color", Json.str color)).toList ++
      if style.typography then
        [("typography_typography", .str "custom"), ("typography_font_family", .str style.fontFamily),
          ("typography_font_weight", .str style.fontWeight)]
      else []
  else []

def ofHeading (style : HeadingLook) (level : HeadingLevel) (text : String)
    (anchor : Option String) : Json.Fields :=
  [("title", .str text), ("header_size", .str level.tag)] ++ ofLook style ++
    (anchor.map fun anchor => ("_element_id", Json.str anchor)).toList

def ofImage (i : Image.Placed) : Json.Fields :=
  let media := [("url", Json.str i.url)] ++
    (i.attachmentId.map fun id => ("id", Json.word id)).toList ++
    ((i.source.alt.filter fun alt => !alt.isEmpty).map fun alt => ("alt", Json.str alt)).toList
  [("image", .sortedObj media), ("image_size", .str "full")]

/-- The kind and the settings of the widget of a block, if it has one. -/
def content? (style : HeadingLook) : Block Image.Placed → Option (String × Json.Fields)
  | .heading level text anchor => some ("heading", ofHeading style level text anchor)
  | .image i => some ("image", ofImage i)
  | .captured _ html => some ("text-editor", [("editor", .str html.outer)])
  | .embed markup => some ("html", [("html", .str markup)])
  | .plainText _ => none

variable {ρ : Type}

/-- Give each content the next id. Widgets that are done are kept in reverse. -/
def widgetsFrom (words : WordSource ρ) (done : List Widget) (ids : IdIssuer ρ) :
    List (String × Json.Fields) → List Widget × IdIssuer ρ
  | [] => (done.reverse, ids)
  | (kind, settings) :: rest =>
    let (id, ids) := ids.next words
    widgetsFrom words (⟨id, kind, settings⟩ :: done) ids rest

/-- The page of blocks. Ids are given to the widgets in order, then to the column and the section. -/
def page (words : WordSource ρ) (style : HeadingLook) (ids : IdIssuer ρ)
    (blocks : List (Block Image.Placed)) : Option Page × IdIssuer ρ :=
  let (widgets, ids) := widgetsFrom words [] ids (blocks.filterMap (content? style))
  if widgets.isEmpty then (none, ids)
  else
    let (columnId, ids) := ids.next words
    let (sectionId, ids) := ids.next words
    (some ⟨sectionId, columnId, widgets⟩, ids)

/-- What is kept beside the page, in the order of the keys. -/
def metaData (version : String) (p : Option Page) : List (String × String) :=
  [("_elementor_data", (Page.optJson p).toText), ("_elementor_edit_mode", "builder"),
    ("_elementor_template_type", "wp-page"), ("_elementor_version", version)]

end PageBlocks.Elementor
