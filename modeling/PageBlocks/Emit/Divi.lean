import PageBlocks.Emit.Escape
import PageBlocks.Emit.Shortcode
import PageBlocks.Image.Placement

/-!
Divi: a page is a text of shortcodes, one section with one row with one column, which holds a module
for each block.
-/
namespace PageBlocks.Divi

/-- A shortcode with the attributes that all have in common. -/
def element (tag version : String) : Shortcode :=
  ⟨tag, [("_builder_version", version), ("_module_preset", "default"),
    ("global_colors_info", "\x7b\x7d")]⟩

def headingModule (version : String) (level : HeadingLevel) (text : String)
    (anchor : Option String) : String :=
  let code := (element "et_pb_heading" version).withAttr "title" text
  ((code.withAttr "title_level" level.tag).withAttr? "module_id" anchor).around ""

def imageModule (version : String) (i : Image.Placed) : String :=
  let code := (element "et_pb_image" version).withAttr "src" i.url
  let code := (code.withAttr? "alt" i.source.alt).withAttr? "title_text" i.source.title
  (code.withAttr? "attachment_id" (i.attachmentId.map fun id => toString id.toNat)).around ""

/-- A module that shows markup. -/
def textModule (version markup : String) : String := (element "et_pb_text" version).around markup

/-- A module for markup that a text module would spoil. -/
def codeModule (version markup : String) : String :=
  (element "et_pb_code" version).around (Shortcode.literal markup)

/-- The module of a block. -/
def moduleOf (version : String) : Block Image.Placed → String
  | .heading level text anchor => headingModule version level text anchor
  | .image i => imageModule version i
  | .captured .paragraph html | .captured .blockquote html => textModule version html.outer
  | .captured .table html | .captured (.list _) html => codeModule version html.outer
  | .embed markup => codeModule version markup
  | .plainText value => textModule version ("<p>" ++ Emit.escapeText value ++ "</p>")

/-- The shortcodes of a page. -/
def page (version : String) (blocks : List (Block Image.Placed)) : String :=
  let modules := String.join (blocks.map (moduleOf version))
  let column := ((element "et_pb_column" version).withAttr "type" "4_4").around modules
  let row := (element "et_pb_row" version).around column
  ((element "et_pb_section" version).withAttr "fb_built" "1").around row

/-- The shortcode by which a post is tracked in split tests. -/
def splitTrack (postId : UInt64) : String :=
  (Shortcode.withAttr ⟨"et_pb_split_track", []⟩ "id" (toString postId.toNat)).alone

/-- What is kept beside the page, in the order of the keys. -/
def metaData (version layout : String) (postId : Option UInt64) : List (String × String) :=
  [("_et_builder_version", "VB|Divi|" ++ version)] ++
    (postId.map fun id => ("_et_pb_ab_current_shortcode", splitTrack id)).toList ++
    [("_et_pb_old_content", ""), ("_et_pb_page_layout", layout), ("_et_pb_show_page_creation", "off"),
      ("_et_pb_use_builder", "on")]

end PageBlocks.Divi
