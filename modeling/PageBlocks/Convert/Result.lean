import PageBlocks.Convert.Builder
import PageBlocks.Emit.Divi
import PageBlocks.Emit.Elementor
import PageBlocks.Emit.Gutenberg

/-!
Results. A conversion always has a result: the content for a builder, what is kept beside it, and an
error if something went wrong.
-/
namespace PageBlocks

/-- The content for a builder. -/
inductive Content where
  | elementor (page : Option Elementor.Page)
  | divi (shortcodes : String)
  | gutenberg (blocks : List Gutenberg.Block)

namespace Content

/-- No content. -/
def empty : Builder → Content
  | .elementor => elementor none
  | .divi => divi ""
  | .gutenberg => gutenberg []

def builder : Content → Builder
  | elementor _ => .elementor
  | divi _ => .divi
  | gutenberg _ => .gutenberg

def isEmpty : Content → Bool
  | elementor page => page.isNone
  | divi shortcodes => shortcodes.isEmpty
  | gutenberg blocks => blocks.isEmpty

def toJson : Content → Json
  | elementor page => Elementor.Page.optJson page
  | divi shortcodes => .str shortcodes
  | gutenberg blocks => .arr (blocks.map (·.toJson))

/-- The text that a site keeps as the body of a post. -/
def postText : Content → String
  | elementor page => (Elementor.Page.optJson page).toText
  | divi shortcodes => shortcodes
  | gutenberg blocks => Gutenberg.postText blocks

def optJson : Option Content → Json
  | some p => p.toJson
  | none => .null

end Content

/-- What a builder makes of a page. -/
structure Output where
  content : Content
  /-- What is kept beside the content, in the order of the keys. -/
  metaData : List (String × String)

structure Conversion where
  builder : Builder
  content : Content
  metaData : List (String × String) := []
  header : Option Content := none
  footer : Option Content := none
  styleText : Option String := none
  imageFailures : List Image.Failure := []
  error : Option ConversionError := none

namespace Conversion

/-- The result of a conversion that failed before it began. -/
def failed (builder : Builder) (error : ConversionError) : Conversion :=
  { builder, content := .empty builder, error := some error }

def isSuccess (r : Conversion) : Bool := r.error.isNone

def metaJson (entries : List (String × String)) : Json :=
  .obj (entries.map fun (key, value) => (key, .str value))

def failureJson (f : Image.Failure) : Json := .obj [("url", .str f.url), ("reason", .str f.reason)]

def errorJson : Option ConversionError → Json
  | some e => e.toJson
  | none => .null

def toJson (r : Conversion) : Json :=
  let failures :=
    if r.imageFailures.isEmpty then []
    else [("image_failures", Json.arr (r.imageFailures.map failureJson))]
  .obj ([("builder", .str r.builder.name), ("content", r.content.toJson),
      ("meta_data", metaJson r.metaData), ("header", Content.optJson r.header),
      ("footer", Content.optJson r.footer), ("css_content", .optStr r.styleText)] ++ failures ++
    [("error", errorJson r.error)])

end Conversion

end PageBlocks
