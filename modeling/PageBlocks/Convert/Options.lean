import PageBlocks.Block.Node
import PageBlocks.Convert.Builder
import PageBlocks.Convert.Error
import PageBlocks.Json.Decode
import PageBlocks.Text.Blank

/-!
What is asked of one conversion: the options themselves, a request whose builder is still a name, and
the payload of older callers, who could only say what sort of page it is.
-/
namespace PageBlocks

namespace ImageRef

def toJson (i : ImageRef) : Json :=
  .obj [("src", .str i.src), ("alt", .optStr i.alt), ("title", .optStr i.title)]

open Json.Decoder in
def decode : Json.Decoder ImageRef := fun r => do
  let [src, alt, title] ← slots ["src", "alt", "title"] r | none
  return {
    src := ← required str src
    alt := ← field (optional str) none alt
    title := ← field (optional str) none title }

end ImageRef

structure Options where
  target : Target := .auto
  /-- Keep the style sheets of the page. -/
  preserveCss : Bool := true
  uploadImages : Bool := true
  extractHeaderFooter : Bool := true
  /-- The post that the page is for. -/
  postId : Option UInt64 := none
  /-- A scope token that counts before the one of the post. -/
  cssScope : Option String := none
  scopeCss : Bool := true
  /-- Put neither title nor featured image before the page. -/
  skipAutoPrepend : Bool := false
  pageTitle : Option String := none
  featuredImage : Option ImageRef := none
  /-- The address of the page, against which image sources are resolved. -/
  baseUrl : Option String := none
  /-- An image that cannot be uploaded is an error. -/
  requireImages : Bool := false
  deriving DecidableEq, Inhabited

namespace Options

def optImageJson : Option ImageRef → Json
  | some i => i.toJson
  | none => .null

def toJson (o : Options) : Json :=
  .obj [("builder", .str o.target.name), ("preserve_css", .bool o.preserveCss),
    ("upload_images", .bool o.uploadImages), ("extract_header_footer", .bool o.extractHeaderFooter),
    ("post_id", .optWord o.postId), ("css_scope", .optStr o.cssScope),
    ("scope_css", .bool o.scopeCss), ("skip_auto_prepend", .bool o.skipAutoPrepend),
    ("page_title", .optStr o.pageTitle), ("featured_image", optImageJson o.featuredImage),
    ("base_url", .optStr o.baseUrl), ("require_images", .bool o.requireImages)]

open Json.Decoder in
def decode : Json.Decoder Options := fun r => do
  let [target, preserveCss, uploadImages, extractHeaderFooter, postId, cssScope, scopeCss,
      skipAutoPrepend, pageTitle, featuredImage, baseUrl, requireImages] ←
    slots ["builder", "preserve_css", "upload_images", "extract_header_footer", "post_id",
      "css_scope", "scope_css", "skip_auto_prepend", "page_title", "featured_image", "base_url",
      "require_images"] r | none
  let d : Options := {}
  return {
    target := ← field (name Target.names) d.target target
    preserveCss := ← field bool d.preserveCss preserveCss
    uploadImages := ← field bool d.uploadImages uploadImages
    extractHeaderFooter := ← field bool d.extractHeaderFooter extractHeaderFooter
    postId := ← field (optional word64) d.postId postId
    cssScope := ← field (optional str) d.cssScope cssScope
    scopeCss := ← field bool d.scopeCss scopeCss
    skipAutoPrepend := ← field bool d.skipAutoPrepend skipAutoPrepend
    pageTitle := ← field (optional str) d.pageTitle pageTitle
    featuredImage := ← field (optional ImageRef.decode) d.featuredImage featuredImage
    baseUrl := ← field (optional str) d.baseUrl baseUrl
    requireImages := ← field bool d.requireImages requireImages }

/-- Why options cannot be honoured, if so. -/
def fault? (o : Options) : Option OptionsFault :=
  if o.requireImages && !o.uploadImages then some .requiredNotUploaded
  else if o.cssScope.any Text.isAllBlank then some .blankScope
  else none

end Options

/-- A request for a conversion. -/
structure Request where
  html : String
  builder : String := "auto"
  options : Options := {}
  deriving DecidableEq

namespace Request

def toJson (q : Request) : Json :=
  .obj [("html", .str q.html), ("builder", .str q.builder), ("options", q.options.toJson)]

open Json.Decoder in
def decode : Json.Decoder Request := fun r => do
  let [html, builder, options] ← slots ["html", "builder", "options"] r | none
  return {
    html := ← required str html
    builder := ← field str "auto" builder
    options := ← field Options.decode {} options }

end Request

/-- The payload of older callers. -/
structure PostPayload where
  postText : String := ""
  isLandingPage : Bool := false
  isAiPage : Bool := false
  deriving DecidableEq

namespace PostPayload

def toJson (p : PostPayload) : Json :=
  .obj [("post_content", .str p.postText), ("is_landing_page", .bool p.isLandingPage),
    ("is_ai_page", .bool p.isAiPage)]

open Json.Decoder in
def decode : Json.Decoder PostPayload := fun r => do
  let [postText, isLandingPage, isAiPage] ←
    slots ["post_content", "is_landing_page", "is_ai_page"] r | none
  return {
    postText := ← field str "" postText
    isLandingPage := ← field bool false isLandingPage
    isAiPage := ← field bool false isAiPage }

/-- The options that a payload stands for. Landing pages are split; these and generated pages bring
their own titles. -/
def options (p : PostPayload) : Options :=
  { extractHeaderFooter := p.isLandingPage, skipAutoPrepend := p.isLandingPage || p.isAiPage }

end PostPayload

end PageBlocks
