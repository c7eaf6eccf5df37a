import PageBlocks.Convert.Emission
import PageBlocks.Page.Landmarks
import PageBlocks.Page.Source
import PageBlocks.Page.Styles
import PageBlocks.Style.Scope

/-!
Conversions. A page is read, its style sheets are taken out, its header and footer are split off, and
the blocks of each part are emitted for a builder: first the header, then the body, then the footer, so
that images go to the store in the order of the page. Nothing is raised: what goes wrong is told in the
result.
-/
namespace PageBlocks

/-- A converter with a media store whose states are `σ`. -/
structure Converter (σ : Type) where
  config : Config
  store : Image.Store σ
  /-- The builder that is active on the site. -/
  active : Option Builder
  /-- The seed of ids where the configuration has none. -/
  entropy : UInt64

namespace Converter

variable {σ : Type}

/-- A converter without a media store on a site without an active builder. -/
def plain (config : Config) (entropy : UInt64) : Converter σ :=
  ⟨config, Image.Store.none, none, entropy⟩

/-- The title of a page as a block. -/
def titleBlock? (o : Options) : Option (Block ImageRef) :=
  (o.pageTitle.bind Text.trimmed?).map fun title => .heading .top title none

/-- What is put before a page: its title and its featured image. -/
def lead (builder : Builder) (o : Options) : List (Block ImageRef) :=
  if builder.beginsWithTitle && !o.skipAutoPrepend then
    (titleBlock? o).toList ++ (o.featuredImage.map .image).toList
  else []

/-- The token with which the style sheets of a page are scoped. -/
def scopeToken? (o : Options) : Option String :=
  if o.scopeCss then o.cssScope.or (o.postId.map fun id => Style.postToken id.toNat) else none

/-- The style sheets of a page as they are delivered. -/
def styleText (o : Options) (rules : List Style.Rule) : Option String :=
  if !o.preserveCss || rules.isEmpty then none
  else
    match scopeToken? o with
    | some token => some (Style.ScopedSheet.ofRules rules token).toCss
    | none => some (Style.render rules)

/-- The error that the images of a page amount to. -/
def imageError (o : Options) (failures : List Image.Failure) : Option ConversionError :=
  if o.requireImages then failures.head?.map fun f => .image f.url f.reason else none

/-- Convert a page that has been read, for a builder, with ids drawn from a source. -/
def convertPage {ρ : Type} (c : Converter σ) (words : WordSource ρ) (source : ρ) (store : σ)
    (builder : Builder) (o : Options) (d : Markup.Document) : Conversion × σ :=
  let stamps := c.config.stamps
  let parts := Page.Parts.of o.extractHeaderFooter (Page.withoutStyles d)
  let setting : EmissionSetting σ ρ :=
    ⟨builder, c.config, c.store, ⟨o.uploadImages, o.baseUrl⟩, words, o.postId⟩
  let state := ⟨.start store, .start source⟩
  let (header, state) := emit? setting state (parts.headerBlocks stamps)
  let (body, state) := emit setting state (lead builder o ++ parts.bodyBlocks stamps)
  let (footer, state) := emit? setting state (parts.footerBlocks stamps)
  let failures := state.images.failures
  ({ builder
     content := body.content
     metaData := body.metaData
     header := header.map (·.content)
     footer := footer.map (·.content)
     styleText := styleText o (Page.styleRules d)
     imageFailures := failures
     error := imageError o failures }, state.images.store)

/-- Convert the text of a page, with ids drawn from a source. -/
def convertWith {ρ : Type} (c : Converter σ) (words : WordSource ρ) (source : ρ) (store : σ)
    (html : String) (o : Options) : Conversion × σ :=
  let builder := o.target.builder c.active
  match o.fault? with
  | some fault => (.failed builder (.invalidOptions fault), store)
  | none => c.convertPage words source store builder o (c.config.preparation.read html)

/-- Convert the text of a page, with ids that the seed decides. -/
def convert (c : Converter σ) (store : σ) (html : String) (o : Options) : Conversion × σ :=
  c.convertWith ChaCha.Stream.next (.ofSeed (c.config.idSeed.getD c.entropy)) store html o

/-- Convert what is requested, if the builder that it names is known. -/
def fulfil (c : Converter σ) (store : σ) (q : Request) : Conversion × σ :=
  match Target.ofName? q.builder with
  | some target => c.convert store q.html { q.options with target }
  | none => (.failed .gutenberg (.unsupportedBuilder q.builder), store)

/-- Convert the payload of an older caller. -/
def convertPost (c : Converter σ) (store : σ) (p : PostPayload) : Conversion × σ :=
  c.convert store p.postText p.options

/-- Convert pages one after the other. -/
def convertAll (c : Converter σ) (store : σ) : List (String × Options) → List Conversion × σ
  | [] => ([], store)
  | (html, o) :: rest =>
    let (result, store) := c.convert store html o
    let (results, store) := c.convertAll store rest
    (result :: results, store)

end Converter

end PageBlocks
