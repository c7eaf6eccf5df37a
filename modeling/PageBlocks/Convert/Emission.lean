import PageBlocks.Convert.Options
import PageBlocks.Convert.Result

/-!
Emission: from blocks to the content for a builder. The parts of a page are emitted one after the
other; the images that have been placed and the ids that have been issued are carried from part to
part.
-/
namespace PageBlocks

/-- What stays the same while a page is emitted. -/
structure EmissionSetting (σ ρ : Type) where
  builder : Builder
  config : Config
  store : Image.Store σ
  placing : Image.Placing
  words : WordSource ρ
  postId : Option UInt64

/-- What is carried from part to part. -/
structure EmissionState (σ ρ : Type) where
  images : Image.Progress σ
  ids : IdIssuer ρ

variable {σ ρ : Type}

/-- The content for a builder, from blocks whose images have been placed. -/
def render (setting : EmissionSetting σ ρ) (ids : IdIssuer ρ) (blocks : List (Block Image.Placed)) :
    Output × IdIssuer ρ :=
  let config := setting.config
  match setting.builder with
  | .elementor =>
    let (page, ids) := Elementor.page setting.words config.headingLook ids blocks
    (⟨.elementor page, Elementor.metaData config.elementorVersion page⟩, ids)
  | .divi =>
    (⟨.divi (Divi.page config.diviVersion blocks),
      Divi.metaData config.diviVersion config.diviPageLayout setting.postId⟩, ids)
  | .gutenberg => (⟨.gutenberg (blocks.map Gutenberg.blockOf), []⟩, ids)

/-- Emit a part of a page. -/
def emit (setting : EmissionSetting σ ρ) (state : EmissionState σ ρ)
    (blocks : List (Block ImageRef)) : Output × EmissionState σ ρ :=
  let (placed, images) := Image.placeBlocks setting.store setting.placing state.images blocks
  let (output, ids) := render setting state.ids placed
  (output, ⟨images, ids⟩)

/-- Emit a part of a page that may be missing. -/
def emit? (setting : EmissionSetting σ ρ) (state : EmissionState σ ρ) :
    Option (List (Block ImageRef)) → Option Output × EmissionState σ ρ
  | none => (none, state)
  | some blocks =>
    let (output, state) := emit setting state blocks
    (some output, state)

end PageBlocks
