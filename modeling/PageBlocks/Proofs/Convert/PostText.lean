import PageBlocks.Proofs.Convert.Alike
import PageBlocks.Proofs.Gutenberg.Delimiters

/-!
The post of a whole conversion for Gutenberg. What stands in it besides the delimiters of its blocks comes
from the page, and so do the delimiters that are none of theirs.
-/
namespace PageBlocks

open Image Markup

variable {σ ρ : Type}

theorem emit_gutenberg {setting : EmissionSetting σ ρ} (h : setting.builder = .gutenberg)
    (state : EmissionState σ ρ) (blocks : List (Block ImageRef)) :
    (emit setting state blocks).1.content =
      .gutenberg ((placeBlocks setting.store setting.placing state.images blocks).1.map
        Gutenberg.blockOf) := by
  have hrender : ∀ placed, (render setting state.ids placed).1.content =
      .gutenberg (placed.map Gutenberg.blockOf) := by
    intro placed
    simp only [render, h]
  exact hrender _

namespace Converter

/-- The blocks for Gutenberg are those of the body, placed after the images of the header. -/
theorem content_convert_gutenberg (c : Converter σ) (store : σ) (html : String) (o : Options)
    (hvalid : o.fault? = none) (hbuilder : o.target.builder c.active = .gutenberg) :
    let parts := Page.Parts.of o.extractHeaderFooter
      (Page.withoutStyles (c.config.preparation.read html))
    ∃ p, (c.convert store html o).1.content =
      .gutenberg ((placeBlocks c.store ⟨o.uploadImages, o.baseUrl⟩ p
        (parts.bodyBlocks c.config.stamps)).1.map Gutenberg.blockOf) := by
  intro parts
  let seeded := ChaCha.Stream.ofSeed (c.config.idSeed.getD c.entropy)
  let header := emit? (c.settingFor ChaCha.Stream.next .gutenberg o) ⟨.start store, .start seeded⟩
    (parts.headerBlocks c.config.stamps)
  have hconvert : c.convert store html o = c.convertPage ChaCha.Stream.next seeded store .gutenberg o
      (c.config.preparation.read html) := by
    simp only [convert, convertWith, hvalid, hbuilder, seeded]
  have hpage := c.convertPage_eq ChaCha.Stream.next seeded store .gutenberg o
    (c.config.preparation.read html)
  refine ⟨header.2.images, ?_⟩
  rw [hconvert]
  exact (congrArg (·.1.content) hpage).trans (emit_gutenberg rfl _ _)

/-- The delimiters in the post of a page are one opening and one closing delimiter for each block, in the
order of the blocks, exactly if no node shows a delimiter whose markup goes into the post as it is. -/
theorem delimiters_convert_iff (c : Converter σ) (store : σ) (html : String) (o : Options)
    (hvalid : o.fault? = none) (hbuilder : o.target.builder c.active = .gutenberg) :
    let body := (Page.Parts.of o.extractHeaderFooter
      (Page.withoutStyles (c.config.preparation.read html))).body
    let content := (c.convert store html o).1.content
    ∃ blocks, content = .gutenberg blocks ∧
      (Gutenberg.delimiters content.postText.toList = blocks.flatMap Gutenberg.ownDelimiters ↔
        ∀ n ∈ Node.quotedAll c.config.stamps body.bodyChildren,
          n.shows Gutenberg.openMark = false ∧ n.shows Gutenberg.closeMark = false) := by
  intro body content
  obtain ⟨p, hcontent⟩ := c.content_convert_gutenberg store html o hvalid hbuilder
  refine ⟨_, hcontent, ?_⟩
  rw [show content = _ from hcontent]
  exact Gutenberg.delimiters_page_iff ..

def gutenbergOptions : Options := { target := .fixed .gutenberg }

/-- A page with what looks like a delimiter in a comment, but not in an element that is captured. -/
def remarkedText : String := "<!-- wp:html --><h1>a &lt;!-- wp:html --></h1><p>b</p>"

theorem delimiters_convert_remarkedText :
    let c : Converter Unit := .plain {} 0
    let content := (c.convert () remarkedText gutenbergOptions).1.content
    gutenbergOptions.fault? = none ∧ gutenbergOptions.target.builder c.active = .gutenberg ∧
      ∃ blocks, content = .gutenberg blocks ∧
        Gutenberg.delimiters content.postText.toList = blocks.flatMap Gutenberg.ownDelimiters := by
  intro c content
  have hvalid : gutenbergOptions.fault? = none := by decide +kernel
  obtain ⟨blocks, hblocks, hiff⟩ :=
    delimiters_convert_iff c () remarkedText gutenbergOptions hvalid rfl
  exact ⟨hvalid, rfl, blocks, hblocks, hiff.mpr (by decide +kernel)⟩

/-- A page with what looks like a delimiter in a comment in a paragraph. -/
def commentedText : String := "<p>a<!-- wp:html -->b</p>"

/-- The comment goes into the post and opens a block there. -/
theorem delimiters_convert_commentedText :
    let c : Converter Unit := .plain {} 0
    let content := (c.convert () commentedText gutenbergOptions).1.content
    gutenbergOptions.fault? = none ∧ gutenbergOptions.target.builder c.active = .gutenberg ∧
      ∃ b, content = .gutenberg [b] ∧ b.name = "core/paragraph" ∧
        Gutenberg.delimiters content.postText.toList =
          [.opening "paragraph", .opening "html", .closing "paragraph"] := by
  intro c content
  have hvalid : gutenbergOptions.fault? = none := by decide +kernel
  let captured : Block ImageRef := .captured .paragraph {
    inner := "a<!-- wp:html -->b"
    outer := "<p class=\"pb-paragraph\">a<!-- wp:html -->b</p>"
    classes := "pb-paragraph" }
  have hbody : (Page.Parts.of true (Page.withoutStyles
      (c.config.preparation.read commentedText))).bodyBlocks c.config.stamps = [captured] := by
    simp only [Page.Parts.bodyBlocks, Document.blocks, blocksIn_eq]
    decide +kernel
  obtain ⟨p, hcontent⟩ := c.content_convert_gutenberg () commentedText gutenbergOptions hvalid rfl
  rw [show gutenbergOptions.extractHeaderFooter = true from rfl, hbody] at hcontent
  have hsingle : content = .gutenberg [Gutenberg.capturedBlock .paragraph
      ⟨"a<!-- wp:html -->b", "<p class=\"pb-paragraph\">a<!-- wp:html -->b</p>", "pb-paragraph"⟩] :=
    hcontent
  refine ⟨hvalid, rfl, _, hsingle, rfl, ?_⟩
  rw [hsingle]
  decide +kernel

end Converter

end PageBlocks
