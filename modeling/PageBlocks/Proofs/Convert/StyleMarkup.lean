import PageBlocks.Proofs.Convert.PostText
import PageBlocks.Proofs.Page.ShownStyles

/-!
Style sheets in converted pages. What a conversion captures of a page is free of style sheets as far as
its elements go, for every text, every configuration and all options; what is left are the raw texts of
elements such as `noscript`, which go into the markup as they stand.
-/
namespace PageBlocks.Converter

open Markup Lexer

variable {σ : Type}

/-- The markup that a conversion captures, in the header, the body and the footer, shows the start tag of a
style sheet exactly if a raw text does that is captured along with an element. Each of these texts is asked
to be whole: read as markup, it leads back to running text. -/
theorem showsTag_blocks_iff (c : Converter σ) (html : String) (o : Options) :
    let parts := Page.Parts.of o.extractHeaderFooter
      (Page.withoutStyles (c.config.preparation.read html))
    (∀ t ∈ Node.embeddedTexts parts.tops, IsWhole t.toList) →
      (ShowsTag .style (parts.blocks c.config.stamps) ↔
        ∃ t ∈ Node.embeddedTexts parts.tops, Tag.style ∈ shownIn t.toList) :=
  Page.showsTag_parts_iff (Document.sound_ofText _) _ _

/-- A page with a style sheet of its own, with the start tag of one in an attribute value, and with other
markup as the raw text of what is captured. -/
def quotedStyle : String :=
  "<style>p\x7b\x7d</style><p title='<style>'>x<noscript><b>y</b></noscript></p>"

theorem showsTag_blocks_quotedStyle :
    let c : Converter Unit := .plain {} 0
    let parts := Page.Parts.of true (Page.withoutStyles (c.config.preparation.read quotedStyle))
    Node.embeddedTexts parts.tops = ["<b>y</b>"] ∧
      (∀ t ∈ Node.embeddedTexts parts.tops, IsWhole t.toList) ∧
      ¬ ShowsTag .style (parts.blocks c.config.stamps) := by
  intro c parts
  have htexts : Node.embeddedTexts parts.tops = ["<b>y</b>"] := by decide +kernel
  have hwhole : ∀ t ∈ Node.embeddedTexts parts.tops, IsWhole t.toList := by
    rw [htexts]
    decide +kernel
  refine ⟨htexts, hwhole, ?_⟩
  rw [showsTag_blocks_iff c quotedStyle {} hwhole, htexts]
  decide +kernel

/-- A page with a style sheet in an element with raw text in a paragraph. -/
def hiddenSheet : String := "<p>x<noscript><style>p\x7bmargin:0\x7d</style></noscript></p>"

/-- The style sheet goes into the one block of the post. -/
theorem style_convert_hiddenSheet :
    let c : Converter Unit := .plain {} 0
    let content := (c.convert () hiddenSheet gutenbergOptions).1.content
    gutenbergOptions.fault? = none ∧ gutenbergOptions.target.builder c.active = .gutenberg ∧
      content = .gutenberg [Gutenberg.capturedBlock .paragraph {
        inner := "x<noscript><style>p\x7bmargin:0\x7d</style></noscript>"
        outer := "<p class=\"pb-paragraph\">x<noscript><style>p\x7bmargin:0\x7d</style></noscript></p>"
        classes := "pb-paragraph" }] ∧
        Tag.style ∈ shownIn content.postText.toList := by
  intro c content
  have hvalid : gutenbergOptions.fault? = none := by decide +kernel
  let captured : Captured := {
    inner := "x<noscript><style>p\x7bmargin:0\x7d</style></noscript>"
    outer := "<p class=\"pb-paragraph\">x<noscript><style>p\x7bmargin:0\x7d</style></noscript></p>"
    classes := "pb-paragraph" }
  have hbody : (Page.Parts.of true (Page.withoutStyles
      (c.config.preparation.read hiddenSheet))).bodyBlocks c.config.stamps =
        [.captured .paragraph captured] := by
    simp only [Page.Parts.bodyBlocks, Document.blocks, blocksIn_eq]
    decide +kernel
  obtain ⟨p, hcontent⟩ := c.content_convert_gutenberg () hiddenSheet gutenbergOptions hvalid rfl
  rw [show gutenbergOptions.extractHeaderFooter = true from rfl, hbody] at hcontent
  have hsingle : content = .gutenberg [Gutenberg.capturedBlock .paragraph captured] := hcontent
  refine ⟨hvalid, rfl, hsingle, ?_⟩
  rw [hsingle]
  decide +kernel

end PageBlocks.Converter
