import PageBlocks.Page.Preparation
import PageBlocks.Proofs.Gutenberg.Kinds

/-!
Headings and images read back. A post of headings and of images that are not uploaded is a page with the
same headings and images, in whatever order they stand, once every image has an alternative text.
-/
namespace PageBlocks

open Markup Parser

/-- Whether a text stays the same by trimming, says something, and can be written. -/
def isTrimmedText (s : String) : Bool := Text.trim s == s && !s.isEmpty && isKeptText s

theorem isTrimmedText_iff {s : String} :
    isTrimmedText s = true ↔ Text.trim s = s ∧ Text.isAllBlank s = false ∧ isKeptText s = true := by
  rw [isTrimmedText, Bool.and_eq_true, Bool.and_eq_true, beq_iff_eq, Bool.not_eq_true', and_assoc]
  refine and_congr_right fun htrim => and_congr_left fun _ => ?_
  rw [Bool.eq_false_iff, Bool.eq_false_iff, ne_eq, ne_eq, Text.isAllBlank_iff, String.isEmpty_iff,
    ← String.ofList_eq_empty_iff, ← Text.trim, htrim]

theorem trimmed?_of_isTrimmedText {s : String} (h : isTrimmedText s = true) :
    Text.trimmed? s = some s := by
  obtain ⟨htrim, hblank, -⟩ := isTrimmedText_iff.mp h
  rw [Text.trimmed?_eq, hblank, if_neg Bool.false_ne_true, htrim]

namespace Block

/-- Whether a block is a heading or an image whose texts come back. -/
def comesBackWhole : Block ImageRef → Bool
  | .heading _ text anchor => isTrimmedText text && anchor.all isTrimmedText
  | .image i => isTrimmedText i.src && i.alt.all isKeptText && i.title.all isKeptText
  | _ => false

/-- A block whose image has an alternative text, if it is one. -/
def withAltText : Block ImageRef → Block ImageRef
  | .image i => .image { i with alt := some i.altText }
  | b => b

end Block

/-! ### Images -/

namespace ImageRef

/-- The attributes of the tag of an image. -/
def pairs (i : ImageRef) : List (String × String) :=
  ("src", i.src) :: ("alt", i.altText) :: (i.title.map fun v => ("title", v)).toList

variable {i : ImageRef}

theorem isWritable_pairs (hsrc : isKeptText i.src = true) (halt : i.alt.all isKeptText = true)
    (htitle : i.title.all isKeptText = true) : isWritable "img" i.pairs = true := by
  have hnames : isTagName "img".toList = true ∧ isAttrName "src".toList = true ∧
      isAttrName "alt".toList = true ∧ isAttrName "title".toList = true := by decide
  have htext : i.altText.toList.all isKept = true := by
    rw [altText]
    cases hi : i.alt with
    | none => rfl
    | some v =>
      rw [hi] at halt
      exact halt
  rw [isKeptText] at hsrc
  cases htitle' : i.title with
  | none =>
    simp only [isWritable, pairs, htitle', Option.map_none, Option.toList_none, List.all_cons,
      List.all_nil, hnames, hsrc, htext]
    simp
  | some v =>
    rw [htitle'] at htitle
    have hv : v.toList.all isKept = true := htitle
    simp only [isWritable, pairs, htitle', Option.map_some, Option.toList_some, List.all_cons,
      List.all_nil, hnames, hsrc, htext, hv]
    simp

/-- The block of an image that keeps its own address is a figure with one tag in it. -/
theorem html_imageBlock (i : ImageRef) :
    (Gutenberg.imageBlock ⟨i, i.src, none⟩).html =
      Gutenberg.element "figure" (Emit.escapeValue "wp-block-image size-full") ""
        (String.ofList (emptyText Emit.escapeValueChar "img" i.pairs)) := by
  have hclass : Emit.escapeValue "wp-block-image size-full" = "wp-block-image size-full" := by
    decide +kernel
  have htitle := Gutenberg.toList_optAttr "title" i.title
  rw [hclass, ← String.toList_inj]
  simp [Gutenberg.imageBlock, Gutenberg.Block.simple, Gutenberg.Block.html, Gutenberg.element,
    emptyText, attrsText, attrText, pairs, htitle, Emit.escapeValue]

/-- An image comes back, trimmed and with an alternative text. -/
theorem comesBack_imageBlock (hsrc : Text.isAllBlank i.src = false)
    (hwritable : isWritable "img" i.pairs = true) :
    ComesBack id (Gutenberg.imageBlock ⟨i, i.src, none⟩).html
      (.image ⟨Text.trim i.src, some i.altText, i.title⟩) := by
  have hfigure : Tag.ofString "figure" = .figure := by decide +kernel
  have himg : Tag.ofString "img" = .img := by decide +kernel
  have hroles : Role.ofTag (Text.lower "figure") = .group ∧ Role.ofTag (Text.lower "img") = .image := by
    decide +kernel
  have hkept : isKeptText "wp-block-image size-full" = true := by decide +kernel
  have hbegins : Tag.begins [.body, .html] .figure = true := rfl
  let img : Node := .element ⟨.html, "img", attrsOf "img" i.pairs⟩ []
  rw [html_imageBlock]
  refine ComesBack.of_element [img] rfl (isWritable_class (by decide) hkept) (hfigure ▸ hbegins)
    (hfigure ▸ rfl) (fun ns own => ?_) fun stamps => ?_
  · have hstands : Tag.standsEmpty [.figure, .body, .html] (.ofString "img") = true := by
      rw [himg]
      rfl
    rw [hfigure, String.toList_ofList]
    exact reads_emptyText ⟨.figure, own, []⟩ (bodyLayers ns) Emit.escapesValue hwritable hstands
  · have hget : ∀ key, Element.get? ⟨.html, "img", attrsOf "img" i.pairs⟩ key = i.pairs.lookup key :=
      get?_attrsOf "img"
    have hvalues : i.pairs.lookup "src" = some i.src ∧ i.pairs.lookup "alt" = some i.altText ∧
        i.pairs.lookup "title" = i.title := by
      rw [pairs]
      cases i.title <;> exact ⟨rfl, rfl, rfl⟩
    rw [Node.yields, hroles.1]
    dsimp only
    rw [Node.yieldsAll, Node.yieldsAll, Node.yields, hroles.2]
    dsimp only
    rw [hget, hget, hget, hvalues.1, hvalues.2.1, hvalues.2.2]
    dsimp only
    rw [hsrc]
    rfl

end ImageRef

/-! ### Whole posts -/

namespace Gutenberg

variable {σ : Type} (store : Image.Store σ) (how : Image.Placing) (p : Image.Progress σ)

/-- Without uploads a heading and an image come back as they are. -/
theorem comesBack_blockOf (hupload : how.upload = false) {b : PageBlocks.Block ImageRef}
    (h : b.comesBackWhole = true) :
    ComesBack id (blockOf (Image.placeBlock store how p b).1).html b.withAltText := by
  cases b with
  | heading level text anchor =>
    rw [Block.comesBackWhole, Bool.and_eq_true] at h
    obtain ⟨htrim, hblank, hkept⟩ := isTrimmedText_iff.mp h.1
    have hanchor : anchor.all isKeptText = true ∧ anchor.bind Text.trimmed? = anchor := by
      cases anchor with
      | none => exact ⟨rfl, rfl⟩
      | some a =>
        have ha : isTrimmedText a = true := h.2
        refine ⟨(isTrimmedText_iff.mp ha).2.2, ?_⟩
        rw [Option.bind_some, trimmed?_of_isTrimmedText ha]
    have hback := comesBack_heading level hblank hkept hanchor.1
    rwa [htrim, hanchor.2] at hback
  | image i =>
    rw [Block.comesBackWhole, Bool.and_eq_true, Bool.and_eq_true] at h
    obtain ⟨⟨hsrc, halt⟩, htitle⟩ := h
    obtain ⟨htrim, hblank, hkept⟩ := isTrimmedText_iff.mp hsrc
    have hplaced : Image.place store how p i = (⟨i, i.src, none⟩, p) := by
      rw [Image.place, Image.Placing.request?, hupload]
      rfl
    have hback := ImageRef.comesBack_imageBlock hblank (ImageRef.isWritable_pairs hkept halt htitle)
    rw [htrim] at hback
    rw [Image.placeBlock, hplaced]
    exact hback
  | captured _ _ => cases h
  | embed _ => cases h
  | plainText _ => cases h

/-- A post of headings and images without uploads is read as a page with the same blocks, in which each
image has an alternative text. -/
theorem blocks_read_pageMarkup (hupload : how.upload = false) (bs : List (PageBlocks.Block ImageRef))
    (h : ∀ b ∈ bs, b.comesBackWhole = true) (stamps : Stamps) :
    (Preparation.asIs.read (pageMarkup store how p bs)).blocks stamps =
      bs.map PageBlocks.Block.withAltText := by
  obtain ⟨placed, hplaced, hall⟩ := Image.placeFrom_forall₂ store how bs [] p
  have hback : List.Forall₂ (ComesBack id) ((placed.map blockOf).map Block.html)
      (bs.map PageBlocks.Block.withAltText) := by
    rw [List.map_map, List.forall₂_map_left_iff, List.forall₂_map_right_iff]
    refine (((List.forall₂_and_left _ _).mpr ⟨h, hall⟩).imp ?_).flip
    rintro b c ⟨hb, q, rfl⟩
    exact comesBack_blockOf store how q hupload hb
  have hblocks := blocks_join hback stamps
  rw [List.map_id] at hblocks
  rw [pageMarkup, Image.placeBlocks, hplaced, List.reverse_nil, List.nil_append]
  exact hblocks

/-- Headings and images with marks and references in their texts. -/
def markedBlocks : List (PageBlocks.Block ImageRef) :=
  [.image ⟨"a.png?x=1&lt;2\"", none, some ""⟩, .heading .top "<b>&amp;</b> \"x\"" (some "'\">&lt"),
    .heading .top "]]>" none, .image ⟨"data:,<", some " \n&quot;", none⟩]

theorem blocks_read_markedBlocks :
    (Preparation.asIs.read (pageMarkup .none ⟨false, none⟩ (.start ()) markedBlocks)).blocks
        (.ofLead "pb") =
      [.image ⟨"a.png?x=1&lt;2\"", some "", some ""⟩,
        .heading .top "<b>&amp;</b> \"x\"" (some "'\">&lt"), .heading .top "]]>" none,
        .image ⟨"data:,<", some " \n&quot;", none⟩] := by
  have hback : ∀ b ∈ markedBlocks, b.comesBackWhole = true := by decide +kernel
  rw [blocks_read_pageMarkup .none ⟨false, none⟩ (.start ()) rfl markedBlocks hback (.ofLead "pb")]
  rfl

end Gutenberg

end PageBlocks
