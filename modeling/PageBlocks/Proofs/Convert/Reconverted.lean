import PageBlocks.Proofs.Block.Stamping
import PageBlocks.Proofs.Convert.PostText
import PageBlocks.Proofs.Gutenberg.Held

/-!
Blocks for Gutenberg that are converted again. The markup of the block for an element that holds a text is
an element of the same kind that holds the same text. Its stamp is found among its classes, so that no
second one is put on; but the class of a quotation is written before all others whether it is there or not,
so that every conversion adds one more of it.
-/
namespace PageBlocks

open Markup

/-! ### Class attributes -/

/-- A class attribute that bears a stamp, has no blank at its ends and is read as it is written. -/
structure SettledClasses (p : Preparation) (stamp classes : String) : Prop where
  trimmed : Text.trim classes = classes
  stamped : stamp ∈ Text.words classes
  readable : ∀ c ∈ classes.toList, isKept c = true ∧ p.readChar c = c

/-- What is written before the classes of an element of a kind. -/
def CaptureKind.wrapperClasses : CaptureKind → String
  | .blockquote => "wp-block-quote "
  | _ => ""

variable {p : Preparation} {stamp classes text : String} {kind : CaptureKind}

theorem CaptureKind.wrapperClasses_of_ne (h : kind ≠ .blockquote) : kind.wrapperClasses = "" := by
  cases kind with
  | blockquote => exact absurd rfl h
  | _ => rfl

theorem isStampChar_readable (p : Preparation) {c : Char} (h : isStampChar c = true) :
    isKept c = true ∧ p.readChar c = c := by
  have hkept : isKept c = true := by
    simp only [isStampChar, Bool.or_eq_true, beq_iff_eq] at h
    simp only [isKept, Bool.and_eq_true, bne_iff_ne]
    constructor <;> rintro rfl <;> revert h <;> decide
  have hascii : Text.isAscii c = true := by
    by_contra hnot
    have haloof : Aloof c := .inr (.inr (.inr (by simpa using hnot)))
    rw [isStampChar, haloof.isAlphanum, haloof.beq rfl, haloof.beq rfl] at h
    cases h
  exact ⟨hkept, p.readChar_of_isAscii hascii⟩

/-- A class attribute has settled once it has been read and stamped. -/
theorem settledClasses_stampClasses (p : Preparation) {lead : String} (hlead : isClassName lead = true)
    (kind : CaptureKind) (hclasses : isKeptText classes = true) :
    SettledClasses p ((Stamps.ofLead lead).of kind)
      (stampClasses (p.readText classes) ((Stamps.ofLead lead).of kind)) := by
  have hword := Stamps.isWord_of_ofLead hlead kind
  refine ⟨trim_stampClasses _ hword, mem_words_stampClasses _ hword, ?_⟩
  refine forall_mem_stampClasses (fun c hc => ?_) ⟨rfl, p.readChar_of_isAscii rfl⟩ fun c hc =>
    isStampChar_readable p (Stamps.isStampChar_of_ofLead hlead kind hc)
  rw [p.toList_readText] at hc
  obtain ⟨d, hd, rfl⟩ := List.mem_map.mp hc
  exact ⟨p.isKept_readChar (List.all_eq_true.mp hclasses d hd), p.readChar_readChar d⟩

namespace SettledClasses

theorem isKeptText (h : SettledClasses p stamp classes) : isKeptText classes = true :=
  List.all_eq_true.mpr fun c hc => (h.readable c hc).1

theorem readText_eq (h : SettledClasses p stamp classes) : p.readText classes = classes := by
  rw [Preparation.readText, List.map_congr_left fun c hc => (h.readable c hc).2, List.map_id',
    String.ofList_toList]

theorem stampClasses_eq (h : SettledClasses p stamp classes) : stampClasses classes stamp = classes :=
  stampClasses_of_mem h.trimmed h.stamped

/-- What is written before settled classes leaves them settled. -/
theorem wrapped (h : SettledClasses p stamp classes) (kind : CaptureKind) :
    SettledClasses p stamp (kind.wrapperClasses ++ classes) := by
  by_cases hkind : kind = .blockquote
  · subst hkind
    have hchars : ∀ c ∈ "wp-block-quote".toList, isStampChar c = true :=
      List.all_eq_true.mp (by decide +kernel)
    have hword : Text.IsWord "wp-block-quote" :=
      ⟨by decide, fun c hc => not_isBlank_of_isStampChar (hchars c hc)⟩
    have hparts : CaptureKind.blockquote.wrapperClasses = "wp-block-quote" ++ " " := by decide +kernel
    have hne : Text.trim classes ≠ "" := by
      rw [h.trimmed]
      rintro rfl
      cases h.stamped
    have hhead : ∀ x ∈ classes.toList.head?, Text.isAsciiBlank x = false := by
      intro x hx
      rw [← h.trimmed, Text.trim, String.toList_ofList] at hx
      exact Text.not_isAsciiBlank_of_not_isBlank (Text.not_isBlank_head hx)
    rw [hparts]
    constructor
    · rw [← h.trimmed]
      exact Text.trim_word_append hne hword
    · rw [Text.words_word_append hword hhead]
      exact List.mem_cons_of_mem _ h.stamped
    · intro c hc
      rw [String.toList_append, String.toList_append, List.mem_append, List.mem_append] at hc
      rcases hc with (hc | hc) | hc
      · exact isStampChar_readable p (hchars c hc)
      · obtain rfl : c = ' ' := by simpa using hc
        exact ⟨rfl, p.readChar_of_isAscii rfl⟩
      · exact h.readable c hc
  · rwa [CaptureKind.wrapperClasses_of_ne hkind, String.empty_append]

end SettledClasses

namespace CaptureKind

/-- The classes once more and more has been written before them. -/
def wrappedClasses (kind : CaptureKind) (classes : String) : Nat → String
  | 0 => classes
  | n + 1 => kind.wrapperClasses ++ kind.wrappedClasses classes n

theorem settled_wrappedClasses (h : SettledClasses p stamp classes) (kind : CaptureKind) (n : Nat) :
    SettledClasses p stamp (kind.wrappedClasses classes n) := by
  induction n with
  | zero => exact h
  | succ n ih => exact ih.wrapped kind

/-! ### One block -/

/-- The block for an element that holds a text. -/
def heldBlock (kind : CaptureKind) (classes text : String) : Gutenberg.Block :=
  Gutenberg.capturedBlock kind ⟨Node.markupOf (kind.holding text), "", classes⟩

/-- Its markup is that of an element that holds the text. -/
theorem html_heldBlock (h : kind ≠ .table) (classes text : String) :
    (kind.heldBlock classes text).html = kind.heldMarkup (kind.wrapperClasses ++ classes) text := by
  by_cases hkind : kind = .blockquote
  · subst hkind
    have hlead : Emit.escapeValue "wp-block-quote " = "wp-block-quote " := by decide +kernel
    rw [heldMarkup, wrapperClasses, Emit.escapeValue_append, hlead]
    rfl
  · rw [wrapperClasses_of_ne hkind, String.empty_append]
    cases kind with
    | paragraph => rfl
    | list ordered => rfl
    | table => exact absurd rfl h
    | blockquote => exact absurd rfl hkind

/-- Only a class that is written before the others changes the markup. -/
theorem heldMarkup_wrapped_eq_iff (kind : CaptureKind) (classes text : String) :
    kind.heldMarkup (kind.wrapperClasses ++ classes) text = kind.heldMarkup classes text ↔
      kind ≠ .blockquote := by
  constructor
  · rintro heq rfl
    have hlead : Emit.escapeValue "wp-block-quote " = "wp-block-quote " := by decide +kernel
    have hlength := congrArg String.length heq
    simp only [heldMarkup, Gutenberg.element, wrapperClasses, Emit.escapeValue_append, hlead,
      String.length_append] at hlength
    have hpos : "wp-block-quote ".length = 15 := by decide
    omega
  · intro hne
    rw [wrapperClasses_of_ne hne, String.empty_append]

end CaptureKind

namespace Converter

variable {σ : Type}

/-- With whatever options and media store: if the builder is Gutenberg, the page is one block. -/
def ConvertsTo (c : Converter σ) (html : String) (b : Gutenberg.Block) : Prop :=
  ∀ (store : σ) (o : Options), o.fault? = none → o.target.builder c.active = .gutenberg →
    (c.convert store html o).1.content = .gutenberg [b]

/-- A page of which one element is captured. -/
theorem convertsTo_of_captured (c : Converter σ) (html : String) (kind : CaptureKind) {captured : Captured}
    (hbody : ∀ wanted, (Page.Parts.of wanted
      (Page.withoutStyles (c.config.preparation.read html))).bodyBlocks c.config.stamps =
        [.captured kind captured]) :
    c.ConvertsTo html (Gutenberg.capturedBlock kind captured) := by
  intro store o hvalid hbuilder
  obtain ⟨p, hcontent⟩ := c.content_convert_gutenberg store html o hvalid hbuilder
  rw [hcontent, hbody]
  rfl

/-- An element that holds a text is stamped. -/
theorem convertsTo_heldMarkup (c : Converter σ) (h : kind ≠ .table)
    (hclasses : isKeptText classes = true) (htext : isKeptText text = true)
    (hblank : Text.isAllBlank text = false) :
    c.ConvertsTo (kind.heldMarkup classes text)
      (kind.heldBlock (stampClasses (c.config.preparation.readText classes) (c.config.stamps.of kind))
        (c.config.preparation.readText text)) := by
  let p := c.config.preparation
  have hne : text ≠ "" := by
    rintro rfl
    cases hblank
  have hblankRead : Text.isAllBlank (p.readText text) = false := p.not_isAllBlank_readText hblank
  have hconverts := c.convertsTo_of_captured (kind.heldMarkup classes text) kind
    fun wanted => by
      rw [CaptureKind.read_heldMarkup p h hclasses htext hne,
        CaptureKind.bodyBlocks_ofBody h wanted _ _ _ hblankRead]
      rfl
  have hclass : (kind.classed (p.readText classes)).stampedClasses (c.config.stamps.of kind) =
      stampClasses (p.readText classes) (c.config.stamps.of kind) := by
    rw [Element.stampedClasses, CaptureKind.get?_classed]
    rfl
  rw [Node.join_toMarkup, hclass] at hconverts
  cases kind with
  | table => exact absurd rfl h
  | _ => exact hconverts

/-- The block of an element whose classes have settled is converted to one with the classes of its
markup. -/
theorem convertsTo_heldBlock (c : Converter σ) (h : kind ≠ .table)
    (hclasses : SettledClasses c.config.preparation (c.config.stamps.of kind) classes)
    (htext : isKeptText text = true) (hread : c.config.preparation.readText text = text)
    (hblank : Text.isAllBlank text = false) :
    c.ConvertsTo (kind.heldBlock classes text).html
      (kind.heldBlock (kind.wrapperClasses ++ classes) text) := by
  have hwrapped := hclasses.wrapped kind
  have hconverts := c.convertsTo_heldMarkup h hwrapped.isKeptText htext hblank
  rwa [hwrapped.readText_eq, hwrapped.stampClasses_eq, hread, ← CaptureKind.html_heldBlock h] at hconverts

/-- An element with any classes that holds a text is converted to one block, and the markup of that block to
one block again, and so on. The classes are stamped once, and what is written before them is written once
more in each block; so all blocks are the same exactly if the element is no quotation. -/
theorem exists_reconverted (c : Converter σ) (hlead : isClassName c.config.classLead = true)
    (h : kind ≠ .table) (hclasses : isKeptText classes = true) (htext : isKeptText text = true)
    (hblank : Text.isAllBlank text = false) :
    ∃ blocks : Nat → Gutenberg.Block,
      c.ConvertsTo (kind.heldMarkup classes text) (blocks 0) ∧
      (∀ n, c.ConvertsTo (blocks n).html (blocks (n + 1))) ∧
      (∀ n, (blocks n).html = kind.heldMarkup
        (kind.wrappedClasses
          (stampClasses (c.config.preparation.readText classes) (c.config.stamps.of kind)) (n + 1))
        (c.config.preparation.readText text)) ∧
      ∀ n, blocks (n + 1) = blocks n ↔ kind ≠ .blockquote := by
  let p := c.config.preparation
  let own := stampClasses (p.readText classes) (c.config.stamps.of kind)
  have hsettled : SettledClasses p (c.config.stamps.of kind) own :=
    settledClasses_stampClasses p hlead kind hclasses
  have hhtml : ∀ n, (kind.heldBlock (kind.wrappedClasses own n) (p.readText text)).html =
      kind.heldMarkup (kind.wrappedClasses own (n + 1)) (p.readText text) :=
    fun n => CaptureKind.html_heldBlock h _ _
  refine ⟨fun n => kind.heldBlock (kind.wrappedClasses own n) (p.readText text), ?_, fun n => ?_, hhtml,
    fun n => ⟨fun heq => ?_, fun hne => ?_⟩⟩
  · exact c.convertsTo_heldMarkup h hclasses htext hblank
  · exact c.convertsTo_heldBlock h (CaptureKind.settled_wrappedClasses hsettled kind n)
      (p.isKeptText_readText htext) (p.readText_readText text) (p.not_isAllBlank_readText hblank)
  · have hmarkup := congrArg Gutenberg.Block.html heq
    rw [hhtml, hhtml] at hmarkup
    exact (CaptureKind.heldMarkup_wrapped_eq_iff kind _ _).mp hmarkup
  · dsimp only
    rw [CaptureKind.wrappedClasses, CaptureKind.wrapperClasses_of_ne hne, String.empty_append]

/-- The first conversion of a list trims and stamps its classes, and the second one changes nothing. -/
theorem exists_reconverted_bulletList :
    let c : Converter Unit := .plain {} 0
    let content (html : String) := (c.convert () html gutenbergOptions).1.content
    isClassName c.config.classLead = true ∧ CaptureKind.list false ≠ .table ∧
      isKeptText " a\tb&" = true ∧ isKeptText "<x>" = true ∧ Text.isAllBlank "<x>" = false ∧
      ∃ b, content "<ul class=\" a\tb&amp;\"><li>&lt;x&gt;</li></ul>" = .gutenberg [b] ∧
        b.html = "<ul class=\"a\tb&amp; pb-list\"><li>&lt;x&gt;</li></ul>" ∧
        content b.html = .gutenberg [b] := by
  intro c content
  have hlead : isClassName c.config.classLead = true := by decide +kernel
  have hkind : CaptureKind.list false ≠ .table := CaptureKind.noConfusion
  have hclasses : isKeptText " a\tb&" = true := by decide +kernel
  have htext : isKeptText "<x>" = true := by decide +kernel
  have hblank : Text.isAllBlank "<x>" = false := by decide +kernel
  have hvalid : gutenbergOptions.fault? = none := by decide +kernel
  obtain ⟨blocks, hfirst, hnext, hhtml, hsame⟩ :=
    exists_reconverted c hlead hkind hclasses htext hblank
  have hsource : (CaptureKind.list false).heldMarkup " a\tb&" "<x>" =
      "<ul class=\" a\tb&amp;\"><li>&lt;x&gt;</li></ul>" := by decide +kernel
  have hmarkup : (blocks 0).html = "<ul class=\"a\tb&amp; pb-list\"><li>&lt;x&gt;</li></ul>" := by
    rw [hhtml]
    decide +kernel
  refine ⟨hlead, hkind, hclasses, htext, hblank, blocks 0, ?_, hmarkup, ?_⟩
  · rw [← hsource]
    exact hfirst () gutenbergOptions hvalid rfl
  · have hagain := hnext 0 () gutenbergOptions hvalid rfl
    rwa [(hsame 0).mpr CaptureKind.noConfusion] at hagain

/-- A quotation is given its class a second time; and a carriage return among the classes, which a page can
only have as a reference, is written as it is and read as a line feed then. -/
theorem convert_growingQuotation :
    let c : Converter Unit := .plain {} 0
    let content (html : String) := (c.convert () html gutenbergOptions).1.content
    (∃ b b', content "<blockquote class=\"\">x</blockquote>" = .gutenberg [b] ∧
        b.html = "<blockquote class=\"wp-block-quote pb-blockquote\">x</blockquote>" ∧
        content b.html = .gutenberg [b'] ∧
        b'.html = "<blockquote class=\"wp-block-quote wp-block-quote pb-blockquote\">x</blockquote>") ∧
      ∃ b b', content "<p class=\"a&#13;b\">x</p>" = .gutenberg [b] ∧
        b.html = "<p class=\"a\rb pb-paragraph\">x</p>" ∧
        content b.html = .gutenberg [b'] ∧ b'.html = "<p class=\"a\nb pb-paragraph\">x</p>" := by
  intro c content
  have hvalid : gutenbergOptions.fault? = none := by decide +kernel
  have hconverts : ∀ (html : String) (kind : CaptureKind) (captured : Captured),
      (∀ wanted, Node.yieldsAll c.config.stamps true (Page.Parts.of wanted
        (Page.withoutStyles (c.config.preparation.read html))).body.bodyChildren =
          [.captured kind captured]) →
        content html = .gutenberg [Gutenberg.capturedBlock kind captured] := by
    intro html kind captured hyields
    refine c.convertsTo_of_captured html kind (fun wanted => ?_) () gutenbergOptions hvalid rfl
    rw [Page.Parts.bodyBlocks, Document.blocks, blocksIn_eq, hyields]
  constructor
  · have hfirst := hconverts "<blockquote class=\"\">x</blockquote>" .blockquote
      ⟨"x", "<blockquote class=\"pb-blockquote\">x</blockquote>", "pb-blockquote"⟩
      fun wanted => by cases wanted <;> decide +kernel
    have hsecond := hconverts "<blockquote class=\"wp-block-quote pb-blockquote\">x</blockquote>" .blockquote
      ⟨"x", "<blockquote class=\"wp-block-quote pb-blockquote\">x</blockquote>",
        "wp-block-quote pb-blockquote"⟩
      fun wanted => by cases wanted <;> decide +kernel
    have hhtml : (Gutenberg.capturedBlock .blockquote
        ⟨"x", "<blockquote class=\"pb-blockquote\">x</blockquote>", "pb-blockquote"⟩).html =
          "<blockquote class=\"wp-block-quote pb-blockquote\">x</blockquote>" := by decide +kernel
    exact ⟨_, _, hfirst, hhtml, hhtml ▸ hsecond, by decide +kernel⟩
  · have hfirst := hconverts "<p class=\"a&#13;b\">x</p>" .paragraph
      ⟨"x", "<p class=\"a\rb pb-paragraph\">x</p>", "a\rb pb-paragraph"⟩
      fun wanted => by cases wanted <;> decide +kernel
    have hsecond := hconverts "<p class=\"a\rb pb-paragraph\">x</p>" .paragraph
      ⟨"x", "<p class=\"a\nb pb-paragraph\">x</p>", "a\nb pb-paragraph"⟩
      fun wanted => by cases wanted <;> decide +kernel
    have hhtml : (Gutenberg.capturedBlock .paragraph
        ⟨"x", "<p class=\"a\rb pb-paragraph\">x</p>", "a\rb pb-paragraph"⟩).html =
          "<p class=\"a\rb pb-paragraph\">x</p>" := by decide +kernel
    exact ⟨_, _, hfirst, hhtml, hhtml ▸ hsecond, by decide +kernel⟩

end Converter

end PageBlocks
