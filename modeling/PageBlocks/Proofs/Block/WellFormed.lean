import PageBlocks.Proofs.Block.Origins
import PageBlocks.Proofs.Block.Stamping
import PageBlocks.Proofs.Gutenberg.Held
import PageBlocks.Proofs.Gutenberg.Kinds
import PageBlocks.Proofs.Markup.Elements
import PageBlocks.Proofs.Page.ShownStyles

/-!
What every block of a page has. Texts and addresses are trimmed and not empty, a paragraph has text, and
the markup of an element that is captured is that of its children between its own tags, the stamp among
the classes that its start tag shows.
-/
namespace PageBlocks

open Markup

/-- Trimmed, and not empty. -/
def Text.IsTrimmed (s : String) : Prop := s ≠ "" ∧ trim s = s

instance (s : String) : Decidable (Text.IsTrimmed s) := inferInstanceAs (Decidable (_ ∧ _))

/-- The markup of an element of a kind: its start tag, in which the class attribute has its new value and
the other attributes are those of the element, what it holds, and its end tag. -/
structure Captured.IsMarkupOf (html : Captured) (kind : CaptureKind) (e : Element)
    (children : List Node) : Prop where
  tag : e.tag = kind.tag
  attrs : ∃ front back, (e.attrs = front ++ back ∨ ∃ old, e.attrs = front ++ ⟨.plain "class", old⟩ :: back) ∧
    Attributes.get? front "class" = none ∧
    html.outer = "<" ++ kind.tag ++ Element.writtenAttrs front ++ " class=\"" ++ escapeValue html.classes ++
      "\"" ++ Element.writtenAttrs back ++ ">" ++ html.inner ++ "</" ++ kind.tag ++ ">"
  inner : html.inner = Node.markupOf children

/-- What every block has that is made of elements and texts of a page. -/
def Block.IsWellFormed (stamps : Stamps) (elements : List (Element × List Node)) :
    Block ImageRef → Prop
  | .heading level text anchor =>
    (1 ≤ level.value ∧ level.value ≤ 6) ∧ Text.IsTrimmed text ∧ ∀ id ∈ anchor, Text.IsTrimmed id
  | .image source => Text.IsTrimmed source.src
  | .captured kind html =>
    stamps.of kind ∈ Text.words html.classes ∧
      ∃ e children, (e, children) ∈ elements ∧ html.IsMarkupOf kind e children ∧
        (kind = .paragraph → Text.isAllBlank (Node.textOf children) = false)
  | .embed _ => True
  | .plainText value => Text.IsTrimmed value

theorem Text.isTrimmed_of_trimmed? {s t : String} (h : trimmed? s = some t) : IsTrimmed t := by
  rw [trimmed?_eq] at h
  split at h
  · cases h
  · rename_i hblank
    obtain rfl := Option.some.inj h
    refine ⟨fun hempty => hblank ?_, trim_trim s⟩
    rw [isAllBlank_iff, ← String.ofList_eq_empty_iff]
    exact hempty

/-! ### Captured markup -/

namespace Markup

/-- A value that is written under a name stands among the attributes in place of the first value there,
or where there was none before it. -/
theorem Attributes.exists_insert (name : AttrName) (value : String) (attrs : Attributes) :
    ∃ front back, (attrs = front ++ back ∨ ∃ old, attrs = front ++ ⟨name, old⟩ :: back) ∧
      find? name front = none ∧ insert name value attrs = front ++ ⟨name, value⟩ :: back := by
  induction attrs with
  | nil => exact ⟨[], [], .inl rfl, rfl, rfl⟩
  | cons a attrs ih =>
    rw [insert]
    split
    · rename_i hname
      exact ⟨[], attrs, .inr ⟨a.value, by rw [← hname]; rfl⟩, rfl, rfl⟩
    · rename_i hname
      split
      · exact ⟨[], a :: attrs, .inl rfl, rfl, rfl⟩
      · obtain ⟨front, back, hattrs, hfront, hinsert⟩ := ih
        refine ⟨a :: front, back, ?_, ?_, by rw [hinsert]; rfl⟩
        · rcases hattrs with rfl | ⟨old, rfl⟩
          · exact .inl rfl
          · exact .inr ⟨old, rfl⟩
        · rw [find?, if_neg hname, hfront]

theorem Element.writtenAttrs_append (front back : Attributes) :
    writtenAttrs (front ++ back) = writtenAttrs front ++ writtenAttrs back := by
  rw [← String.toList_inj, String.toList_append]
  simp [toList_writtenAttrs, pairs, attrsText]

theorem Element.writtenAttrs_class (value : String) (attrs : Attributes) :
    writtenAttrs (⟨.plain "class", value⟩ :: attrs) =
      " class=\"" ++ escapeValue value ++ "\"" ++ writtenAttrs attrs := by
  rw [← String.toList_inj]
  simp [toList_writtenAttrs, pairs, attrsText, attrText, escapeValue, AttrName.plain, AttrName.written]

/-- The markup of an element that can hold something, and no raw text. -/
theorem Node.toMarkup_element {e : Element} (children : List Node) (hvoid : e.isVoid = false)
    (hraw : e.hasRawText = false) :
    (Node.element e children).toMarkup = e.startTag ++ markupOf children ++ e.endTag := by
  rw [toMarkup, write, hvoid, hraw, markupOf, ← String.toList_inj]
  simp [toList_writeAll false e.startTag]

end Markup

theorem Role.eq_tag_of_capture {tag : String} {kind : CaptureKind} (h : Role.ofTag tag = .capture kind) :
    tag = kind.tag := by
  unfold Role.ofTag at h
  split at h
  · cases h
  · split at h
    · cases h
    · obtain rfl := Role.capture.inj h
      rfl
    · obtain rfl := Role.capture.inj h
      rfl
    · obtain rfl := Role.capture.inj h
      rfl
    · obtain rfl := Role.capture.inj h
      rfl
    · obtain rfl := Role.capture.inj h
      rfl
    · cases h
    · split at h <;> cases h

/-- What is captured is the markup of its element, around that of the children. -/
theorem isMarkupOf_stamp {e : Element} {children : List Node} {kind : CaptureKind}
    {stamp inner outer classes : String} (hlower : Text.lower e.tag = e.tag)
    (hrole : Role.ofTag (Text.lower e.tag) = .capture kind)
    (hinner : inner = String.join (children.map Node.toMarkup))
    (houter : outer = (Node.element (e.stamp stamp) children).toMarkup)
    (hclasses : classes = e.stampedClasses stamp) :
    Captured.IsMarkupOf ⟨inner, outer, classes⟩ kind e children := by
  have htag : e.tag = kind.tag := Role.eq_tag_of_capture (hlower ▸ hrole)
  rw [Node.join_toMarkup] at hinner
  obtain ⟨front, back, hattrs, hfront, hinsert⟩ :=
    Attributes.exists_insert (.plain "class") classes e.attrs
  have hstamped : e.stamp stamp = { e with attrs := front ++ ⟨.plain "class", classes⟩ :: back } := by
    rw [Element.stamp, Element.set, Attributes.set, ← hclasses, hinsert]
  obtain ⟨hvoid, hraw⟩ :=
    isVoid_of_capture (e := { e with attrs := front ++ ⟨.plain "class", classes⟩ :: back }) hrole
  refine ⟨htag, ⟨front, back, hattrs, hfront, ?_⟩, hinner⟩
  dsimp only
  rw [houter, hinner, hstamped, Node.toMarkup_element children hvoid hraw, Element.startTag, Element.endTag,
    Element.writtenAttrs_append, Element.writtenAttrs_class, htag]
  simp only [String.append_assoc]

/-! ### All blocks -/

/-- A block that an element yields by itself is well formed. -/
theorem isWellFormed_yield {stamps : Stamps} {elements : List (Element × List Node)} {e : Element}
    {children : List Node} {b : Block ImageRef} (h : Fate.ofElement e children = .yield (some b)) :
    b.IsWellFormed stamps elements := by
  unfold Fate.ofElement at h
  split at h
  · rename_i level _
    obtain ⟨text, htext, rfl⟩ := Option.map_eq_some_iff.mp (Fate.yield.inj h)
    refine ⟨⟨level.one_le, level.le_six⟩, Text.isTrimmed_of_trimmed? htext, fun id hid => ?_⟩
    obtain ⟨value, -, hvalue⟩ := Option.bind_eq_some_iff.mp hid
    exact Text.isTrimmed_of_trimmed? hvalue
  · obtain ⟨src, hsrc, rfl⟩ := Option.map_eq_some_iff.mp (Fate.yield.inj h)
    obtain ⟨value, -, hvalue⟩ := Option.bind_eq_some_iff.mp hsrc
    exact Text.isTrimmed_of_trimmed? hvalue
  · split at h <;> cases h
  · cases h
  · obtain rfl := Option.some.inj (Fate.yield.inj h)
    trivial
  · cases h
  · cases h

/-- The block that takes the place of a node is well formed. -/
theorem isWellFormed_block? {stamps : Stamps} (hstamps : ∀ kind, Text.IsWord (stamps.of kind)) {n : Node}
    {elements : List (Element × List Node)} {b : Block ImageRef}
    (helements : ∀ e children, n = .element e children →
      (e, children) ∈ elements ∧ Text.lower e.tag = e.tag)
    (h : n.block? stamps = some b) : b.IsWellFormed stamps elements := by
  cases n with
  | comment _ => cases h
  | doctype _ => cases h
  | text value =>
    rw [Node.block?, textBlock, if_pos rfl, Option.map_eq_some_iff] at h
    obtain ⟨t, ht, rfl⟩ := h
    exact Text.isTrimmed_of_trimmed? ht
  | element e children =>
    obtain ⟨hmem, hlower⟩ := helements e children rfl
    rw [Node.block?] at h
    split at h
    · rename_i hfate
      subst h
      exact isWellFormed_yield hfate
    · rename_i kind hfate
      rw [Option.some.injEq] at h
      subst h
      obtain ⟨hrole, hblank⟩ := Fate.role_of_capture hfate
      have hwords : stamps.of kind ∈ Text.words (e.stampedClasses (stamps.of kind)) :=
        mem_words_stampClasses _ (hstamps kind)
      rw [captureBlock, Block.IsWellFormed]
      dsimp only
      exact ⟨hwords, e, children, hmem, isMarkupOf_stamp hlower hrole rfl rfl rfl, hblank⟩
    · cases h

/-- Every block of a page whose tags are in small letters is well formed, if the stamps have a valid
lead. -/
theorem isWellFormed_blocks {d : Document}
    (hlower : ∀ x ∈ Node.elementsOf d.children, Text.lower x.1.tag = x.1.tag) {lead : String}
    (hlead : isClassName lead = true) :
    ∀ b ∈ d.blocks (.ofLead lead), b.IsWellFormed (.ofLead lead) (Node.elementsOf d.bodyChildren) := by
  intro b hb
  have horigins := origins_findingsFrom (.ofLead lead) d.bodyChildren
  rw [Document.blocks, ← horigins.blocks] at hb
  obtain ⟨⟨path, b⟩, hs, rfl⟩ := List.mem_map.mp hb
  obtain ⟨n, hn, hblock⟩ := Option.bind_eq_some_iff.mp (horigins.nodes _ hs)
  refine isWellFormed_block? (Stamps.isWord_of_ofLead hlead) (fun e children hnode => ?_) hblock
  rw [hnode] at hn
  have hmem := Node.mem_elementsOf_of_getIn? hn
  exact ⟨hmem, hlower (e, children) (d.elementsOf_bodyChildren_subset hmem)⟩

/-- A page with a heading, an image in a paragraph without text, an ordered list with a class and a
language, and a paragraph. -/
def mixedPage : Document :=
  ⟨[.element ⟨.html, "body", []⟩
    [.element ⟨.html, "h2", [⟨.plain "id", " a "⟩]⟩ [.text " News\n"],
      .element ⟨.html, "p", []⟩ [.element ⟨.html, "img", [⟨.plain "src", " a.png "⟩]⟩ []],
      .element ⟨.html, "ol", [⟨.plain "class", " \"x\" "⟩, ⟨.plain "lang", "de"⟩]⟩
        [.element ⟨.html, "li", []⟩ [.text "a & b"]],
      .element ⟨.html, "p", []⟩ [.text "c"], .text " d "]]⟩

/-- The list of the page as it is captured. -/
def mixedPageList : Captured where
  inner := "<li>a &amp; b</li>"
  outer := "<ol class=\"&quot;x&quot; pb-list\" lang=\"de\"><li>a &amp; b</li></ol>"
  classes := "\"x\" pb-list"

theorem isWellFormed_mixedPage :
    (∀ x ∈ Node.elementsOf mixedPage.children, Text.lower x.1.tag = x.1.tag) ∧ isClassName "pb" = true ∧
      .captured (.list true) mixedPageList ∈ mixedPage.blocks (.ofLead "pb") ∧
      (Block.captured (.list true) mixedPageList).IsWellFormed (.ofLead "pb")
        (Node.elementsOf mixedPage.bodyChildren) := by
  have hlower : ∀ x ∈ Node.elementsOf mixedPage.children, Text.lower x.1.tag = x.1.tag := by
    decide +kernel
  have hmem : .captured (.list true) mixedPageList ∈ mixedPage.blocks (.ofLead "pb") := by
    rw [Document.blocks, blocksIn_eq]
    decide +kernel
  exact ⟨hlower, by decide +kernel, hmem, isWellFormed_blocks hlower (by decide +kernel) _ hmem⟩

end PageBlocks
