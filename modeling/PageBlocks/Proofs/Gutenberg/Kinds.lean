import PageBlocks.Emit.Gutenberg
import PageBlocks.Proofs.Block.Recursion
import PageBlocks.Proofs.Image.Placing
import PageBlocks.Proofs.Markup.Fragment
import PageBlocks.Proofs.Markup.Plain
import Mathlib.Data.List.Forall2

/-!
The markup of a post read as a page. The markup of a block is one element around what the page had there;
if what it had is plain, the element comes back with all of it inside and yields a block of the same kind.
-/
namespace PageBlocks

open Markup

/-! ### The markup of blocks as characters -/

theorem Emit.escapesText : EscapesText Emit.escapeTextChar := by
  intro c
  unfold Emit.escapeTextChar
  split
  · exact .inr (.inl ⟨_, rfl, Entity.settles_amp⟩)
  · exact .inr (.inl ⟨_, rfl, Entity.settles_lt⟩)
  · exact .inr (.inl ⟨_, rfl, Entity.settles_gt⟩)
  · exact Or.inl ⟨rfl, by assumption, by assumption⟩

theorem Emit.escapesValue : EscapesValue Emit.escapeValueChar := by
  intro c
  unfold Emit.escapeValueChar
  split
  · exact .inr (.inl ⟨_, rfl, Entity.settles_quot⟩)
  · rename_i hquote
    rcases Emit.escapesText c with ⟨hself, hamp, -⟩ | href
    · exact Or.inl ⟨hself, hamp, hquote⟩
    · exact Or.inr href

namespace Gutenberg

open Parser

theorem toList_optAttr (name : String) (value : Option String) :
    (optAttr name value).toList =
      Markup.attrsText Emit.escapeValueChar (value.map fun v => (name, v)).toList := by
  cases value with
  | none => rfl
  | some v => simp [optAttr, Markup.attrsText, attrText, Emit.escapeValue]

/-- An element around markup, whose class attribute has a value of its own. -/
theorem toList_element (tag value inner : String) {attrs : String} {more : List (String × String)}
    (hattrs : attrs.toList = Markup.attrsText Emit.escapeValueChar more) :
    (element tag (Emit.escapeValue value) attrs inner).toList =
      startText Emit.escapeValueChar tag (("class", value) :: more) ++
        (inner.toList ++ endText tag) := by
  simp [element, hattrs, startText, Markup.attrsText, attrText, endText, Emit.escapeValue]

end Gutenberg

/-! ### One block -/

open Parser

/-- The markup is that of one element that can begin a page, and the element comes back as one that yields
one block; what is looked at of blocks is the same of it. -/
structure ComesBack {β : Type} (look : Block ImageRef → β) (html : String) (seen : β) : Prop where
  starts : ∃ escape name attrs rest, EscapesValue escape ∧ isWritable name attrs = true ∧
    ((Tag.ofString name).sort.isOfText || (Tag.ofString name).sort.isEmpty) = true ∧
    html.toList = startText escape name attrs ++ rest
  reads : ∃ n : Node, (∀ ns, Reads html.toList (bodyLayers ns) (bodyLayers (ns ++ [n]))) ∧
    ∀ stamps, (n.yields stamps true).map look = [seen]

section

variable {β γ : Type} {look : Block ImageRef → β} {seen : β}

/-- The less is looked at, the more comes back. -/
theorem ComesBack.map {html : String} (h : ComesBack look html seen) (f : β → γ) :
    ComesBack (f ∘ look) html (f seen) := by
  obtain ⟨n, hreads, hyields⟩ := h.reads
  refine ⟨h.starts, n, hreads, fun stamps => ?_⟩
  rw [← List.map_map, hyields, List.map_singleton]

/-- An element comes back if its content does. -/
theorem ComesBack.of_element {tag value attrs inner : String} {more : List (String × String)}
    (children : List Node) (hattrs : attrs.toList = Markup.attrsText Emit.escapeValueChar more)
    (hwritable : isWritable tag (("class", value) :: more) = true)
    (hbegins : Tag.begins [.body, .html] (.ofString tag) = true)
    (hsort : (Tag.ofString tag).sort.isOfText = true)
    (hinner : ∀ ns own, Reads inner.toList (⟨.ofString tag, own, []⟩ :: bodyLayers ns)
      (⟨.ofString tag, own, children⟩ :: bodyLayers ns))
    (hyields : ∀ stamps, ((Node.element ⟨.html, tag, attrsOf tag (("class", value) :: more)⟩
      children).yields stamps true).map look = [seen]) :
    ComesBack look (Gutenberg.element tag (Emit.escapeValue value) attrs inner) seen := by
  have hmarkup := Gutenberg.toList_element tag value inner hattrs
  let own := attrsOf tag (("class", value) :: more)
  constructor
  · exact ⟨_, _, _, _, Emit.escapesValue, hwritable, by rw [hsort, Bool.true_or], hmarkup⟩
  · refine ⟨.element ⟨.html, tag, own⟩ children, fun ns => ?_, hyields⟩
    rw [hmarkup]
    exact reads_element ⟨.body, [], ns⟩ [rootLayer] Emit.escapesValue hwritable hbegins .body
      (hinner ns own)

end

/-- Whether the text of a block of the page can be written. -/
def isKeptText (s : String) : Bool := s.toList.all isKept

theorem isWritable_class {tag value : String} (htag : isTagName tag.toList = true)
    (hvalue : isKeptText value = true) : isWritable tag [("class", value)] = true := by
  have hclass : isAttrName "class".toList = true := by decide
  rw [isKeptText] at hvalue
  simp only [isWritable, htag, List.all_cons, List.all_nil, hclass, hvalue]
  simp

theorem isWritable_class_id {tag value : String} {id : Option String}
    (htag : isTagName tag.toList = true) (hvalue : isKeptText value = true)
    (hid : id.all isKeptText = true) :
    isWritable tag (("class", value) :: (id.map fun v => ("id", v)).toList) = true := by
  cases id with
  | none => exact isWritable_class htag hvalue
  | some v =>
    have hnames : isAttrName "class".toList = true ∧ isAttrName "id".toList = true := by decide
    have hv : v.toList.all isKept = true := hid
    rw [isKeptText] at hvalue
    simp only [isWritable, htag, Option.map_some, Option.toList_some, List.all_cons, List.all_nil,
      hnames, hvalue, hv]
    simp

namespace HeadingLevel

/-- The element of a heading. -/
theorem tag_spec (level : HeadingLevel) :
    isTagName level.tag.toList = true ∧ Tag.begins [.body, .html] (.ofString level.tag) = true ∧
      (Tag.ofString level.tag).sort = .heading ∧
      Role.ofTag (Text.lower level.tag) = .heading level := by
  rcases level.value_cases with rfl | rfl | rfl | rfl | rfl | rfl <;> decide +kernel

end HeadingLevel

/-- A heading comes back, trimmed. -/
theorem comesBack_heading (level : HeadingLevel) {text : String} {anchor : Option String}
    (hblank : Text.isAllBlank text = false) (htext : isKeptText text = true)
    (hanchor : anchor.all isKeptText = true) :
    ComesBack id (Gutenberg.headingBlock level text anchor).html
      (.heading level (Text.trim text) (anchor.bind Text.trimmed?)) := by
  obtain ⟨hname, hbegins, hsort, hrole⟩ := level.tag_spec
  have hclass : Emit.escapeValue "wp-block-heading" = "wp-block-heading" := by decide +kernel
  have hhtml : (Gutenberg.headingBlock level text anchor).html =
      Gutenberg.element level.tag (Emit.escapeValue "wp-block-heading")
        (Gutenberg.optAttr "id" anchor) (Emit.escapeText text) := by
    rw [hclass]
    rfl
  have hkept : isKeptText "wp-block-heading" = true := by decide +kernel
  have hwritable := isWritable_class_id hname hkept hanchor
  have htextOf : Node.textOf (text.toList.foldl Node.pushChar []) = text := by
    rw [Node.textOf_foldl_pushChar, String.ofList_toList]
    exact String.empty_append
  rw [hhtml]
  refine ComesBack.of_element (text.toList.foldl Node.pushChar []) (Gutenberg.toList_optAttr "id" anchor)
    hwritable hbegins (hsort ▸ rfl) (fun ns own => ?_) fun stamps => ?_
  · have htakes : Tag.takesText [Tag.ofString level.tag, .body, .html] = true := by
      rw [Tag.takesText, Tag.modeIn_of_isOfText (hsort ▸ rfl) (hsort ▸ TagSort.noConfusion)]
      rfl
    rw [Emit.escapeText, String.toList_ofList]
    exact reads_text Emit.escapesText htext (Or.inl htakes)
  · have hid : (attrsOf level.tag (("class", "wp-block-heading") ::
        (anchor.map fun v => ("id", v)).toList)).get? "id" = anchor := by
      rw [get?_attrsOf]
      cases anchor <;> rfl
    rw [Node.yields, hrole, htextOf, hblank, Element.get?, hid]
    rfl

/-- What is captured by its role. -/
theorem Fate.role_of_capture {e : Element} {children : List Node} {kind : CaptureKind}
    (h : Fate.ofElement e children = .capture kind) :
    Role.ofTag (Text.lower e.tag) = .capture kind ∧
      (kind = .paragraph → Text.isAllBlank (Node.textOf children) = false) := by
  unfold Fate.ofElement at h
  split at h
  · cases h
  · cases h
  · rename_i hrole
    split at h
    · cases h
    · rename_i hblank
      obtain rfl := Fate.capture.inj h
      exact ⟨hrole, fun _ => Bool.eq_false_iff.mpr hblank⟩
  · rename_i hne hrole
    obtain rfl := Fate.capture.inj h
    exact ⟨hrole, fun heq => absurd heq hne⟩
  · cases h
  · cases h
  · cases h

/-- An element that is captured by its role yields a block of that kind alone. -/
theorem kindName_of_role {e : Element} {children : List Node} {kind : CaptureKind}
    (hrole : Role.ofTag (Text.lower e.tag) = .capture kind)
    (hblank : kind = .paragraph → Text.isAllBlank (Node.textOf children) = false) (html : Captured)
    (stamps : Stamps) (container : Bool) :
    ((Node.element e children).yields stamps container).map Block.kindName =
      [(Block.captured kind html : Block ImageRef).kindName] := by
  rw [Node.yields, hrole]
  cases kind with
  | paragraph =>
    rw [hblank rfl]
    rfl
  | list ordered => rfl
  | table => rfl
  | blockquote => rfl

/-- A captured element whose content is plain comes back. -/
theorem comesBack_plain (name : String) (kind : CaptureKind) (html : Captured) {value : String}
    {t : Tag} {children : List Node}
    (htag : Tag.ofString name = t) (hname : isTagName name.toList = true)
    (hbegins : Tag.begins [.body, .html] t = true) (hsort : t.sort.isOfText = true)
    (hvalue : isKeptText value = true) (hplain : Node.arePlain [t, .body, .html] children = true)
    (hrole : Role.ofTag (Text.lower name) = .capture kind)
    (hblank : kind = .paragraph → Text.isAllBlank (Node.textOf children) = false) :
    ComesBack Block.kindName
      (Gutenberg.element name (Emit.escapeValue value) "" (Node.markupOf children))
      (Block.captured kind html : Block ImageRef).kindName := by
  subst htag
  have htext : Node.textOf (Node.readAllInto [] children) = Node.textOf children := by
    rw [Node.textOf_readAllInto]
    exact String.empty_append
  refine ComesBack.of_element (Node.readAllInto [] children) rfl (isWritable_class hname hvalue)
    hbegins hsort (fun ns own => ?_) fun stamps => ?_
  · exact Node.reads_writeAll children ⟨.ofString name, own, []⟩ (bodyLayers ns)
      (.inside hbegins .body) hplain
  · exact kindName_of_role (e := ⟨.html, name, _⟩) hrole (fun h => htext ▸ hblank h) html stamps true

/-- Whether a captured element comes back. -/
def captureComesBack (stamps : Stamps) (kind : CaptureKind) (e : Element) (children : List Node) :
    Bool :=
  match kind with
  | .paragraph =>
    isKeptText (e.stampedClasses stamps.paragraph) && Node.arePlain [.p, .body, .html] children
  | .list ordered =>
    isKeptText (e.stampedClasses stamps.list) &&
      Node.arePlain [if ordered then .ol else .ul, .body, .html] children
  | .table => (Node.element (e.stamp stamps.table) children).isPlain [.figure, .body, .html]
  | .blockquote =>
    isKeptText (e.stampedClasses stamps.blockquote) &&
      Node.arePlain [.blockquote, .body, .html] children

theorem isKeptText_append (s t : String) :
    isKeptText (s ++ t) = (isKeptText s && isKeptText t) := by
  simp [isKeptText]

theorem Emit.escapeValue_append (s t : String) :
    Emit.escapeValue (s ++ t) = Emit.escapeValue s ++ Emit.escapeValue t := by
  simp [Emit.escapeValue]

/-- The element around a table. -/
theorem Gutenberg.figure_eq (outer : String) :
    "<figure class=\"wp-block-table\">" ++ outer ++ "</figure>" =
      Gutenberg.element "figure" (Emit.escapeValue "wp-block-table") "" outer := by
  have hopen : "<" ++ "figure" ++ " class=\"" ++ Emit.escapeValue "wp-block-table" ++ "\"" ++ "" ++ ">" =
      "<figure class=\"wp-block-table\">" := by decide +kernel
  have hclose : "</figure>" = "</" ++ ("figure" ++ ">") := rfl
  rw [Gutenberg.element, hopen, hclose]
  simp only [String.append_assoc]

/-- A table that is plain comes back in the figure that is put around it. -/
theorem comesBack_table {e : Element} {children : List Node}
    (hrole : Role.ofTag (Text.lower e.tag) = .capture .table)
    (hplain : (Node.element e children).isPlain [.figure, .body, .html] = true) :
    ComesBack Block.kindName (Gutenberg.element "figure" (Emit.escapeValue "wp-block-table") ""
      (Node.element e children).toMarkup) "table" := by
  have hfigure : Tag.ofString "figure" = .figure := by decide +kernel
  have hgroup : Role.ofTag (Text.lower "figure") = .group := by decide +kernel
  have hkept : isKeptText "wp-block-table" = true := by decide +kernel
  have hbegins : Tag.begins [.body, .html] .figure = true := rfl
  refine ComesBack.of_element ((Node.element e children).readInto []) rfl
    (isWritable_class (by decide) hkept) (hfigure ▸ hbegins) (hfigure ▸ rfl)
    (fun ns own => ?_) fun stamps => ?_
  · rw [hfigure]
    exact Node.reads_write _ ⟨.figure, own, []⟩ (bodyLayers ns) (.inside hbegins .body) hplain
  · rw [Node.yields, hgroup]
    dsimp only
    rw [Node.readInto, List.nil_append, Node.yieldsAll, Node.yieldsAll, List.append_nil]
    exact kindName_of_role (e := ⟨.html, e.tag, .ofList e.attrs⟩) hrole (by simp) default stamps true

/-- A captured element comes back. -/
theorem comesBack_captured (stamps : Stamps) {kind : CaptureKind} {e : Element} {children : List Node}
    (hfate : Fate.ofElement e children = .capture kind)
    (h : captureComesBack stamps kind e children = true) (placed : Captured)
    (hplaced : captureBlock stamps kind e children = .captured kind placed) :
    ComesBack Block.kindName (Gutenberg.capturedBlock kind placed).html
      (captureBlock stamps kind e children).kindName := by
  obtain ⟨hrole, hblank⟩ := Fate.role_of_capture hfate
  obtain ⟨-, rfl⟩ := Block.captured.inj hplaced
  simp only [Gutenberg.capturedBlock, Node.join_toMarkup, Gutenberg.figure_eq]
  cases kind with
  | paragraph =>
    rw [captureComesBack, Bool.and_eq_true] at h
    exact comesBack_plain "p" .paragraph _ (t := .p) (by decide +kernel) (by decide) rfl rfl h.1 h.2
      (by decide +kernel) hblank
  | list ordered =>
    rw [captureComesBack, Bool.and_eq_true] at h
    cases ordered with
    | false =>
      exact comesBack_plain "ul" (.list false) _ (t := .ul) (by decide +kernel) (by decide) rfl rfl
        h.1 h.2 (by decide +kernel) (by simp)
    | true =>
      exact comesBack_plain "ol" (.list true) _ (t := .ol) (by decide +kernel) (by decide) rfl rfl
        h.1 h.2 (by decide +kernel) (by simp)
  | table => exact comesBack_table hrole h
  | blockquote =>
    rw [captureComesBack, Bool.and_eq_true] at h
    have hlead : Emit.escapeValue "wp-block-quote " = "wp-block-quote " ∧
        isKeptText "wp-block-quote " = true := by decide +kernel
    have hvalue : isKeptText ("wp-block-quote " ++ e.stampedClasses stamps.blockquote) = true := by
      rw [isKeptText_append, hlead.2, h.1]
      rfl
    rw [← hlead.1, ← Emit.escapeValue_append]
    exact comesBack_plain "blockquote" .blockquote _ (t := .blockquote) (by decide +kernel) (by decide)
      rfl rfl hvalue h.2 (by decide +kernel) (by simp)

/-! ### The blocks of a tree -/

/-- Whether the markup of a block is one element around what the page has there. -/
def Block.isElement {ι : Type} : Block ι → Bool
  | .heading .. | .captured .. => true
  | _ => false

/-- The only such blocks that take the place of an element uncaptured are headings, whose text is not
blank. -/
theorem Fate.of_yield {e : Element} {children : List Node} {b : Block ImageRef}
    (h : Fate.ofElement e children = .yield (some b)) (helement : b.isElement = true) :
    ∃ level text anchor, b = .heading level text anchor ∧ Text.isAllBlank text = false := by
  unfold Fate.ofElement at h
  split at h
  case h_1 =>
    have hblock := Fate.yield.inj h
    rw [headingBlock, Text.trimmed?_eq] at hblock
    split at hblock
    · cases hblock
    · rename_i hblank
      refine ⟨_, _, _, (Option.some.inj hblock).symm, ?_⟩
      rw [Text.isAllBlank_iff] at hblank
      rw [Bool.eq_false_iff, ne_eq, Text.isAllBlank_iff, Text.trim, String.toList_ofList,
        Text.trimChars_trimChars]
      exact hblank
  case h_2 =>
    have hblock := Fate.yield.inj h
    rw [imageBlock, Option.map_eq_some_iff] at hblock
    obtain ⟨_, -, rfl⟩ := hblock
    cases helement
  case h_3 => split at h <;> cases h
  case h_5 =>
    obtain rfl := Option.some.inj (Fate.yield.inj h)
    cases helement
  all_goals cases h

mutual

/-- Whether everything that is captured in a tree comes back, and every heading can be written. -/
def Markup.Node.comesBack (stamps : Stamps) : Node → Bool
  | .element e children =>
    match Fate.ofElement e children with
    | .yield (some (.heading _ value anchor)) => isKeptText value && anchor.all isKeptText
    | .yield _ => true
    | .capture kind => captureComesBack stamps kind e children
    | .visit _ => allComeBack stamps children
  | _ => true

def Markup.Node.allComeBack (stamps : Stamps) : List Node → Bool
  | [] => true
  | n :: rest => n.comesBack stamps && allComeBack stamps rest

end

section

variable {σ : Type} (store : Image.Store σ) (how : Image.Placing)

/-- A block comes back, whatever has come of placing the images before it. -/
def Block.ComesBack (b : Block ImageRef) : Prop :=
  ∀ p : Image.Progress σ,
    PageBlocks.ComesBack Block.kindName (Gutenberg.blockOf (Image.placeBlock store how p b).1).html
      b.kindName

mutual

theorem comesBack_of_yields (stamps : Stamps) (container : Bool) (n : Node)
    (h : n.comesBack stamps = true) {b : Block ImageRef} (hb : b ∈ n.yields stamps container)
    (helement : b.isElement = true) : b.ComesBack store how := by
  match n with
  | .text _ =>
    rw [Node.yields] at hb
    split at hb
    · obtain rfl := List.mem_singleton.mp hb
      cases helement
    · cases hb
  | .comment _ | .doctype _ => rw [Node.yields] at hb; cases hb
  | .element e children =>
    rw [yields_element] at hb
    rw [Node.comesBack] at h
    cases hfate : Fate.ofElement e children with
    | yield block =>
      rw [hfate] at hb h
      obtain rfl := Option.mem_toList.mp hb
      obtain ⟨level, text, anchor, rfl, hblank⟩ := Fate.of_yield hfate helement
      dsimp only at h
      rw [Bool.and_eq_true] at h
      intro p
      exact (comesBack_heading level hblank h.1 h.2).map Block.kindName
    | capture kind =>
      rw [hfate] at hb h
      obtain rfl := List.mem_singleton.mp hb
      intro p
      exact comesBack_captured stamps hfate h _ rfl
    | visit inner =>
      rw [hfate] at hb h
      exact comesBack_of_yieldsAll stamps inner children h hb helement

theorem comesBack_of_yieldsAll (stamps : Stamps) (container : Bool) (ns : List Node)
    (h : Node.allComeBack stamps ns = true) {b : Block ImageRef}
    (hb : b ∈ Node.yieldsAll stamps container ns) (helement : b.isElement = true) :
    b.ComesBack store how := by
  match ns with
  | [] => cases hb
  | n :: ns =>
    rw [Node.allComeBack, Bool.and_eq_true] at h
    rw [Node.yieldsAll, List.mem_append] at hb
    rcases hb with hb | hb
    · exact comesBack_of_yields stamps container n h.1 hb helement
    · exact comesBack_of_yieldsAll stamps container ns h.2 hb helement

end

end

/-! ### Whole pages -/

section

variable {β : Type} {look : Block ImageRef → β} {htmls : List String} {seen : List β}

/-- Markup of which each part comes back is read as one page. -/
theorem reads_join (h : List.Forall₂ (ComesBack look) htmls seen) :
    ∃ ns : List Node,
      (∀ ms, Reads (String.join htmls).toList (bodyLayers ms) (bodyLayers (ms ++ ns))) ∧
        ∀ stamps, (Node.yieldsAll stamps true ns).map look = seen := by
  induction h with
  | nil => exact ⟨[], fun ms => (List.append_nil ms).symm ▸ .nil _, fun _ => rfl⟩
  | @cons html one htmls seen hfirst _ ih =>
    obtain ⟨n, hreads, hone⟩ := hfirst.reads
    obtain ⟨ns, hrest, hseen⟩ := ih
    refine ⟨n :: ns, fun ms => ?_, fun stamps => ?_⟩
    · have hboth := (hreads ms).append (hrest (ms ++ [n]))
      rw [List.append_assoc, List.singleton_append] at hboth
      rw [String.join_cons, String.toList_append]
      exact hboth
    · rw [Node.yieldsAll, List.map_append, hone, hseen, List.singleton_append]

/-- A page of which each part comes back has the blocks of the parts. -/
theorem blocks_join (h : List.Forall₂ (ComesBack look) htmls seen) (stamps : Stamps) :
    ((Document.ofText (String.join htmls)).blocks stamps).map look = seen := by
  obtain ⟨ns, hreads, hseen⟩ := reads_join h
  cases h with
  | nil =>
    have hempty : Document.ofText (String.join []) = Document.ofBody [] := rfl
    rw [hempty, Document.blocks, bodyChildren_ofBody, blocksIn_eq]
    rfl
  | @cons html _ htmls _ hfirst _ =>
    obtain ⟨escape, name, attrs, rest, hescape, hwritable, hsort, htext⟩ := hfirst.starts
    have hjoin : (String.join (html :: htmls)).toList =
        startText escape name attrs ++ (rest ++ (String.join htmls).toList) := by
      rw [String.join_cons, String.toList_append, htext, List.append_assoc]
    have hpage : Document.ofText (String.join (html :: htmls)) = Document.ofBody ns := by
      have hbody := hreads []
      rw [hjoin] at hbody
      rw [← String.ofList_toList (s := String.join (html :: htmls)), hjoin]
      exact ofText_of_reads hescape hwritable hsort hbody
    rw [hpage, Document.blocks, bodyChildren_ofBody, blocksIn_eq, hseen]

end

namespace Gutenberg

variable {σ : Type} (store : Image.Store σ) (how : Image.Placing) (p : Image.Progress σ)

/-- The markup of the blocks of a page, one behind the other, with its images placed. -/
def pageMarkup (bs : List (PageBlocks.Block ImageRef)) : String :=
  String.join (((Image.placeBlocks store how p bs).1.map blockOf).map Block.html)

/-- The markup of a page without images and embedded pages, in which all text stands in headings and
captured elements, is read as a page with blocks of the same kinds. -/
theorem kindNames_pageMarkup (stamps stamps' : Stamps) (d : Document)
    (honly : (d.blocks stamps).all PageBlocks.Block.isElement = true)
    (h : Node.allComeBack stamps d.bodyChildren = true) :
    ((Document.ofText (pageMarkup store how p (d.blocks stamps))).blocks stamps').map
      PageBlocks.Block.kindName = (d.blocks stamps).map PageBlocks.Block.kindName := by
  obtain ⟨placed, hplaced, hall⟩ := Image.placeFrom_forall₂ store how (d.blocks stamps) [] p
  apply blocks_join
  rw [Image.placeBlocks, hplaced, List.reverse_nil, List.nil_append, List.map_map,
    List.forall₂_map_left_iff, List.forall₂_map_right_iff]
  have hback : ∀ b ∈ d.blocks stamps, b.ComesBack store how := by
    intro b hb
    have hmem := hb
    rw [Document.blocks, blocksIn_eq] at hmem
    exact comesBack_of_yieldsAll store how stamps true _ h hmem (List.all_eq_true.mp honly b hb)
  refine (((List.forall₂_and_left _ _).mpr ⟨hback, hall⟩).imp ?_).flip
  rintro b c ⟨hb, q, rfl⟩
  exact hb q

/-- A page with a block of each kind that has text of its own. -/
def samplePage : Document :=
  .ofText ("<h2 id=a>A</h2> <p>b <em>c<br></em></p><table><tr><td>d</table>" ++
    "<ul><li>e<li>&amp;</ul><blockquote><p>f")

theorem kindNames_pageMarkup_samplePage :
    (samplePage.blocks (.ofLead "pb")).all PageBlocks.Block.isElement = true ∧
    Node.allComeBack (.ofLead "pb") samplePage.bodyChildren = true ∧
    (samplePage.blocks (.ofLead "pb")).map PageBlocks.Block.kindName =
      ["heading", "paragraph", "table", "rich_list", "blockquote"] ∧
    ((Document.ofText (pageMarkup .none ⟨false, none⟩ (.start ())
      (samplePage.blocks (.ofLead "pb")))).blocks (.ofLead "ai")).map PageBlocks.Block.kindName =
      (samplePage.blocks (.ofLead "pb")).map PageBlocks.Block.kindName := by
  obtain ⟨honly, hback, hkinds⟩ :
      (samplePage.blocks (.ofLead "pb")).all PageBlocks.Block.isElement = true ∧
      Node.allComeBack (.ofLead "pb") samplePage.bodyChildren = true ∧
      (samplePage.blocks (.ofLead "pb")).map PageBlocks.Block.kindName =
        ["heading", "paragraph", "table", "rich_list", "blockquote"] := by
    simp only [Document.blocks, blocksIn_eq]
    decide +kernel
  exact ⟨honly, hback, hkinds,
    kindNames_pageMarkup .none ⟨false, none⟩ (.start ()) (.ofLead "pb") (.ofLead "ai") samplePage honly
      hback⟩

/-- A page with a table inside a paragraph and another paragraph in the table, outside of all cells. The
construction moves the inner paragraph before the table, into the outer one. -/
def nestedPage : Document := .ofText "<p>a<table><p>b"

/-- A paragraph in a paragraph does not come back. -/
theorem kindNames_pageMarkup_nestedPage :
    (nestedPage.blocks (.ofLead "pb")).map PageBlocks.Block.kindName = ["paragraph"] ∧
    ((Document.ofText (pageMarkup .none ⟨false, none⟩ (.start ())
      (nestedPage.blocks (.ofLead "pb")))).blocks (.ofLead "pb")).map PageBlocks.Block.kindName =
      ["paragraph", "paragraph", "table"] := by
  simp only [Document.blocks, blocksIn_eq]
  decide +kernel

end Gutenberg

end PageBlocks
