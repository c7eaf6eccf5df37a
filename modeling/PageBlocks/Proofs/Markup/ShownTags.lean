import PageBlocks.Proofs.Markup.Marks
import PageBlocks.Proofs.Markup.RawText
import PageBlocks.Proofs.Markup.StartTags

/-!
The start tags that the markup of a tree shows. Each element that is written shows its own, and each text
directly inside an element with raw text shows whatever start tags stand in it; escaped text, comments and
attribute values show none.
-/
namespace PageBlocks.Markup

open Lexer

/-- An element whose tags can be read as they are written. -/
structure Element.IsReadable (e : Element) : Prop where
  name : isElementText e.tag.toList = true
  attrs : ∀ a ∈ e.attrs, isAttrText a.name.written.toList = true

/-- An element that can be read and has another tag than the given one. -/
def Element.Differs (tag : Tag) (e : Element) : Prop :=
  e.IsReadable ∧ Tag.ofString (Text.lower e.tag) ≠ tag

namespace Node

mutual

/-- A tree whose elements have a property, and whose comments and document types end where they are meant
to. -/
def Sound (p : Element → Prop) : Node → Prop
  | .text _ => True
  | .comment value => IsSealed value.toList
  | .doctype name => '>' ∉ name.toList
  | .element e children => p e ∧ SoundAll p children

def SoundAll (p : Element → Prop) : List Node → Prop
  | [] => True
  | n :: ns => n.Sound p ∧ SoundAll p ns

end

variable {p q : Element → Prop}

theorem soundAll_iff {ns : List Node} : SoundAll p ns ↔ ∀ n ∈ ns, n.Sound p := by
  induction ns with
  | nil => exact iff_of_true trivial (by simp)
  | cons n ns ih => rw [SoundAll, ih, List.forall_mem_cons]

theorem soundAll_append {ms ns : List Node} : SoundAll p (ms ++ ns) ↔ SoundAll p ms ∧ SoundAll p ns := by
  simp only [soundAll_iff, List.forall_mem_append]

mutual

theorem Sound.imp (h : ∀ e, p e → q e) {n : Node} (hn : n.Sound p) : n.Sound q := by
  match n with
  | .text _ => trivial
  | .comment _ => exact hn
  | .doctype _ => exact hn
  | .element e children => exact ⟨h e hn.1, SoundAll.imp h hn.2⟩

theorem SoundAll.imp (h : ∀ e, p e → q e) {ns : List Node} (hns : SoundAll p ns) : SoundAll q ns := by
  match ns with
  | [] => trivial
  | n :: ns => exact ⟨Sound.imp h hns.1, SoundAll.imp h hns.2⟩

end

mutual

/-- What is found in a tree is as sound as the tree. -/
theorem Sound.find? {tag : String} {n : Node} (h : n.Sound p) {e : Element} {children : List Node}
    (hfind : n.find? tag = some (e, children)) : SoundAll p children := by
  match n with
  | .text _ | .comment _ | .doctype _ => cases hfind
  | .element self inner =>
    rw [Node.find?] at hfind
    split at hfind
    · cases hfind
      exact h.2
    · exact SoundAll.findIn? h.2 hfind

theorem SoundAll.findIn? {tag : String} {ns : List Node} (h : SoundAll p ns) {e : Element}
    {children : List Node} (hfind : Node.findIn? tag ns = some (e, children)) : SoundAll p children := by
  match ns with
  | [] => cases hfind
  | n :: ns =>
    rw [Node.findIn?] at hfind
    split at hfind
    · rename_i found hfirst
      cases hfind
      exact Sound.find? h.1 hfirst
    · exact SoundAll.findIn? h.2 hfind

end

/-- The content container of a page is as sound as the page. -/
theorem SoundAll.bodyChildren {d : Document} (h : SoundAll p d.children) : SoundAll p d.bodyChildren := by
  unfold Document.bodyChildren
  split
  · exact SoundAll.findIn? h ‹_›
  · exact h

theorem Sound.children {n : Node} (h : n.Sound p) : SoundAll p n.children := by
  cases n with
  | element e children => exact h.2
  | _ => trivial

mutual

/-- The texts of a tree that are written as they stand; `raw` tells that the parent has raw text. -/
def rawTexts (raw : Bool) : Node → List String
  | .text value => if raw then [value] else []
  | .element e children => if e.isVoid then [] else rawTextsAll e.hasRawText children
  | _ => []

def rawTextsAll (raw : Bool) : List Node → List String
  | [] => []
  | n :: ns => n.rawTexts raw ++ rawTextsAll raw ns

end

theorem rawTextsAll_eq_flatMap (raw : Bool) (ns : List Node) :
    rawTextsAll raw ns = ns.flatMap (rawTexts raw) := by
  induction ns with
  | nil => rfl
  | cons n ns ih => rw [rawTextsAll, ih, List.flatMap_cons]

theorem rawTextsAll_append (raw : Bool) (ms ns : List Node) :
    rawTextsAll raw (ms ++ ns) = rawTextsAll raw ms ++ rawTextsAll raw ns := by
  rw [rawTextsAll_eq_flatMap, rawTextsAll_eq_flatMap, rawTextsAll_eq_flatMap, List.flatMap_append]

mutual

/-- The start tags that the markup of a tree shows, in order. -/
def startTags (raw : Bool) : Node → List Tag
  | .text value => if raw then shownIn value.toList else []
  | .element e children =>
    .ofString (Text.lower e.tag) :: if e.isVoid then [] else startTagsAll e.hasRawText children
  | _ => []

def startTagsAll (raw : Bool) : List Node → List Tag
  | [] => []
  | n :: ns => n.startTags raw ++ startTagsAll raw ns

end

/-! ### Writing -/

theorem quote_notMem_escapeValueChar (c : Char) : '"' ∉ escapeValueChar c := by
  unfold escapeValueChar
  split
  · decide
  · decide
  · decide
  · rename_i hquote
    rw [List.mem_singleton]
    exact fun h => hquote h.symm

theorem shows_startTag {e : Element} (h : e.IsReadable) :
    Shows e.startTag.toList [.ofString (Text.lower e.tag)] := by
  rw [Element.toList_startTag]
  refine shows_startText h.name (fun a ha => ?_) quote_notMem_escapeValueChar
  obtain ⟨own, hown, rfl⟩ := List.mem_map.mp ha
  exact h.attrs own hown

theorem shows_endTag {e : Element} (h : e.IsReadable) : Shows e.endTag.toList [] := by
  rw [Element.toList_endTag]
  exact shows_endText h.name

mutual

/-- The markup of a tree shows the start tags of its elements and of its raw texts, if these are whole. -/
theorem shows_write {raw : Bool} {n : Node} (h : n.Sound Element.IsReadable)
    (hwhole : ∀ t ∈ n.rawTexts raw, IsWhole t.toList) :
    Shows (n.write raw "").toList (n.startTags raw) := by
  match n with
  | .text value =>
    cases raw with
    | true =>
      rw [write, if_pos rfl, String.empty_append]
      exact (hwhole value (by simp [rawTexts])).shows
    | false =>
      rw [write, if_neg Bool.false_ne_true, String.empty_append]
      exact shows_text (lt_notMem_escapeText value)
  | .comment value =>
    rw [write, String.empty_append]
    exact shows_comment h
  | .doctype name =>
    rw [write, String.empty_append]
    exact shows_doctype h
  | .element e children =>
    have hstart := shows_startTag h.1
    cases hvoid : e.isVoid with
    | true =>
      rw [write, if_pos hvoid, String.empty_append, startTags, if_pos hvoid]
      exact hstart
    | false =>
      have hcontent : Shows (writeAll e.hasRawText "" children).toList
          (startTagsAll e.hasRawText children) := by
        refine shows_writeAll h.2 fun t ht => hwhole t ?_
        rwa [rawTexts, if_neg (by rw [hvoid]; exact Bool.false_ne_true)]
      rw [write, if_neg (by rw [hvoid]; exact Bool.false_ne_true), String.empty_append,
        String.toList_append, toList_writeAll, startTags,
        if_neg (by rw [hvoid]; exact Bool.false_ne_true)]
      simpa using (hstart.append hcontent).append (shows_endTag h.1)

theorem shows_writeAll {raw : Bool} {ns : List Node} (h : SoundAll Element.IsReadable ns)
    (hwhole : ∀ t ∈ rawTextsAll raw ns, IsWhole t.toList) :
    Shows (writeAll raw "" ns).toList (startTagsAll raw ns) := by
  match ns with
  | [] => exact .nil
  | n :: ns =>
    rw [rawTextsAll, List.forall_mem_append] at hwhole
    rw [writeAll, toList_writeAll, startTagsAll]
    exact (shows_write h.1 hwhole.1).append (shows_writeAll h.2 hwhole.2)

end

/-! ### A tag that no element has -/

variable {tag : Tag}

mutual

/-- A tag that no element has comes out of raw texts only. -/
theorem mem_startTags_iff {raw : Bool} {n : Node}
    (h : n.Sound fun e => .ofString (Text.lower e.tag) ≠ tag) :
    tag ∈ n.startTags raw ↔ ∃ t ∈ n.rawTexts raw, tag ∈ shownIn t.toList := by
  match n with
  | .text value => cases raw <;> simp [startTags, rawTexts]
  | .comment _ | .doctype _ => simp [startTags, rawTexts]
  | .element e children =>
    rw [startTags, rawTexts, List.mem_cons, or_iff_right (Ne.symm h.1)]
    split
    · simp
    · exact mem_startTagsAll_iff h.2

theorem mem_startTagsAll_iff {raw : Bool} {ns : List Node}
    (h : SoundAll (fun e => .ofString (Text.lower e.tag) ≠ tag) ns) :
    tag ∈ startTagsAll raw ns ↔ ∃ t ∈ rawTextsAll raw ns, tag ∈ shownIn t.toList := by
  match ns with
  | [] => simp [startTagsAll, rawTextsAll]
  | n :: ns =>
    rw [startTagsAll, rawTextsAll, List.mem_append, mem_startTags_iff h.1, mem_startTagsAll_iff h.2]
    simp only [List.mem_append, or_and_right, exists_or]

end

/-- The elements of a tree can be read, and none of them has the tag. -/
abbrev Lacks (tag : Tag) (ns : List Node) : Prop := SoundAll (Element.Differs tag) ns

/-- The markup of trees shows a tag that none of their elements has exactly if some raw text does. -/
theorem Lacks.mem_shownIn_iff {ns : List Node} (h : Lacks tag ns)
    (hwhole : ∀ t ∈ rawTextsAll false ns, IsWhole t.toList) :
    tag ∈ shownIn (markupOf ns).toList ↔ ∃ t ∈ rawTextsAll false ns, tag ∈ shownIn t.toList := by
  have hshows := shows_writeAll (h.imp fun _ he => he.1) hwhole
  rw [shownIn, markupOf, (hshows start (.inl rfl)).2]
  exact mem_startTagsAll_iff (h.imp fun _ he => he.2)

end Node

end PageBlocks.Markup
