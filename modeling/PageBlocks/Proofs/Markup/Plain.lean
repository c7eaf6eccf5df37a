import PageBlocks.Markup.Writer
import PageBlocks.Proofs.Markup.Reading

/-!
Trees whose markup is read as the tree that was written. Such a tree is nested as the rules of the
construction want it to be and has no text that they would move or drop; all that changes is that texts
which meet become one and that attributes are put in order.
-/
namespace PageBlocks.Markup

open Tag

/-! ### Names -/

/-- Whether a name is that of an element which can begin. -/
theorem isVoid_of_sort {e : Element} (h : (Tag.ofString e.tag).sort.isEmpty = false)
    (hother : (Tag.ofString e.tag).sort ≠ .other) : e.isVoid = false ∧ e.hasRawText = false := by
  have hvoid : (voidTags.all fun s => (Tag.ofString s).sort.isEmpty ||
      (Tag.ofString s).sort == .other) = true := by decide +kernel
  have hraw : (rawTextTags.all fun s => (Tag.ofString s).sort == .other) = true := by decide +kernel
  constructor
  · rw [Element.isVoid, Bool.and_eq_false_iff]
    refine Or.inr (Bool.eq_false_iff.mpr fun hmem => ?_)
    have hsort := List.all_eq_true.mp hvoid _ (List.contains_iff_mem.mp hmem)
    rw [h, Bool.false_or] at hsort
    exact hother (eq_of_beq hsort)
  · rw [Element.hasRawText, Bool.and_eq_false_iff]
    refine Or.inr (Bool.eq_false_iff.mpr fun hmem => ?_)
    exact hother (eq_of_beq (List.all_eq_true.mp hraw _ (List.contains_iff_mem.mp hmem)))

theorem isVoid_of_isEmpty {e : Element} (hspace : e.space = .html)
    (h : (Tag.ofString e.tag).sort.isEmpty = true) : e.isVoid = true := by
  have htag := Tag.toString_ofString e.tag
  rw [Element.isVoid, hspace, ← htag]
  cases hof : Tag.ofString e.tag <;> rw [hof] at h <;> first | rfl | cases h

/-! ### Escaping -/

theorem escapesText : EscapesText escapeTextChar := by
  intro c
  unfold escapeTextChar
  split
  · exact .inr (.inl ⟨_, rfl, Entity.settles_amp⟩)
  · exact .inr (.inl ⟨_, rfl, Entity.settles_nbsp⟩)
  · exact .inr (.inl ⟨_, rfl, Entity.settles_lt⟩)
  · exact .inr (.inl ⟨_, rfl, Entity.settles_gt⟩)
  · exact Or.inl ⟨rfl, by assumption, by assumption⟩

theorem escapesValue : EscapesValue escapeValueChar := by
  intro c
  unfold escapeValueChar
  split
  · exact .inr (.inl ⟨_, rfl, Entity.settles_amp⟩)
  · exact .inr (.inl ⟨_, rfl, Entity.settles_nbsp⟩)
  · exact .inr (.inl ⟨_, rfl, Entity.settles_quot⟩)
  · exact Or.inl ⟨rfl, by assumption, by assumption⟩

/-! ### Markup as characters -/

namespace Element

/-- The attributes as names and values. -/
def pairs (attrs : Attributes) : List (String × String) := attrs.map fun a => (a.name.written, a.value)

theorem toList_writtenAttrs (attrs : Attributes) :
    (writtenAttrs attrs).toList = attrsText escapeValueChar (pairs attrs) := by
  have hfold : ∀ (acc : String),
      (attrs.foldl (fun acc a =>
        acc ++ " " ++ a.name.written ++ "=\"" ++ escapeValue a.value ++ "\"") acc).toList =
        acc.toList ++ attrsText escapeValueChar (pairs attrs) := by
    induction attrs with
    | nil => intro acc; simp [attrsText, pairs]
    | cons a attrs ih =>
      intro acc
      rw [List.foldl_cons, ih]
      simp [attrsText, pairs, attrText, escapeValue]
  exact hfold ""

theorem toList_startTag (e : Element) :
    e.startTag.toList = Parser.startText escapeValueChar e.tag (pairs e.attrs) := by
  simp [startTag, Parser.startText, toList_writtenAttrs]

theorem toList_endTag (e : Element) : e.endTag.toList = Parser.endText e.tag := by
  simp [endTag, Parser.endText]

end Element

namespace Node

mutual

theorem toList_write (raw : Bool) (acc : String) (n : Node) :
    (n.write raw acc).toList = acc.toList ++ (n.write raw "").toList := by
  match n with
  | .text value => cases raw <;> simp [write]
  | .comment value => simp [write]
  | .doctype name => simp [write]
  | .element e children =>
    rw [write, write]
    split
    · simp
    · simp [toList_writeAll e.hasRawText (acc ++ e.startTag) children,
        toList_writeAll e.hasRawText e.startTag children]

theorem toList_writeAll (raw : Bool) (acc : String) (ns : List Node) :
    (writeAll raw acc ns).toList = acc.toList ++ (writeAll raw "" ns).toList := by
  match ns with
  | [] => simp [writeAll]
  | n :: ns =>
    rw [writeAll, writeAll, toList_writeAll raw (n.write raw acc) ns,
      toList_writeAll raw (n.write raw "") ns, toList_write raw acc n, List.append_assoc]

end

/-- The markup of nodes put together from the markup of each. -/
theorem join_toMarkup (ns : List Node) : String.join (ns.map toMarkup) = markupOf ns := by
  have hfold : ∀ acc : String, (ns.map toMarkup).foldl (· ++ ·) acc = writeAll false acc ns := by
    induction ns with
    | nil => exact fun acc => rfl
    | cons n ns ih =>
      intro acc
      have hfirst : acc ++ n.toMarkup = n.write false acc := by
        rw [← String.toList_inj, String.toList_append, toList_write false acc]
        rfl
      rw [List.map_cons, List.foldl_cons, hfirst, ih, writeAll]
  exact hfold ""

/-! ### Trees that come back -/

mutual

/-- Whether a tree comes back when its markup is read inside elements with these tags. -/
def isPlain (ts : List Tag) : Node → Bool
  | .text value =>
    value.toList.all isKept && (takesText ts || value.toList.all Text.isAsciiBlank)
  | .element e children =>
    e.space == .html && e.attrs.all (·.name.space == .plain) &&
      Parser.isWritable e.tag (Element.pairs e.attrs) &&
      (begins ts (.ofString e.tag) && arePlain (.ofString e.tag :: ts) children ||
        standsEmpty ts (.ofString e.tag) && children.isEmpty)
  | _ => false

def arePlain (ts : List Tag) : List Node → Bool
  | [] => true
  | n :: ns => n.isPlain ts && arePlain ts ns

end

mutual

/-- The nodes that come back when a tree is read behind others. -/
def readInto (done : List Node) : Node → List Node
  | .text value => value.toList.foldl pushChar done
  | .element e children => done ++ [.element ⟨.html, e.tag, .ofList e.attrs⟩ (readAllInto [] children)]
  | n => done ++ [n]

def readAllInto (done : List Node) : List Node → List Node
  | [] => done
  | n :: ns => readAllInto (n.readInto done) ns

end

theorem attrsOf_pairs {attrs : Attributes} (h : attrs.all (·.name.space == .plain) = true)
    (name : String) : Parser.attrsOf name (Element.pairs attrs) = .ofList attrs := by
  have hsame : (Element.pairs attrs).map (fun p => (⟨.plain p.1, p.2⟩ : Attribute)) = attrs := by
    rw [Element.pairs, List.map_map]
    conv_rhs => rw [← List.map_id attrs]
    apply List.map_congr_left
    intro a ha
    have hspace := List.all_eq_true.mp h a ha
    obtain ⟨⟨space, name⟩, value⟩ := a
    obtain rfl : space = .plain := eq_of_beq hspace
    rfl
  rw [Parser.attrsOf, Construction.htmlAttrs]
  exact congrArg Attributes.ofList hsame

mutual

/-- A plain tree is read. -/
theorem reads_write (n : Node) (l : Layer) (ls : List Layer) (hnested : Nested (Layer.tags (l :: ls)))
    (h : n.isPlain (Layer.tags (l :: ls)) = true) :
    Parser.Reads (n.write false "").toList (l :: ls) ({ l with done := n.readInto l.done } :: ls) := by
  match n with
  | .text value =>
    rw [isPlain, Bool.and_eq_true, Bool.or_eq_true] at h
    have htext : ((Node.text value).write false "").toList = value.toList.flatMap escapeTextChar := by
      simp [write, escapeText]
    rw [htext]
    exact Parser.reads_text escapesText h.1 h.2
  | .element e children =>
    rw [isPlain, Bool.and_eq_true, Bool.and_eq_true, Bool.and_eq_true, Bool.or_eq_true,
      Bool.and_eq_true, Bool.and_eq_true] at h
    obtain ⟨⟨⟨hspace, hattrs⟩, hwritable⟩, hcontent⟩ := h
    rcases hcontent with ⟨hbegins, hchildren⟩ | ⟨hstands, hempty⟩
    · have hinner := reads_writeAll children ⟨.ofString e.tag, .ofList e.attrs, []⟩ (l :: ls)
        (.inside hbegins hnested) hchildren
      rw [← attrsOf_pairs hattrs e.tag] at hinner
      have helement := Parser.reads_element l ls escapesValue hwritable hbegins hnested hinner
      rw [attrsOf_pairs hattrs, ← Element.toList_startTag, ← Element.toList_endTag] at helement
      have hwrite : ((Node.element e children).write false "").toList =
          e.startTag.toList ++ ((writeAll false "" children).toList ++ e.endTag.toList) := by
        obtain ⟨hvoid, hraw⟩ := isVoid_of_sort (e := e) (isEmpty_of_begins hbegins)
          (sort_ne_other_of_begins hbegins)
        rw [write, hvoid, hraw, if_neg Bool.false_ne_true, String.toList_append, toList_writeAll]
        simp
      rw [hwrite]
      exact helement
    · have hvoid := isVoid_of_isEmpty (eq_of_beq hspace) (isEmpty_of_standsEmpty hstands)
      have hstart := Parser.reads_empty l ls escapesValue hwritable hstands
      rw [attrsOf_pairs hattrs, ← Element.toList_startTag] at hstart
      have hwrite : ((Node.element e children).write false "").toList = e.startTag.toList := by
        rw [write, hvoid, if_pos rfl, String.toList_append]
        rfl
      obtain rfl : children = [] := List.isEmpty_iff.mp hempty
      rw [hwrite]
      exact hstart
  | .comment _ => cases h
  | .doctype _ => cases h

/-- Plain trees are read one after the other. -/
theorem reads_writeAll (ns : List Node) (l : Layer) (ls : List Layer)
    (hnested : Nested (Layer.tags (l :: ls))) (h : arePlain (Layer.tags (l :: ls)) ns = true) :
    Parser.Reads (writeAll false "" ns).toList (l :: ls)
      ({ l with done := readAllInto l.done ns } :: ls) := by
  match ns with
  | [] => exact .nil _
  | n :: ns =>
    rw [arePlain, Bool.and_eq_true] at h
    rw [writeAll, toList_writeAll]
    have hfirst := reads_write n l ls hnested h.1
    have hrest := reads_writeAll ns { l with done := n.readInto l.done } ls hnested h.2
    exact hfirst.append hrest

end

/-! ### Text that comes back -/

mutual

theorem appendText_eq (acc : String) (n : Node) : n.appendText acc = acc ++ n.textContent := by
  match n with
  | .text value => simp [textContent, appendText]
  | .comment _ | .doctype _ => simp [textContent, appendText]
  | .element e children =>
    rw [textContent, appendText, appendText, appendTexts_eq acc children, appendTexts_eq "" children,
      String.empty_append]

theorem appendTexts_eq (acc : String) (ns : List Node) : appendTexts acc ns = acc ++ textOf ns := by
  match ns with
  | [] => simp [textOf, appendTexts]
  | n :: ns =>
    rw [textOf, appendTexts, appendTexts, appendTexts_eq _ ns, appendTexts_eq _ ns,
      appendText_eq acc n, appendText_eq "" n, String.empty_append, String.append_assoc]

end

theorem textOf_cons (n : Node) (ns : List Node) : textOf (n :: ns) = n.textContent ++ textOf ns := by
  rw [textOf, appendTexts, appendTexts_eq]
  rfl

theorem textOf_append (ms ns : List Node) : textOf (ms ++ ns) = textOf ms ++ textOf ns := by
  induction ms with
  | nil => simp [textOf, appendTexts]
  | cons m ms ih => rw [List.cons_append, textOf_cons, ih, textOf_cons, String.append_assoc]

theorem textOf_concat (ns : List Node) (n : Node) : textOf (ns ++ [n]) = textOf ns ++ n.textContent := by
  rw [textOf_append]
  rfl

theorem textOf_pushChar (ns : List Node) (c : Char) : textOf (pushChar ns c) = (textOf ns).push c := by
  have htext : ∀ value : String, (Node.text value).textContent = value := by
    intro value
    simp [textContent, appendText]
  have hpush : ∀ s : String, s ++ String.singleton c = s.push c := by
    intro s
    exact String.append_singleton
  rcases List.eq_nil_or_concat ns with rfl | ⟨front, last, rfl⟩
  · exact (textOf_concat [] _).trans (by rw [htext]; exact hpush _)
  · rw [List.concat_eq_append]
    by_cases hlast : ∃ value, last = .text value
    · obtain ⟨value, rfl⟩ := hlast
      rw [pushChar_text, textOf_concat, textOf_concat, htext, htext, ← hpush, ← hpush,
        String.append_assoc]
    · rw [pushChar_concat front (fun value heq => hlast ⟨value, heq⟩), textOf_concat, htext, hpush]

theorem textOf_foldl_pushChar (ns : List Node) (cs : List Char) :
    textOf (cs.foldl pushChar ns) = textOf ns ++ String.ofList cs := by
  induction cs generalizing ns with
  | nil => simp
  | cons c cs ih =>
    rw [List.foldl_cons, ih, textOf_pushChar, String.ofList_cons, ← String.append_assoc,
      String.append_singleton]

/-- Text that is read where nothing is finished is one node. -/
theorem foldl_pushChar_nil {text : String} (h : text ≠ "") :
    text.toList.foldl pushChar [] = [.text text] := by
  have hpush : ∀ (cs : List Char) (value : String),
      cs.foldl pushChar [.text value] = [.text (value ++ String.ofList cs)] := by
    intro cs
    induction cs with
    | nil => simp
    | cons c cs ih =>
      intro value
      have hfirst : pushChar [.text value] c = [.text (value.push c)] := pushChar_text [] value c
      rw [List.foldl_cons, hfirst, ih, String.ofList_cons, ← String.append_assoc, String.append_singleton]
  obtain ⟨c, cs, hchars⟩ := List.exists_cons_of_ne_nil (by simpa using h : text.toList ≠ [])
  have hfirst : pushChar [] c = [.text (String.singleton c)] := rfl
  rw [hchars, List.foldl_cons, hfirst, hpush, ← String.ofList_cons, ← hchars, String.ofList_toList]

mutual

theorem textOf_readInto (done : List Node) (n : Node) :
    textOf (n.readInto done) = textOf done ++ n.textContent := by
  match n with
  | .text value =>
    rw [readInto, textOf_foldl_pushChar, String.ofList_toList]
    simp [textContent, appendText]
  | .comment _ | .doctype _ => exact textOf_concat done _
  | .element e children =>
    rw [readInto, textOf_concat]
    have hchildren := textOf_readAllInto [] children
    rw [textOf.eq_def [], appendTexts, String.empty_append] at hchildren
    congr 1

theorem textOf_readAllInto (done ns : List Node) :
    textOf (readAllInto done ns) = textOf done ++ textOf ns := by
  match ns with
  | [] => simp [readAllInto, textOf, appendTexts]
  | n :: ns =>
    rw [readAllInto, textOf_readAllInto _ ns, textOf_readInto done n, textOf_cons, String.append_assoc]

end

end Node

end PageBlocks.Markup
