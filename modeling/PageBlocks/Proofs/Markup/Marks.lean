import Mathlib.Data.List.Infix
import PageBlocks.Proofs.Markup.Plain

/-!
Where the markup of a tree shows a mark that begins as a comment does. The parts that markup is put
together from keep their angle brackets to themselves, so no such mark begins in one part and ends in
another: each that there is stands in a comment, in a doctype, in a start tag or in raw text.
-/
namespace PageBlocks.Markup

/-- A mark begins as a comment does and has no angle bracket behind. -/
def IsMark (mark : List Char) : Prop := ∃ rest, mark = '<' :: '!' :: rest ∧ '<' ∉ rest ∧ '>' ∉ rest

/-- Every angle bracket that opens in a text has one that closes behind it. -/
def Shut (cs : List Char) : Prop := ∀ front rest, cs = front ++ '<' :: rest → '>' ∈ rest

theorem shut_of_notMem {cs : List Char} (h : '<' ∉ cs) : Shut cs := by
  rintro front rest rfl
  simp at h

theorem shut_of_getLast? {cs : List Char} (h : cs.getLast? = some '>') : Shut cs := by
  rintro front rest rfl
  rw [List.getLast?_append_cons] at h
  cases rest with
  | nil => cases h
  | cons c rest =>
    rw [List.getLast?_cons_cons] at h
    exact List.mem_of_getLast? h

/-- A text that ends in a bracket which closes. -/
theorem getLast?_append_close (s : String) {t : String} (h : t.toList.getLast? = some '>') :
    (s ++ t).toList.getLast? = some '>' := by
  rw [String.toList_append, List.getLast?_append, h, Option.some_or]

namespace IsMark

variable {mark cs : List Char}

theorem notMem (h : IsMark mark) : '>' ∉ mark := by
  obtain ⟨rest, rfl, -, hclose⟩ := h
  simp [hclose]

theorem infix_append_iff (h : IsMark mark) (hcs : Shut cs) (ds : List Char) :
    mark <:+: cs ++ ds ↔ mark <:+: cs ∨ mark <:+: ds := by
  rw [List.infix_append_iff_ne_nil]
  constructor
  · rintro (hin | hin | ⟨front, back, hne, -, rfl, ⟨cut, rfl⟩, -⟩)
    · exact .inl hin
    · exact .inr hin
    · -- the mark would begin in the first part, behind whose brackets there is one that closes
      obtain ⟨rest, hrest, -, -⟩ := id h
      cases front with
      | nil => exact absurd rfl hne
      | cons c front =>
        obtain rfl : c = '<' := (List.cons.inj hrest).1
        have hclose := hcs cut front rfl
        exact absurd (List.mem_append_left back (List.mem_cons_of_mem '<' hclose)) h.notMem
  · rintro (hin | hin)
    · exact .inl hin
    · exact .inr (.inl hin)

/-- No mark goes on where a tag begins. -/
theorem infix_append_tag_iff (h : IsMark mark) (cs ds : List Char) :
    mark <:+: cs ++ '<' :: ds ↔ mark <:+: cs ∨ mark <:+: '<' :: ds := by
  rw [List.infix_append_iff_ne_nil]
  constructor
  · rintro (hin | hin | ⟨front, back, hfront, hback, hmark, -, hprefix⟩)
    · exact .inl hin
    · exact .inr hin
    · obtain ⟨rest, hrest, hopen, -⟩ := h
      cases back with
      | nil => exact absurd rfl hback
      | cons c back =>
        obtain rfl : c = '<' := (List.cons_prefix_cons.mp hprefix).1
        cases front with
        | nil => exact absurd rfl hfront
        | cons d front =>
          have htail := (List.cons.inj (hmark.symm.trans hrest)).2
          have hmem : '<' ∈ '!' :: rest := htail ▸ List.mem_append_right front List.mem_cons_self
          simp [hopen] at hmem
  · rintro (hin | hin)
    · exact .inl hin
    · exact .inr (.inl hin)

theorem not_infix_of_notMem (h : IsMark mark) (hcs : '<' ∉ cs) : ¬ mark <:+: cs := by
  obtain ⟨rest, rfl, -, -⟩ := h
  exact fun hin => hcs (hin.mem List.mem_cons_self)

/-- A tag is no comment. -/
theorem not_infix_tag (h : IsMark mark) (hcs : '<' ∉ cs) (hhead : cs.head? ≠ some '!') :
    ¬ mark <:+: '<' :: cs := by
  intro hin
  rcases List.infix_cons_iff.mp hin with hprefix | hin
  · obtain ⟨rest, rfl, -, -⟩ := h
    obtain ⟨tail, rfl⟩ := (List.cons_prefix_cons.mp hprefix).2
    exact hhead rfl
  · exact h.not_infix_of_notMem hcs hin

end IsMark

/-! ### Marks in the markup of a tree -/

theorem lt_notMem_escapeText (s : String) : '<' ∉ (escapeText s).toList := by
  have hchar : ∀ c, '<' ∉ escapeTextChar c := by
    intro c
    unfold escapeTextChar
    split
    · decide
    · decide
    · decide
    · decide
    · rename_i hopen _
      rw [List.mem_singleton]
      exact fun h => hopen h.symm
  rw [escapeText, String.toList_ofList, List.mem_flatMap]
  rintro ⟨c, -, hc⟩
  exact hchar c hc

namespace Element

theorem getLast?_startTag (e : Element) : e.startTag.toList.getLast? = some '>' :=
  getLast?_append_close _ (by decide)

theorem getLast?_endTag (e : Element) : e.endTag.toList.getLast? = some '>' :=
  getLast?_append_close _ (by decide)

/-- What the end tag of an element shows, its start tag does. -/
theorem infix_startTag_of_endTag {mark : List Char} (h : IsMark mark) {e : Element}
    (hin : mark <:+: e.endTag.toList) : mark <:+: e.startTag.toList := by
  have htag : e.tag.toList <:+: e.startTag.toList := by
    rw [toList_startTag, Parser.startText]
    refine List.infix_append_of_infix_left (List.infix_cons ?_)
    exact (List.prefix_append _ _).isInfix
  have hend : e.endTag.toList = ['<', '/'] ++ (e.tag.toList ++ ['>']) := by
    rw [toList_endTag]
    rfl
  obtain ⟨rest, rfl, -, -⟩ := id h
  rw [hend] at hin
  rcases List.infix_cons_iff.mp hin with hprefix | hin
  · have hsecond := (List.cons_prefix_cons.mp hprefix).2
    exact absurd (List.cons_prefix_cons.mp hsecond).1 (by decide)
  rcases List.infix_cons_iff.mp hin with hprefix | hin
  · exact absurd (List.cons_prefix_cons.mp hprefix).1 (by decide)
  rcases List.infix_concat_iff.mp hin with hlast | hin
  · -- a mark does not end in the bracket that ends the tag
    have hempty := (List.suffix_concat_iff.mp hlast).resolve_right ?_
    · cases hempty
    · rintro ⟨tail, htail, -⟩
      exact h.notMem (htail ▸ List.mem_append_right tail List.mem_cons_self)
  · exact hin.trans htag

end Element

namespace Node

mutual

/-- Whether a node shows a mark when it is written. -/
def shows (mark : List Char) : Node → Bool
  | .text _ => false
  | .comment value => decide (mark <:+: ("<!--" ++ value ++ "-->").toList)
  | .doctype name => decide (mark <:+: ("<!DOCTYPE " ++ name ++ ">").toList)
  | .element e children =>
    decide (mark <:+: e.startTag.toList) ||
      !e.isVoid &&
        if e.hasRawText then decide (mark <:+: (writeAll true "" children).toList)
        else anyShows mark children

def anyShows (mark : List Char) : List Node → Bool
  | [] => false
  | n :: ns => n.shows mark || anyShows mark ns

end

theorem anyShows_eq_any (mark : List Char) (ns : List Node) :
    anyShows mark ns = ns.any (shows mark) := by
  induction ns with
  | nil => rfl
  | cons n ns ih => rw [anyShows, ih, List.any_cons]

theorem toList_write_element {e : Element} (children : List Node) (h : e.isVoid = false) :
    ((Node.element e children).write false "").toList =
      e.startTag.toList ++ ((writeAll e.hasRawText "" children).toList ++ e.endTag.toList) := by
  rw [write, if_neg (by rw [h]; exact Bool.false_ne_true), String.toList_append, toList_writeAll,
    String.empty_append, List.append_assoc]

/-- A node that is written brings its angle brackets to an end. -/
theorem shut_write (n : Node) : Shut (n.write false "").toList := by
  cases n with
  | text value =>
    rw [write, if_neg Bool.false_ne_true, String.empty_append]
    exact shut_of_notMem (lt_notMem_escapeText value)
  | comment value => exact shut_of_getLast? (getLast?_append_close _ (by decide))
  | doctype name => exact shut_of_getLast? (getLast?_append_close _ (by decide))
  | element e children =>
    cases hvoid : e.isVoid with
    | true =>
      rw [write, if_pos hvoid, String.empty_append]
      exact shut_of_getLast? e.getLast?_startTag
    | false =>
      rw [toList_write_element children hvoid]
      apply shut_of_getLast?
      rw [List.getLast?_append, List.getLast?_append, e.getLast?_endTag]
      rfl

mutual

/-- A mark stands in the markup of a tree exactly where one of the nodes that are written shows it. -/
theorem infix_write_iff {mark : List Char} (h : IsMark mark) (n : Node) :
    mark <:+: (n.write false "").toList ↔ n.shows mark = true := by
  match n with
  | .text value =>
    rw [write, if_neg Bool.false_ne_true, String.empty_append, shows]
    exact iff_of_false (h.not_infix_of_notMem (lt_notMem_escapeText value)) Bool.false_ne_true
  | .comment value =>
    rw [write, String.empty_append, shows, decide_eq_true_iff]
  | .doctype name =>
    rw [write, String.empty_append, shows, decide_eq_true_iff]
  | .element e children =>
    have hstart := shut_of_getLast? e.getLast?_startTag
    cases hvoid : e.isVoid with
    | true =>
      rw [write, if_pos hvoid, String.empty_append, shows, hvoid, Bool.not_true, Bool.false_and,
        Bool.or_false, decide_eq_true_iff]
    | false =>
      -- the end tag shows nothing that the start tag does not show
      have hcontent : mark <:+: (writeAll e.hasRawText "" children).toList ++ e.endTag.toList ↔
          mark <:+: (writeAll e.hasRawText "" children).toList ∨ mark <:+: e.endTag.toList := by
        rw [Element.toList_endTag]
        exact h.infix_append_tag_iff _ _
      rw [toList_write_element children hvoid, h.infix_append_iff hstart, hcontent, shows, hvoid,
        Bool.not_false, Bool.true_and, Bool.or_eq_true, decide_eq_true_iff]
      have hinner : mark <:+: (writeAll e.hasRawText "" children).toList ↔
          (if e.hasRawText then decide (mark <:+: (writeAll true "" children).toList)
            else anyShows mark children) = true := by
        cases e.hasRawText with
        | true => rw [if_pos rfl, decide_eq_true_iff]
        | false => rw [if_neg Bool.false_ne_true, infix_writeAll_iff h children]
      rw [hinner]
      constructor
      · rintro (hin | hin | hin)
        · exact .inl hin
        · exact .inr hin
        · exact .inl (Element.infix_startTag_of_endTag h hin)
      · rintro (hin | hin)
        · exact .inl hin
        · exact .inr (.inl hin)

theorem infix_writeAll_iff {mark : List Char} (h : IsMark mark) (ns : List Node) :
    mark <:+: (writeAll false "" ns).toList ↔ anyShows mark ns = true := by
  match ns with
  | [] =>
    rw [writeAll, anyShows]
    exact iff_of_false (h.not_infix_of_notMem List.not_mem_nil) Bool.false_ne_true
  | n :: ns =>
    rw [writeAll, toList_writeAll, h.infix_append_iff (shut_write n), anyShows, Bool.or_eq_true,
      infix_write_iff h n, infix_writeAll_iff h ns]

end

end Node

end PageBlocks.Markup
