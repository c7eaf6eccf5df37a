import PageBlocks.Markup.Parser
import PageBlocks.Proofs.Block.Recursion
import PageBlocks.Proofs.Divi.Items

/-!
The square brackets of a page of shortcodes, read from left to right. Each shortcode shows as its two
tags with the marks of its content between them, whatever the content is. No value of an attribute has a
bracket or a double quote in it, and literal content has no brackets, so a page shows the tags of its
section, row, column and modules and nothing else, unless there are brackets in what a text module shows:
that markup stands in the page as it is.
-/
namespace PageBlocks.Divi

open Emit Image Shortcode

/-! ### Reading brackets -/

/-- What square brackets mark in a text. -/
inductive Mark where
  /-- An opening tag, parted at its double quotes: texts with the names in them take turns with the
  values. -/
  | opening (parts : List String)
  | closing (name : String)
  /-- A bracket that belongs to no tag. -/
  | stray (bracket : Char)
  deriving DecidableEq, Repr

namespace Mark

/-- The tag with a text between its brackets. -/
def ofInside : List Char → Mark
  | '/' :: name => closing (String.ofList name)
  | inside => opening ((inside.splitOn '"').map String.ofList)

def isTag : Mark → Bool
  | opening _ | closing _ => true
  | stray _ => false

end Mark

/-- The mark of an opening bracket behind which another one stands, or the end of the text. -/
def unclosed (inside : Option (List Char)) : List Mark :=
  (inside.map fun _ => Mark.stray '[').toList

/-- The mark of a closing bracket. -/
def closed : Option (List Char) → Mark
  | some read => .ofInside read.reverse
  | none => .stray ']'

/-- The marks of a text. Behind an opening bracket, `inside` is what has been read since, in reverse. -/
def marksFrom (inside : Option (List Char)) : List Char → List Mark
  | [] => unclosed inside
  | c :: rest =>
    if c = '[' then unclosed inside ++ marksFrom (some []) rest
    else if c = ']' then closed inside :: marksFrom none rest
    else marksFrom (inside.map (c :: ·)) rest

/-- What the square brackets of a text mark, from left to right. A tag has no bracket between its own. -/
def marks (text : String) : List Mark := marksFrom none text.toList

/-- The tags of a text, whatever brackets stand between them. -/
def tags (text : String) : List Mark := (marks text).filter Mark.isTag

/-! ### Brackets in parts of a text -/

/-- An opening bracket begins a tag, whatever stands before it. -/
theorem marksFrom_append_open (inside : Option (List Char)) (front rest : List Char) :
    marksFrom inside (front ++ '[' :: rest) = marksFrom inside front ++ marksFrom none ('[' :: rest) := by
  induction front generalizing inside with
  | nil => rfl
  | cons c front ih =>
    rw [List.cons_append, marksFrom, marksFrom]
    split_ifs
    · rw [ih, List.append_assoc]
    · rw [ih, List.cons_append]
    · exact ih _

theorem marksFrom_append_close {front : List Char} (hopen : '[' ∉ front) (hclose : ']' ∉ front)
    (read rest : List Char) :
    marksFrom (some read) (front ++ ']' :: rest) =
      .ofInside (read.reverse ++ front) :: marksFrom none rest := by
  induction front generalizing read with
  | nil => simp [marksFrom, closed]
  | cons c front ih =>
    obtain ⟨hc, hopen⟩ := List.ne_and_not_mem_of_not_mem_cons hopen
    obtain ⟨hc', hclose⟩ := List.ne_and_not_mem_of_not_mem_cons hclose
    rw [List.cons_append, marksFrom, if_neg hc.symm, if_neg hc'.symm]
    have hrest := ih hopen hclose (c :: read)
    rw [List.reverse_cons, List.append_assoc] at hrest
    exact hrest

/-- A tag between its brackets is one mark. -/
theorem marksFrom_tag {inside : List Char} (hopen : '[' ∉ inside) (hclose : ']' ∉ inside)
    (rest : List Char) :
    marksFrom none ('[' :: (inside ++ ']' :: rest)) = .ofInside inside :: marksFrom none rest := by
  have hmarks := marksFrom_append_close hopen hclose [] rest
  rwa [List.reverse_nil, List.nil_append] at hmarks

/-- A text without brackets has no marks. -/
theorem marks_of_isLiteral {text : String} (h : IsLiteral text) : marks text = [] := by
  have hall : ∀ cs : List Char, '[' ∉ cs → ']' ∉ cs → marksFrom none cs = [] := by
    intro cs
    induction cs with
    | nil => exact fun _ _ => rfl
    | cons c cs ih =>
      intro hopen hclose
      obtain ⟨hc, hopen⟩ := List.ne_and_not_mem_of_not_mem_cons hopen
      obtain ⟨hc', hclose⟩ := List.ne_and_not_mem_of_not_mem_cons hclose
      rw [marksFrom, if_neg hc.symm, if_neg hc'.symm]
      exact ih hopen hclose
  exact hall text.toList h.1 h.2

theorem isTag_ofInside (inside : List Char) : (Mark.ofInside inside).isTag = true := by
  unfold Mark.ofInside
  split <;> rfl

theorem filter_unclosed (inside : Option (List Char)) :
    (unclosed inside).filter Mark.isTag = [] := by
  cases inside <;> rfl

/-- A text has no tags exactly if no closing bracket follows an opening one. -/
theorem tags_eq_nil_iff (text : String) : tags text = [] ↔ ¬ List.Sublist ['[', ']'] text.toList := by
  have hall : ∀ (cs : List Char),
      (∀ read, (marksFrom (some read) cs).filter Mark.isTag = [] ↔ ']' ∉ cs) ∧
        ((marksFrom none cs).filter Mark.isTag = [] ↔ ¬ List.Sublist ['[', ']'] cs) := by
    intro cs
    induction cs with
    | nil => exact ⟨fun read => by simp [marksFrom, filter_unclosed], by simp [marksFrom, unclosed]⟩
    | cons c cs ih =>
      obtain ⟨hsome, hnone⟩ := ih
      refine ⟨fun read => ?_, ?_⟩
      · rw [marksFrom]
        split_ifs with hopen hclose
        · subst hopen
          rw [List.filter_append, filter_unclosed, List.nil_append, hsome]
          simp
        · subst hclose
          simp [closed, isTag_ofInside]
        · rw [Option.map_some, hsome]
          simp [Ne.symm hclose]
      · rw [marksFrom]
        split_ifs with hopen hclose
        · subst hopen
          rw [List.filter_append, filter_unclosed, List.nil_append, hsome, List.cons_sublist_cons,
            List.singleton_sublist]
        · subst hclose
          rw [List.filter_cons_of_neg (by decide), hnone, List.sublist_cons_iff]
          simp
        · rw [Option.map_none, hnone, List.sublist_cons_iff]
          simp [Ne.symm hopen]
  exact (hall text.toList).2

/-! ### The tags of a shortcode -/

/-- The opening tag of a shortcode between its brackets. -/
def openingText (code : Shortcode) : List Char :=
  code.tag.toList ++ Markup.attrsText attrChar code.attrs

/-- The closing tag of a shortcode between its brackets. -/
def closingText (code : Shortcode) : List Char := '/' :: code.tag.toList

/-- Attributes as they stand in an opening tag behind a text, parted at the double quotes. -/
def partsFrom (lead : String) : List (String × String) → List String
  | [] => [lead]
  | (name, value) :: rest => (lead ++ " " ++ name ++ "=") :: attrText value :: partsFrom "" rest

/-- The opening tag of a shortcode with its names and its values as they are written. -/
def openingTag (code : Shortcode) : Mark := .opening (partsFrom code.tag code.attrs)

def closingTag (code : Shortcode) : Mark := .closing code.tag

theorem open_notMem_attrChar (c : Char) : '[' ∉ attrChar c := by
  unfold attrChar
  split
  · decide
  · decide
  · decide
  · rename_i hopen _
    rw [List.mem_singleton]
    exact fun h => hopen h.symm

/-- The tags of a shortcode have no brackets in them. -/
theorem brackets_notMem_tags {code : Shortcode} (h : IsPlain code) :
    ('[' ∉ openingText code ∧ ']' ∉ openingText code) ∧
      '[' ∉ closingText code ∧ ']' ∉ closingText code := by
  have hopen : '[' ∉ code.tag.toList := fun hmem => ne_of_isName h.1 hmem (by decide) rfl
  have hclose : ']' ∉ code.tag.toList := fun hmem => ne_of_isName h.1 hmem (by decide) rfl
  have hattrs : '[' ∉ Markup.attrsText attrChar code.attrs ∧
      ']' ∉ Markup.attrsText attrChar code.attrs :=
    ⟨notMem_attrsText (by decide) (by decide) open_notMem_attrChar h.2,
      notMem_attrsText (by decide) (by decide) (fun c => (keepsOut_attrChar c).2) h.2⟩
  simp only [openingText, closingText, List.mem_append, List.mem_cons, not_or]
  exact ⟨⟨⟨hopen, hattrs.1⟩, hclose, hattrs.2⟩, ⟨by decide, hopen⟩, by decide, hclose⟩

/-- The double quotes of an opening tag part it into the names and the values. -/
theorem splitOn_openingText {attrs : List (String × String)}
    (hnames : ∀ a ∈ attrs, isName a.1 = true) (lead : String) (hlead : '"' ∉ lead.toList) :
    ((lead.toList ++ Markup.attrsText attrChar attrs).splitOn '"').map String.ofList =
      partsFrom lead attrs := by
  induction attrs generalizing lead with
  | nil =>
    rw [Markup.attrsText, List.flatMap_nil, List.append_nil, List.splitOn_eq_singleton hlead]
    simp [partsFrom]
  | cons a attrs ih =>
    have hrest := ih (fun b hb => hnames b (List.mem_cons_of_mem a hb)) "" List.not_mem_nil
    have hshape : lead.toList ++ Markup.attrsText attrChar (a :: attrs) =
        (lead ++ " " ++ a.1 ++ "=").toList ++ '"' :: ((attrText a.2).toList ++
          '"' :: ("".toList ++ Markup.attrsText attrChar attrs)) := by
      simp [Markup.attrsText, Markup.attrText, attrText]
    have hfront : '"' ∉ (lead ++ " " ++ a.1 ++ "=").toList := by
      have hname : '"' ∉ a.1.toList := fun hmem =>
        ne_of_isName (hnames a List.mem_cons_self) hmem (by decide) rfl
      simp [hlead, hname]
    have hvalue : '"' ∉ (attrText a.2).toList := by
      rw [attrText, String.toList_ofList]
      exact (keepsOut_attrChar.value a.2.toList).1
    rw [hshape, List.splitOn_append_cons_self_of_not_mem hfront,
      List.splitOn_append_cons_self_of_not_mem hvalue, List.map_cons, List.map_cons, hrest,
      String.ofList_toList, String.ofList_toList, partsFrom]

/-- A shortcode with a plain tag that is not empty. -/
structure IsNamed (code : Shortcode) : Prop where
  plain : IsPlain code
  tag_ne : code.tag ≠ ""

theorem isNamed_element {tag : String} (htag : isName tag = true) (hne : tag ≠ "") (version : String) :
    IsNamed (element tag version) :=
  ⟨isPlain_element htag version, hne⟩

theorem IsNamed.withAttr {code : Shortcode} (h : IsNamed code) {name : String}
    (hname : isName name = true) (value : String) : IsNamed (code.withAttr name value) :=
  ⟨h.plain.withAttr hname value, h.tag_ne⟩

theorem ofInside_openingText {code : Shortcode} (h : IsNamed code) :
    Mark.ofInside (openingText code) = openingTag code := by
  have hquote : '"' ∉ code.tag.toList := fun hmem => ne_of_isName h.plain.1 hmem (by decide) rfl
  have hparts := splitOn_openingText h.plain.2 code.tag hquote
  rw [openingTag, ← hparts, openingText]
  cases htag : code.tag.toList with
  | nil => exact absurd (String.toList_eq_nil_iff.mp htag) h.tag_ne
  | cons c cs =>
    have hslash : c ≠ '/' := ne_of_isName h.plain.1 (htag ▸ List.mem_cons_self) (by decide)
    rw [List.cons_append, Mark.ofInside.eq_2]
    rintro name hname
    exact hslash (List.cons.inj hname).1

theorem ofInside_closingText (code : Shortcode) :
    Mark.ofInside (closingText code) = closingTag code := by
  rw [closingText, Mark.ofInside, closingTag, String.ofList_toList]

/-- A shortcode shows as its tags around the marks of its content. -/
theorem marksFrom_around {code : Shortcode} (h : IsNamed code) (content : String) (rest : List Char) :
    marksFrom none ((code.around content).toList ++ rest) =
      openingTag code :: (marks content ++ closingTag code :: marksFrom none rest) := by
  obtain ⟨hopening, hclosing⟩ := brackets_notMem_tags h.plain
  have htext : (code.around content).toList ++ rest =
      '[' :: (openingText code ++ ']' ::
        (content.toList ++ '[' :: (closingText code ++ ']' :: rest))) := by
    rw [toList_around, openingText, closingText]
    simp
  rw [htext, marksFrom_tag hopening.1 hopening.2, marksFrom_append_open,
    marksFrom_tag hclosing.1 hclosing.2, marks, ofInside_openingText h, ofInside_closingText]

theorem marks_around {code : Shortcode} (h : IsNamed code) (content : String) :
    marks (code.around content) = openingTag code :: (marks content ++ [closingTag code]) := by
  have hmarks := marksFrom_around h content []
  rwa [List.append_nil] at hmarks

/-! ### The shortcodes of a page -/

/-- The shortcode of a block. -/
def codeOf (version : String) : Block Placed → Shortcode
  | .heading level text anchor => headingCode version level text anchor
  | .image i => imageCode version i
  | .captured .paragraph _ | .captured .blockquote _ | .plainText _ => element "et_pb_text" version
  | .captured .table _ | .captured (.list _) _ | .embed _ => element "et_pb_code" version

/-- What stands between the tags of the shortcode of a block. -/
def contentOf : Block Placed → String
  | .heading _ _ _ | .image _ => ""
  | .captured .paragraph html | .captured .blockquote html => html.outer
  | .captured .table html | .captured (.list _) html => literal html.outer
  | .embed markup => literal markup
  | .plainText value => "<p>" ++ Emit.escapeText value ++ "</p>"

theorem moduleOf_eq (version : String) (b : Block Placed) :
    moduleOf version b = (codeOf version b).around (contentOf b) := by
  cases b with
  | captured kind html => cases kind <;> rfl
  | _ => rfl

theorem isNamed_codeOf (version : String) (b : Block Placed) : IsNamed (codeOf version b) := by
  have htext : IsNamed (element "et_pb_text" version) :=
    isNamed_element (by decide) (by decide) version
  have hcode : IsNamed (element "et_pb_code" version) :=
    isNamed_element (by decide) (by decide) version
  cases b with
  | heading level text anchor =>
    exact ⟨isPlain_headingCode version level text anchor, by rw [codeOf, tag_headingCode]; decide⟩
  | image i => exact ⟨isPlain_imageCode version i, by rw [codeOf, tag_imageCode]; decide⟩
  | captured kind html =>
    cases kind with
    | paragraph => exact htext
    | list ordered => exact hcode
    | table => exact hcode
    | blockquote => exact htext
  | embed markup => exact hcode
  | plainText value => exact htext

/-- The shortcodes around the modules of a page, the outermost first. -/
def frameCodes (version : String) : List Shortcode :=
  [(element "et_pb_section" version).withAttr "fb_built" "1", element "et_pb_row" version,
    (element "et_pb_column" version).withAttr "type" "4_4"]

theorem marks_moduleOf (version : String) (b : Block Placed) :
    marks (moduleOf version b) = openingTag (codeOf version b) ::
      (marks (contentOf b) ++ [closingTag (codeOf version b)]) := by
  rw [moduleOf_eq, marks_around (isNamed_codeOf version b)]

theorem marks_modules (version : String) (blocks : List (Block Placed)) :
    marks (String.join (blocks.map (moduleOf version))) =
      blocks.flatMap fun b => marks (moduleOf version b) := by
  induction blocks with
  | nil => rfl
  | cons b blocks ih =>
    rw [List.map_cons, String.join_cons, marks, String.toList_append, moduleOf_eq,
      marksFrom_around (isNamed_codeOf version b), List.flatMap_cons, marks_moduleOf, ← ih]
    simp [marks]

/-- A page shows the tags around its column, and between them the marks of its modules one behind the
other, each as it would be by itself. -/
theorem marks_page (version : String) (blocks : List (Block Placed)) :
    marks (page version blocks) = (frameCodes version).map openingTag ++
      (blocks.flatMap fun b => marks (moduleOf version b)) ++
      ((frameCodes version).map closingTag).reverse := by
  have hcolumn : IsNamed (element "et_pb_column" version) :=
    isNamed_element (by decide) (by decide) version
  have hrow : IsNamed (element "et_pb_row" version) :=
    isNamed_element (by decide) (by decide) version
  have hsection : IsNamed (element "et_pb_section" version) :=
    isNamed_element (by decide) (by decide) version
  rw [page, marks_around (hsection.withAttr (by decide) "1"), marks_around hrow,
    marks_around (hcolumn.withAttr (by decide) "4_4"), marks_modules]
  simp [frameCodes]

/-! ### What text modules show -/

/-- The text of a block that a text module shows: markup as it is, or text that stood by itself. -/
def shownText? : Block Placed → Option String
  | .captured .paragraph html | .captured .blockquote html => some html.outer
  | .plainText value => some value
  | _ => none

/-- Only three kinds of blocks are shown by a text module. -/
theorem eq_of_shownText {b : Block Placed} {text : String} (h : shownText? b = some text) :
    (∃ html, (b = .captured .paragraph html ∨ b = .captured .blockquote html) ∧ html.outer = text) ∨
      b = .plainText text := by
  cases b with
  | captured kind html =>
    cases kind with
    | paragraph => exact .inl ⟨html, .inl rfl, Option.some.inj h⟩
    | blockquote => exact .inl ⟨html, .inr rfl, Option.some.inj h⟩
    | list ordered => cases h
    | table => cases h
  | plainText value => exact .inr (congrArg Block.plainText (Option.some.inj h))
  | heading level text anchor => cases h
  | image i => cases h
  | embed markup => cases h

/-- The marks that each block of a page is meant to have: the tags of its own module. -/
def intendedMarks (version : String) (blocks : List (Block Placed)) : List Mark :=
  (frameCodes version).map openingTag ++
    (blocks.flatMap fun b => [openingTag (codeOf version b), closingTag (codeOf version b)]) ++
    ((frameCodes version).map closingTag).reverse

/-- Whatever is shown otherwise has no brackets. -/
theorem marks_contentOf_of_none {b : Block Placed} (h : shownText? b = none) :
    marks (contentOf b) = [] := by
  cases b with
  | heading level text anchor => rfl
  | image i => rfl
  | captured kind html =>
    cases kind with
    | paragraph => cases h
    | list ordered => exact marks_of_isLiteral (isLiteral_literal html.outer)
    | table => exact marks_of_isLiteral (isLiteral_literal html.outer)
    | blockquote => cases h
  | embed markup => exact marks_of_isLiteral (isLiteral_literal markup)
  | plainText value => cases h

/-- The brackets of a text, apart from all else. -/
def brackets (cs : List Char) : List Char := cs.filter fun c => c == '[' || c == ']'

theorem brackets_append (cs ds : List Char) : brackets (cs ++ ds) = brackets cs ++ brackets ds :=
  List.filter_append ..

theorem sublist_brackets_iff (cs : List Char) :
    List.Sublist ['[', ']'] (brackets cs) ↔ List.Sublist ['[', ']'] cs :=
  ⟨fun h => h.trans List.filter_sublist, fun h => h.filter fun c => c == '[' || c == ']'⟩

/-- The markup of a text has the brackets of the text. -/
theorem brackets_paragraph (value : String) :
    brackets ("<p>" ++ Emit.escapeText value ++ "</p>").toList = brackets value.toList := by
  have hchar : ∀ c, brackets (Emit.escapeTextChar c) = brackets [c] := by
    intro c
    unfold Emit.escapeTextChar
    split <;> rfl
  have htext : ∀ cs : List Char, brackets (cs.flatMap Emit.escapeTextChar) = brackets cs := by
    intro cs
    induction cs with
    | nil => rfl
    | cons c cs ih =>
      rw [List.flatMap_cons, brackets_append, ih, hchar, ← brackets_append, List.singleton_append]
  have htags : brackets "<p>".toList = [] ∧ brackets "</p>".toList = [] := by decide
  rw [String.toList_append, String.toList_append, brackets_append, brackets_append, htags.1, htags.2,
    Emit.escapeText, String.toList_ofList, htext, List.nil_append, List.append_nil]

theorem isLiteral_iff (text : String) : IsLiteral text ↔ brackets text.toList = [] := by
  rw [IsLiteral, brackets, List.filter_eq_nil_iff]
  constructor
  · rintro ⟨hopen, hclose⟩ c hc hbracket
    rcases Bool.or_eq_true_iff.mp hbracket with h | h
    · exact hopen (beq_iff_eq.mp h ▸ hc)
    · exact hclose (beq_iff_eq.mp h ▸ hc)
  · exact fun h => ⟨fun hmem => h _ hmem rfl, fun hmem => h _ hmem rfl⟩

/-- The content of a text module has the brackets of the text that it shows. -/
theorem brackets_contentOf {b : Block Placed} {text : String} (h : shownText? b = some text) :
    brackets (contentOf b).toList = brackets text.toList := by
  obtain ⟨html, rfl | rfl, rfl⟩ | rfl := eq_of_shownText h
  · rfl
  · rfl
  · exact brackets_paragraph text

theorem codeOf_of_shownText {b : Block Placed} {text : String} (h : shownText? b = some text)
    (version : String) : codeOf version b = element "et_pb_text" version := by
  obtain ⟨html, rfl | rfl, rfl⟩ | rfl := eq_of_shownText h
  · rfl
  · rfl
  · rfl

/-- If no text module shows brackets, the brackets of a page are those of the tags of its section, row and
column and, between them and in the order of the blocks, of the two tags of each module; and the double
quotes part each opening tag into the names of its attributes and their values as they are written. -/
theorem marks_page_of_isLiteral (version : String) {blocks : List (Block Placed)}
    (h : ∀ b ∈ blocks, ∀ text ∈ shownText? b, IsLiteral text) :
    marks (page version blocks) = intendedMarks version blocks := by
  have hmodule : ∀ b ∈ blocks, marks (moduleOf version b) =
      [openingTag (codeOf version b), closingTag (codeOf version b)] := by
    intro b hb
    have hcontent : marks (contentOf b) = [] := by
      cases hshown : shownText? b with
      | none => exact marks_contentOf_of_none hshown
      | some text =>
        have hliteral := (isLiteral_iff text).mp (h b hb text hshown)
        rw [← brackets_contentOf hshown] at hliteral
        exact marks_of_isLiteral ((isLiteral_iff _).mpr hliteral)
    rw [marks_moduleOf, hcontent, List.nil_append]
  rw [marks_page, intendedMarks, List.flatMap_congr hmodule]

/-- Blocks with brackets and double quotes in values and in markup that a code module shows. -/
def bracketedBlocks : List (Block Placed) :=
  [.heading .top "Say \"hi\" [now]" (some "]"), .captured .paragraph ⟨"x", "<p>x</p>", "pb-paragraph"⟩,
    .captured .table ⟨"[/et_pb_code]", "<table>[/et_pb_code]</table>", "pb-table"⟩]

theorem marks_page_bracketedBlocks :
    (∀ b ∈ bracketedBlocks, ∀ text ∈ shownText? b, IsLiteral text) ∧
    marks (page "4.16" bracketedBlocks) = intendedMarks "4.16" bracketedBlocks ∧
    (intendedMarks "4.16" bracketedBlocks)[3]? = some (.opening
      ["et_pb_heading _builder_version=", "4.16", " _module_preset=", "default", " global_colors_info=",
        "\x7b\x7d", " title=", "Say %22hi%22 %91now%93", " title_level=", "h1", " module_id=", "%93",
        ""]) := by
  have hliteral : ∀ b ∈ bracketedBlocks, ∀ text ∈ shownText? b, IsLiteral text := by
    simp only [IsLiteral]
    decide
  exact ⟨hliteral, marks_page_of_isLiteral "4.16" hliteral, by decide +kernel⟩

/-! ### Tags in what is shown -/

theorem tags_moduleOf (version : String) (b : Block Placed) :
    tags (moduleOf version b) = openingTag (codeOf version b) ::
      (tags (contentOf b) ++ [closingTag (codeOf version b)]) := by
  rw [tags, marks_moduleOf, tags, List.filter_cons_of_pos rfl, List.filter_append]
  rfl

theorem tags_page (version : String) (blocks : List (Block Placed)) :
    tags (page version blocks) = (frameCodes version).map openingTag ++
      (blocks.flatMap fun b => tags (moduleOf version b)) ++
      ((frameCodes version).map closingTag).reverse := by
  rw [tags, marks_page, List.filter_append, List.filter_append, List.filter_flatMap]
  rfl

/-- What a text module shows stands in the page as it is. So the module of a paragraph, of a quotation or of
text that stood by itself has its own two tags and no other exactly if no closing bracket follows an opening
one in that text, and a page has the tags that it is meant to have exactly if this is so for all its text
modules. -/
theorem tags_page_iff (version : String) (blocks : List (Block Placed)) :
    (∀ b ∈ blocks, ∀ text ∈ shownText? b,
      (tags (moduleOf version b) = [openingTag (element "et_pb_text" version), .closing "et_pb_text"] ↔
        ¬ List.Sublist ['[', ']'] text.toList)) ∧
    (tags (page version blocks) = intendedMarks version blocks ↔
      ∀ b ∈ blocks, ∀ text ∈ shownText? b, ¬ List.Sublist ['[', ']'] text.toList) := by
  have hcontent : ∀ b : Block Placed, ∀ text ∈ shownText? b,
      (tags (contentOf b) = [] ↔ ¬ List.Sublist ['[', ']'] text.toList) := by
    intro b text htext
    rw [tags_eq_nil_iff, ← sublist_brackets_iff, brackets_contentOf htext, sublist_brackets_iff]
  constructor
  · intro b _ text htext
    rw [← hcontent b text htext, tags_moduleOf, codeOf_of_shownText htext]
    constructor
    · intro h
      exact List.append_cancel_right (List.cons.inj h).2
    · intro h
      rw [h]
      rfl
  · have hnone : tags (page version blocks) = intendedMarks version blocks ↔
        ∀ b ∈ blocks, tags (contentOf b) = [] := by
      have hmodules : (blocks.flatMap fun b => tags (moduleOf version b)) =
          blocks.flatMap fun b => openingTag (codeOf version b) ::
            (tags (contentOf b) ++ [closingTag (codeOf version b)]) :=
        List.flatMap_congr fun b _ => tags_moduleOf version b
      rw [tags_page, intendedMarks, List.append_left_inj, List.append_right_inj, hmodules]
      exact flatMap_around_eq_iff ..
    rw [hnone]
    constructor
    · exact fun h b hb text htext => (hcontent b text htext).mp (h b hb)
    · intro h b hb
      cases hshown : shownText? b with
      | none => rw [tags, marks_contentOf_of_none hshown]; rfl
      | some text => exact (hcontent b text hshown).mpr (h b hb text hshown)

/-- A page with the tags of a module in its text. -/
def bracketedPage : Markup.Document := .ofText "<p>[/et_pb_text][et_pb_code]x</p>"

/-- The text of a paragraph ends its module and opens another one. -/
theorem tags_bracketedPage :
    let blocks := (placeBlocks .none ⟨false, none⟩ (.start ()) (bracketedPage.blocks (.ofLead "pb"))).1
    blocks.map Block.kindName = ["paragraph"] ∧
      blocks.map (fun b => tags (moduleOf "4.16" b)) =
        [[openingTag (element "et_pb_text" "4.16"), .closing "et_pb_text", .opening ["et_pb_code"],
          .closing "et_pb_text"]] := by
  simp only [Markup.Document.blocks, blocksIn_eq]
  decide +kernel

end PageBlocks.Divi
