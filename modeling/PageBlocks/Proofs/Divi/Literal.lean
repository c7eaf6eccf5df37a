import PageBlocks.Proofs.Divi.Brackets
import PageBlocks.Proofs.Page.Preparation

/-!
What the markup in a code module says. Its square brackets are written as references by number, wherever
they stand. Where references count, in running text, in the text of a title or an edit field and in the
values of attributes, the markup says the same as before; elsewhere a reference is text like any other,
and the markup changes.
-/
namespace PageBlocks.Markup.Parser

open Lexer Shortcode

/-- Whether a character is no square bracket, or is read where references count. -/
def minds (p : Parser) (ch : Char) : Bool :=
  !(ch == '[' || ch == ']') || (referenceTarget? p.lexer.state).isSome

/-- Whether all square brackets of a text are read where references count. -/
def mindsAll (p : Parser) : List Char → Bool
  | [] => true
  | ch :: cs => p.minds ch && (p.step ch).mindsAll cs

/-- A bracket that is read where references count leads to the same parser as the reference to it. -/
theorem foldl_literalChar {p : Parser} {ch : Char} (h : p.minds ch = true) :
    (literalChar ch).foldl step p = p.step ch := by
  obtain ⟨lx, c, fresh⟩ := p
  unfold literalChar
  split
  · obtain ⟨target, htarget⟩ := Option.isSome_iff_exists.mp h
    exact foldl_reference htarget (.inr (.inl rfl)) (by decide) (by decide) (Bool.and_false fresh)
  · obtain ⟨target, htarget⟩ := Option.isSome_iff_exists.mp h
    exact foldl_reference htarget (.inr (.inr (.inl rfl))) (by decide) (by decide)
      (Bool.and_false fresh)
  · rfl

theorem foldl_literal {p : Parser} {cs : List Char} (h : p.mindsAll cs = true) :
    (cs.flatMap literalChar).foldl step p = cs.foldl step p := by
  induction cs generalizing p with
  | nil => rfl
  | cons ch cs ih =>
    rw [mindsAll, Bool.and_eq_true] at h
    rw [List.flatMap_cons, List.foldl_append, foldl_literalChar h.1, ih h.2]
    rfl

end PageBlocks.Markup.Parser

namespace PageBlocks.Divi

open Image Markup

/-- Markup all of whose square brackets stand where references count says the same as literal content. -/
theorem ofText_literal {markup : String} (h : Parser.start.mindsAll markup.toList = true) :
    Document.ofText (Shortcode.literal markup) = Document.ofText markup := by
  rw [Document.ofText, Document.ofText, Shortcode.literal, String.toList_ofList,
    Parser.foldl_literal h]

/-- The markup that is put into a code module for a block, if the block gets one. -/
def codeMarkup? : Block Placed → Option String
  | .captured .table html | .captured (.list _) html => some html.outer
  | .embed markup => some markup
  | _ => none

theorem module_of_codeMarkup {b : Block Placed} {markup : String} (h : codeMarkup? b = some markup)
    (version : String) : codeOf version b = element "et_pb_code" version ∧
      contentOf b = Shortcode.literal markup := by
  cases b with
  | captured kind html =>
    cases kind with
    | paragraph | blockquote => cases h
    | list ordered | table =>
      cases h
      exact ⟨rfl, rfl⟩
  | embed html =>
    cases h
    exact ⟨rfl, rfl⟩
  | _ => cases h

/-- A table, a list or an embedded page stands in a code module as markup that says the same as its own,
if all square brackets in it stand where references count. -/
theorem moduleOf_says_markup {b : Block Placed} {markup : String} (hcode : codeMarkup? b = some markup)
    (h : Parser.start.mindsAll markup.toList = true) (version : String) :
    ∃ content, moduleOf version b = (element "et_pb_code" version).around content ∧
      content = Shortcode.literal markup ∧ Document.ofText content = Document.ofText markup := by
  obtain ⟨helement, hcontent⟩ := module_of_codeMarkup hcode version
  refine ⟨contentOf b, ?_, hcontent, ?_⟩
  · rw [moduleOf_eq, helement]
  · rw [hcontent, ofText_literal h]

/-- A list with square brackets in the value of an attribute and in its text, with an ampersand before
one of them. -/
def bracketedList : Captured where
  inner := "<li title=\"[a]\">&amp;[1]</li>"
  outer := "<ul class=\"pb-list\"><li title=\"[a]\">&amp;[1]</li></ul>"
  classes := "pb-list"

theorem moduleOf_says_bracketedList :
    codeMarkup? (.captured (.list false) bracketedList) = some bracketedList.outer ∧
    Parser.start.mindsAll bracketedList.outer.toList = true ∧
    ∃ content, moduleOf "4.16" (.captured (.list false) bracketedList) =
        (element "et_pb_code" "4.16").around content ∧
      content = Shortcode.literal bracketedList.outer ∧
      Document.ofText content = Document.ofText bracketedList.outer := by
  have hminds : Parser.start.mindsAll bracketedList.outer.toList = true := by decide +kernel
  exact ⟨rfl, hminds, moduleOf_says_markup rfl hminds "4.16"⟩

/-- The body of the page that markup says, as markup again. -/
def saidBy (markup : String) : String := Node.markupOf (Document.ofText markup).bodyChildren

/-- A page with square brackets in the name of an attribute, in a script, in a comment and in what an
embedding element holds for readers that do not know it. -/
def boundPage : Document :=
  .ofText "<ul><li a[><script>b[0]</script><!--[c]--></li></ul><iframe>[d]</iframe>"

/-- In none of these places does a reference count: what the markup of each block says by itself is
changed in the code module. -/
theorem saidBy_boundPage :
    let blocks := (placeBlocks .none ⟨false, none⟩ (.start ()) (boundPage.blocks (.ofLead "pb"))).1
    blocks.map (fun b => (codeMarkup? b).map fun markup =>
        (saidBy markup, saidBy (Shortcode.literal markup))) =
      [some ("<ul class=\"pb-list\"><li a[=\"\"><script>b[0]</script><!--[c]--></li></ul>",
          "<ul class=\"pb-list\"><li a&#91;=\"\"><script>b&#91;0&#93;</script><!--&#91;c&#93;--></li></ul>"),
        some ("<iframe>[d]</iframe>", "<iframe>&#91;d&#93;</iframe>")] := by
  simp only [Document.blocks, blocksIn_eq]
  decide +kernel

end PageBlocks.Divi
