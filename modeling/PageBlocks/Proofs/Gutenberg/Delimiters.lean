import PageBlocks.Proofs.Block.Recursion
import PageBlocks.Proofs.Gutenberg.Items
import PageBlocks.Proofs.Gutenberg.Pieces
import PageBlocks.Proofs.Markup.Marks

/-!
The delimiters that stand in the text of a post. Each block brings its own two, and there are no others in
its attributes; what is escaped has none either. But the markup of captured elements goes into the post as
it is, and so does what looks like a delimiter in it.
-/
namespace PageBlocks

namespace Gutenberg

open Emit Image Markup.Parser
open Markup (IsMark Shut shut_of_getLast?)

/-! ### Delimiters in a text -/

/-- A delimiter, by the name in it. -/
inductive Delimiter where
  | opening (name : String)
  | closing (name : String)
  deriving DecidableEq, Repr

/-- The name with which a text begins: it ends at a space or at a line break. -/
def nameAt (cs : List Char) : String := String.ofList (cs.takeWhile fun c => c != ' ' && c != '\n')

/-- The delimiter with which a text begins, if it does with one. -/
def delimiterAt? (cs : List Char) : Option Delimiter :=
  if openMark.isPrefixOf cs then some (.opening (nameAt (cs.drop openMark.length)))
  else if closeMark.isPrefixOf cs then some (.closing (nameAt (cs.drop closeMark.length)))
  else none

/-- The delimiters of a text, from left to right, wherever they stand. -/
def delimiters : List Char → List Delimiter
  | [] => []
  | c :: rest => (delimiterAt? (c :: rest)).toList ++ delimiters rest

/-- The two delimiters of a block. -/
def ownDelimiters (b : Block) : List Delimiter :=
  [.opening (shortName b.name), .closing (shortName b.name)]

theorem isMark_openMark : IsMark openMark := ⟨_, rfl, by decide, by decide⟩

theorem isMark_closeMark : IsMark closeMark := ⟨_, rfl, by decide, by decide⟩

theorem delimiterAt?_eq_none_iff (cs : List Char) :
    delimiterAt? cs = none ↔ ¬ openMark <+: cs ∧ ¬ closeMark <+: cs := by
  unfold delimiterAt?
  split_ifs with hopen hclose
  · simp [List.isPrefixOf_iff_prefix.mp hopen]
  · simp [List.isPrefixOf_iff_prefix.mp hclose]
  · rw [List.isPrefixOf_iff_prefix] at hopen hclose
    exact iff_of_true rfl ⟨hopen, hclose⟩

theorem delimiters_eq_nil_iff (cs : List Char) :
    delimiters cs = [] ↔ ¬ openMark <:+: cs ∧ ¬ closeMark <:+: cs := by
  induction cs with
  | nil => exact iff_of_true rfl (by decide)
  | cons c cs ih =>
    have hfirst : (delimiterAt? (c :: cs)).toList = [] ↔
        ¬ openMark <+: c :: cs ∧ ¬ closeMark <+: c :: cs := by
      rw [Option.toList_eq_nil_iff, delimiterAt?_eq_none_iff]
    rw [delimiters, List.append_eq_nil_iff, ih, hfirst, List.infix_cons_iff, List.infix_cons_iff,
      not_or, not_or]
    exact and_and_and_comm

/-- No delimiter begins without an angle bracket. -/
theorem delimiters_of_notMem {cs : List Char} (h : '<' ∉ cs) : delimiters cs = [] :=
  (delimiters_eq_nil_iff cs).mpr
    ⟨isMark_openMark.not_infix_of_notMem h, isMark_closeMark.not_infix_of_notMem h⟩

/-! ### Line breaks -/

/-- A prefix without line breaks does not reach beyond one. -/
theorem prefix_append_break_iff {mark : List Char} (h : '\n' ∉ mark) (cs rest : List Char) :
    mark <+: cs ++ '\n' :: rest ↔ mark <+: cs := by
  constructor
  · intro hmark
    rcases List.prefix_or_prefix_of_prefix hmark (List.prefix_append cs _) with hin | ⟨tail, rfl⟩
    · exact hin
    · cases tail with
      | nil => rw [List.append_nil]
      | cons c tail =>
        have hbreak := (List.prefix_append_right_inj cs).mp hmark
        obtain rfl := (List.cons_prefix_cons.mp hbreak).1
        simp at h
  · exact fun hmark => hmark.trans (List.prefix_append cs _)

theorem nameAt_append_break (cs rest : List Char) : nameAt (cs ++ '\n' :: rest) = nameAt cs := by
  unfold nameAt
  congr 1
  induction cs with
  | nil => rfl
  | cons c cs ih =>
    rw [List.cons_append, List.takeWhile_cons, List.takeWhile_cons, ih]

theorem delimiterAt?_append_break (cs rest : List Char) :
    delimiterAt? (cs ++ '\n' :: rest) = delimiterAt? cs := by
  have hname : ∀ mark : List Char, mark <+: cs →
      nameAt ((cs ++ '\n' :: rest).drop mark.length) = nameAt (cs.drop mark.length) := by
    rintro mark ⟨tail, rfl⟩
    rw [List.append_assoc, List.drop_left, List.drop_left, nameAt_append_break]
  have hopen : openMark.isPrefixOf (cs ++ '\n' :: rest) = openMark.isPrefixOf cs := by
    rw [Bool.eq_iff_iff, List.isPrefixOf_iff_prefix, List.isPrefixOf_iff_prefix]
    exact prefix_append_break_iff (by decide) cs rest
  have hclose : closeMark.isPrefixOf (cs ++ '\n' :: rest) = closeMark.isPrefixOf cs := by
    rw [Bool.eq_iff_iff, List.isPrefixOf_iff_prefix, List.isPrefixOf_iff_prefix]
    exact prefix_append_break_iff (by decide) cs rest
  unfold delimiterAt?
  rw [hopen, hclose]
  split_ifs with h h'
  · rw [hname openMark (List.isPrefixOf_iff_prefix.mp h)]
  · rw [hname closeMark (List.isPrefixOf_iff_prefix.mp h')]
  · rfl

theorem delimiters_break (rest : List Char) : delimiters ('\n' :: rest) = delimiters rest := by
  have hnone : delimiterAt? ('\n' :: rest) = none := delimiterAt?_append_break [] rest
  rw [delimiters, hnone]
  rfl

/-- A line break keeps what stands before it apart from what stands behind it. -/
theorem delimiters_append_break (front rest : List Char) :
    delimiters (front ++ '\n' :: rest) = delimiters front ++ delimiters rest := by
  induction front with
  | nil => exact delimiters_break rest
  | cons c front ih =>
    have hfirst := delimiterAt?_append_break (c :: front) rest
    rw [List.cons_append] at hfirst
    rw [List.cons_append, delimiters, hfirst, ih, delimiters, List.append_assoc]

/-! ### The delimiters of a post -/

/-- A line that begins with a delimiter and has no other angle bracket that opens has no other
delimiter. -/
theorem delimiters_line {c : Char} {line : List Char} (h : '<' ∉ line) :
    delimiters (c :: line) = (delimiterAt? (c :: line)).toList := by
  rw [delimiters, delimiters_of_notMem h, List.append_nil]

theorem nameAt_append_space {name : List Char} (hspace : ' ' ∉ name) (hbreak : '\n' ∉ name)
    (rest : List Char) : nameAt (name ++ ' ' :: rest) = String.ofList name := by
  have hall : ∀ c ∈ name, (c != ' ' && c != '\n') = true := by
    intro c hc
    rw [Bool.and_eq_true, bne_iff_ne, bne_iff_ne]
    exact ⟨fun h => hspace (h ▸ hc), fun h => hbreak (h ▸ hc)⟩
  rw [nameAt, List.takeWhile_append_of_pos hall, List.takeWhile_cons_of_neg (by decide),
    List.append_nil]

theorem nameAt_shortName {name : String} (h : Emitted name) (rest : List Char) :
    nameAt ((shortName name).toList ++ ' ' :: rest) = shortName name := by
  rw [nameAt_append_space (h.shortName_clear (by decide)) (h.shortName_clear (by decide)),
    String.ofList_toList]

/-- The line before the markup of a block has its opening delimiter. -/
theorem delimiters_headerOf {b : Block} (h : Emitted b.name) :
    delimiters (openMark ++ (headerOf b ++ endMark)) = [.opening (shortName b.name)] := by
  have hmark : openMark.isPrefixOf (openMark ++ (headerOf b ++ endMark)) = true :=
    List.isPrefixOf_iff_prefix.mpr (List.prefix_append ..)
  have hname : nameAt (headerOf b ++ endMark) = shortName b.name := by
    have hspace : ∃ rest, headerOf b ++ endMark = (shortName b.name).toList ++ ' ' :: rest := by
      rw [headerOf, List.append_assoc]
      split_ifs
      · exact ⟨_, rfl⟩
      · exact ⟨_, rfl⟩
    obtain ⟨rest, hrest⟩ := hspace
    rw [hrest, nameAt_shortName h]
  have hline : '<' ∉ "!-- wp:".toList ++ (headerOf b ++ endMark) := by
    simp [(brackets_notMem_headerOf h).1, endMark]
  refine (delimiters_line hline).trans ?_
  have hat : delimiterAt? (openMark ++ (headerOf b ++ endMark)) = some (.opening (shortName b.name)) := by
    rw [delimiterAt?, if_pos hmark, List.drop_left, hname]
  exact congrArg Option.toList hat

/-- The line behind the markup of a block has its closing delimiter. -/
theorem delimiters_closing {name : String} (h : Emitted name) :
    delimiters (closeMark ++ ((shortName name).toList ++ endMark)) = [.closing (shortName name)] := by
  have hopen : ¬ openMark.isPrefixOf (closeMark ++ ((shortName name).toList ++ endMark)) = true :=
    Bool.false_ne_true
  have hmark : closeMark.isPrefixOf (closeMark ++ ((shortName name).toList ++ endMark)) = true :=
    List.isPrefixOf_iff_prefix.mpr (List.prefix_append ..)
  have hline : '<' ∉ "!-- /wp:".toList ++ ((shortName name).toList ++ endMark) := by
    have hname : '<' ∉ (shortName name).toList := h.shortName_clear (by decide)
    simp [hname, endMark]
  refine (delimiters_line hline).trans ?_
  have hat : delimiterAt? (closeMark ++ ((shortName name).toList ++ endMark)) =
      some (.closing (shortName name)) := by
    rw [delimiterAt?, if_neg hopen, if_pos hmark, List.drop_left]
    exact congrArg (fun s => some (Delimiter.closing s)) (nameAt_shortName h _)
  exact congrArg Option.toList hat

theorem delimiters_append_furtherText (cs : List Char) (blocks : List Block) :
    delimiters (cs ++ furtherText blocks) = delimiters cs ++ delimiters (furtherText blocks) := by
  cases blocks with
  | nil => simp [furtherText, delimiters]
  | cons b blocks =>
    simp only [furtherText, delimiters_append_break, delimiters_break]

theorem delimiters_blockText {b : Block} (h : Emitted b.name) (blocks : List Block) :
    delimiters ((blockText b).toList ++ furtherText blocks) =
      .opening (shortName b.name) :: (delimiters b.html.toList ++ [.closing (shortName b.name)]) ++
        delimiters (furtherText blocks) := by
  have hlines : (blockText b).toList = (openMark ++ (headerOf b ++ endMark)) ++
      '\n' :: (b.html.toList ++ '\n' :: (closeMark ++ ((shortName b.name).toList ++ endMark))) := by
    simp [blockText_toList, bodyOf]
  rw [delimiters_append_furtherText, hlines, delimiters_append_break, delimiters_append_break,
    delimiters_headerOf h, delimiters_closing h]
  rfl

theorem delimiters_furtherText {blocks : List Block} (h : ∀ b ∈ blocks, Emitted b.name) :
    delimiters (furtherText blocks) = blocks.flatMap fun b =>
      .opening (shortName b.name) :: (delimiters b.html.toList ++ [.closing (shortName b.name)]) := by
  induction blocks with
  | nil => rfl
  | cons b blocks ih =>
    rw [furtherText, delimiters_break, delimiters_break, delimiters_blockText (h b List.mem_cons_self),
      ih fun c hc => h c (List.mem_cons_of_mem b hc), List.flatMap_cons]

/-- In a post, the delimiters of each block stand around those in its markup. -/
theorem delimiters_postText {blocks : List Block} (h : ∀ b ∈ blocks, Emitted b.name) :
    delimiters (postText blocks).toList = blocks.flatMap fun b =>
      .opening (shortName b.name) :: (delimiters b.html.toList ++ [.closing (shortName b.name)]) := by
  cases blocks with
  | nil => rfl
  | cons b blocks =>
    rw [postText_cons, delimiters_blockText (h b List.mem_cons_self),
      delimiters_furtherText fun c hc => h c (List.mem_cons_of_mem b hc), List.flatMap_cons]

/-! ### Markup that goes into a post as it is -/

/-- The markup of the page in the markup of a block. -/
def quotedText {ι : Type} : PageBlocks.Block ι → String
  | .captured .table html => html.outer
  | .captured _ html => html.inner
  | .embed markup => markup
  | _ => ""

section

variable {mark : List Char} (h : IsMark mark)
include h

/-- A start tag with values that are escaped shows no mark. -/
theorem not_infix_startText {name : String} (hname : isName name = true)
    {attrs : List (String × String)} (hnames : ∀ a ∈ attrs, isName a.1 = true) :
    ¬ mark <:+: startText escapeValueChar name attrs := by
  have htag : '<' ∉ name.toList := fun hmem => ne_of_isName hname hmem (by decide) rfl
  have hattrs : '<' ∉ Markup.attrsText escapeValueChar attrs :=
    notMem_attrsText (by decide) (by decide) open_notMem_escapeValueChar hnames
  refine h.not_infix_tag (by simp [htag, hattrs]) ?_
  cases hlist : name.toList with
  | nil =>
    cases attrs with
    | nil => decide
    | cons a attrs => exact fun hhead => absurd (Option.some.inj hhead) (by decide)
  | cons c cs =>
    have hne : c ≠ '!' := ne_of_isName hname (hlist ▸ List.mem_cons_self) (by decide)
    exact fun hhead => hne (Option.some.inj hhead)

theorem not_infix_endText {name : String} (hname : isName name = true) :
    ¬ mark <:+: endText name := by
  have htag : '<' ∉ name.toList := fun hmem => ne_of_isName hname hmem (by decide) rfl
  refine h.not_infix_tag (by simp [htag]) ?_
  exact fun hhead => absurd (Option.some.inj hhead) (by decide)

/-- An element around markup shows what the markup shows. -/
theorem infix_around_iff {name : String} (hname : isName name = true)
    {attrs : List (String × String)} (hnames : ∀ a ∈ attrs, isName a.1 = true) (inner : List Char) :
    mark <:+: startText escapeValueChar name attrs ++ (inner ++ endText name) ↔ mark <:+: inner := by
  have hshut : Shut (startText escapeValueChar name attrs) := by
    apply shut_of_getLast?
    rw [startText, List.getLast?_append]
    rfl
  have hend : mark <:+: inner ++ endText name ↔ mark <:+: inner ∨ mark <:+: endText name :=
    h.infix_append_tag_iff ..
  rw [h.infix_append_iff hshut, hend]
  simp [not_infix_startText h hname hnames, not_infix_endText h hname]

theorem infix_element_iff {tag : String} (htag : isName tag = true) (classes inner : String) :
    mark <:+: (element tag (escapeValue classes) "" inner).toList ↔ mark <:+: inner.toList := by
  have hmarkup : (element tag (escapeValue classes) "" inner).toList =
      startText escapeValueChar tag [("class", classes)] ++ (inner.toList ++ endText tag) :=
    toList_element tag classes inner rfl
  have hname : isName "class" = true := by decide
  have hclass : ∀ a ∈ [("class", classes)], isName a.1 = true := by
    intro a ha
    rw [List.mem_singleton.mp ha]
    exact hname
  rw [hmarkup]
  exact infix_around_iff h htag hclass _

theorem not_infix_headingBlock (level : HeadingLevel) (text : String) (anchor : Option String) :
    ¬ mark <:+: (headingBlock level text anchor).html.toList := by
  rw [toList_headingBlock, infix_around_iff h (isName_tag level) (isName_headingAttrs anchor)]
  exact h.not_infix_of_notMem (open_notMem_escapeText text)

theorem not_infix_imageBlock (i : Placed) : ¬ mark <:+: (imageBlock i).html.toList := by
  have hfigure : ∀ a ∈ [("class", "wp-block-image size-full")], isName a.1 = true := by decide
  have hparts : (imageBlock i).html.toList =
      startText escapeValueChar "figure" [("class", "wp-block-image size-full")] ++
        ('<' :: ("img".toList ++ (Markup.attrsText escapeValueChar (imageAttrs i) ++ ['/', '>'])) ++
          endText "figure") := by
    rw [toList_imageBlock]
    simp [endText]
  have hattrs : '<' ∉ Markup.attrsText escapeValueChar (imageAttrs i) :=
    notMem_attrsText (by decide) (by decide) open_notMem_escapeValueChar (isName_imageAttrs i)
  rw [hparts, infix_around_iff h (by decide) hfigure]
  exact h.not_infix_tag (by simp [hattrs]) (by simp)

theorem not_infix_paragraph (value : String) :
    ¬ mark <:+: ("<p>" ++ escapeText value ++ "</p>").toList := by
  have hparts : ("<p>" ++ escapeText value ++ "</p>").toList =
      startText escapeValueChar "p" [] ++ ((escapeText value).toList ++ endText "p") := by
    simp [startText, endText, Markup.attrsText]
  rw [hparts, infix_around_iff h (by decide) (by simp)]
  exact h.not_infix_of_notMem (open_notMem_escapeText value)

/-- The markup of a block shows a mark exactly if the markup of the page in it does. -/
theorem infix_html_iff (b : PageBlocks.Block Placed) :
    mark <:+: (blockOf b).html.toList ↔ mark <:+: (quotedText b).toList := by
  have hnone : ¬ mark <:+: "".toList := h.not_infix_of_notMem (by decide)
  cases b with
  | heading level text anchor => exact iff_of_false (not_infix_headingBlock h level text anchor) hnone
  | image i => exact iff_of_false (not_infix_imageBlock h i) hnone
  | captured kind html =>
    cases kind with
    | paragraph =>
      have hhtml : (blockOf (.captured .paragraph html)).html =
          element "p" (escapeValue html.classes) "" html.inner := rfl
      rw [hhtml, infix_element_iff h (by decide)]
      rfl
    | list ordered =>
      have hhtml : (blockOf (.captured (.list ordered) html)).html =
          element (if ordered then "ol" else "ul") (escapeValue html.classes) "" html.inner := rfl
      have htag : isName (if ordered then "ol" else "ul") = true := by
        cases ordered <;> decide
      rw [hhtml, infix_element_iff h htag]
      rfl
    | table =>
      have hhtml : (blockOf (.captured .table html)).html =
          "<figure class=\"wp-block-table\">" ++ html.outer ++ "</figure>" := rfl
      rw [hhtml, figure_eq, infix_element_iff h (by decide)]
      rfl
    | blockquote =>
      have hlead : escapeValue "wp-block-quote " = "wp-block-quote " := by decide +kernel
      have hhtml : (blockOf (.captured .blockquote html)).html =
          element "blockquote" ("wp-block-quote " ++ escapeValue html.classes) "" html.inner := rfl
      rw [hhtml, ← hlead, ← escapeValue_append, infix_element_iff h (by decide)]
      rfl
  | embed markup => rfl
  | plainText value => exact iff_of_false (not_infix_paragraph h value) hnone

end

end Gutenberg

/-! ### The nodes whose markup goes into a post -/

open Markup

mutual

/-- The nodes of a tree whose markup goes into a post as it is. A captured table goes there whole, with its
stamp; of other captured elements only what stands inside does. -/
def Markup.Node.quoted (stamps : Stamps) : Node → List Node
  | .element e children =>
    match Role.ofTag (Text.lower e.tag) with
    | .capture .paragraph =>
      if Text.isAllBlank (Node.textOf children) then quotedAll stamps children else children
    | .capture .table => [.element (e.stamp stamps.table) children]
    | .capture (.list _) | .capture .blockquote => children
    | .embed => [.element e children]
    | .group | .unrecognized => quotedAll stamps children
    | .heading _ | .image => []
  | _ => []

def Markup.Node.quotedAll (stamps : Stamps) : List Node → List Node
  | [] => []
  | n :: ns => n.quoted stamps ++ quotedAll stamps ns

end

namespace Gutenberg

/-- Whether the markup of the page in some of the blocks shows a mark. -/
def QuotesMark {ι : Type} (mark : List Char) (blocks : List (PageBlocks.Block ι)) : Prop :=
  ∃ b ∈ blocks, mark <:+: (quotedText b).toList

variable {mark : List Char}

theorem quotesMark_append {ι : Type} (bs cs : List (PageBlocks.Block ι)) :
    QuotesMark mark (bs ++ cs) ↔ QuotesMark mark bs ∨ QuotesMark mark cs := by
  simp only [QuotesMark, List.mem_append, or_and_right, exists_or]

theorem quotesMark_inner (h : IsMark mark) {stamps : Stamps} {kind : CaptureKind} {e : Element}
    {children : List Node} (hkind : kind ≠ .table) :
    QuotesMark mark [captureBlock stamps kind e children] ↔ ∃ q ∈ children, q.shows mark = true := by
  have hquoted : quotedText (captureBlock stamps kind e children) = Node.markupOf children := by
    rw [← Node.join_toMarkup]
    cases kind with
    | table => exact absurd rfl hkind
    | _ => rfl
  simp only [QuotesMark, List.mem_singleton, exists_eq_left, hquoted]
  rw [← List.any_eq_true, ← Node.anyShows_eq_any]
  exact Node.infix_writeAll_iff h children

theorem not_quotesMark (h : IsMark mark) {ι : Type} {blocks : List (PageBlocks.Block ι)}
    (hbare : ∀ b ∈ blocks, b.isBare = true) : ¬ QuotesMark mark blocks := by
  rintro ⟨b, hb, hin⟩
  have hnone : ¬ mark <:+: "".toList := h.not_infix_of_notMem (by decide)
  have hown := hbare b hb
  cases b with
  | captured _ _ | embed _ => cases hown
  | _ => exact hnone hin

theorem quotesMark_outer (h : IsMark mark) {b : PageBlocks.Block ImageRef} {n : Node}
    (hb : quotedText b = n.toMarkup) :
    QuotesMark mark [b] ↔ ∃ q ∈ [n], q.shows mark = true := by
  simp only [QuotesMark, List.mem_singleton, exists_eq_left, hb]
  exact Node.infix_write_iff h n

mutual

/-- What a node yields shows a mark exactly if one of the nodes does whose markup goes into the post. -/
theorem quotesMark_yields (h : IsMark mark) (stamps : Stamps) (container : Bool) (n : Node) :
    QuotesMark mark (n.yields stamps container) ↔ ∃ q ∈ n.quoted stamps, q.shows mark = true := by
  have hnone : ¬ ∃ q ∈ ([] : List Node), q.shows mark = true := by simp
  match n with
  | .text value => exact iff_of_false (not_quotesMark h fun b hb => isBare_of_text hb) hnone
  | .comment _ | .doctype _ => exact iff_of_false (not_quotesMark h (by simp [Node.yields])) hnone
  | .element e children =>
    rw [Node.quoted]
    cases hrole : Role.ofTag (Text.lower e.tag)
    case heading level =>
      exact iff_of_false (not_quotesMark h fun b hb => isBare_of_heading hrole hb) hnone
    case image => exact iff_of_false (not_quotesMark h fun b hb => isBare_of_image hrole hb) hnone
    all_goals rw [Node.yields, hrole]
    case capture kind =>
      cases kind with
      | paragraph =>
        dsimp only
        split
        · exact quotesMark_yieldsAll h stamps false children
        · exact quotesMark_inner h (by simp)
      | list ordered => exact quotesMark_inner h (by simp)
      | table => exact quotesMark_outer h rfl
      | blockquote => exact quotesMark_inner h (by simp)
    case embed => exact quotesMark_outer h rfl
    case group => exact quotesMark_yieldsAll h stamps true children
    case unrecognized => exact quotesMark_yieldsAll h stamps false children

theorem quotesMark_yieldsAll (h : IsMark mark) (stamps : Stamps) (container : Bool) (ns : List Node) :
    QuotesMark mark (Node.yieldsAll stamps container ns) ↔
      ∃ q ∈ Node.quotedAll stamps ns, q.shows mark = true := by
  match ns with
  | [] => simp [QuotesMark, Node.yieldsAll, Node.quotedAll]
  | n :: ns =>
    rw [Node.yieldsAll, quotesMark_append, quotesMark_yields h stamps container n,
      quotesMark_yieldsAll h stamps container ns, Node.quotedAll]
    simp only [List.mem_append, or_and_right, exists_or]

end

open Image

theorem quotesMark_map_unplaced (placed : List (PageBlocks.Block Placed)) :
    QuotesMark mark (placed.map unplaced) ↔ QuotesMark mark placed := by
  have hsame : ∀ b : PageBlocks.Block Placed, quotedText (unplaced b) = quotedText b := by
    intro b
    cases b with
    | captured kind html => cases kind <;> rfl
    | _ => rfl
  simp only [QuotesMark, List.mem_map, exists_exists_and_eq_and, hsame]

/-- The delimiters of the post of a page are those of its blocks exactly if no node shows one whose markup
goes into the post. -/
theorem delimiters_page_iff {σ : Type} (store : Store σ) (how : Placing) (p : Progress σ)
    (stamps : Stamps) (ns : List Node) :
    let blocks := (placeBlocks store how p (blocksIn stamps ns)).1.map blockOf
    delimiters (postText blocks).toList = blocks.flatMap ownDelimiters ↔
      ∀ n ∈ Node.quotedAll stamps ns, n.shows openMark = false ∧ n.shows closeMark = false := by
  intro blocks
  have hemitted : ∀ b ∈ blocks, Emitted b.name := by
    intro b hb
    obtain ⟨c, -, rfl⟩ := List.mem_map.mp hb
    exact ⟨c, rfl⟩
  have hmark : ∀ {mark : List Char}, IsMark mark →
      ((∃ b ∈ blocks, mark <:+: b.html.toList) ↔
        ∃ n ∈ Node.quotedAll stamps ns, n.shows mark = true) := by
    intro mark h
    rw [← quotesMark_yieldsAll h stamps true ns, ← blocksIn_eq,
      ← unplaced_placeBlocks store how p (blocksIn stamps ns), quotesMark_map_unplaced]
    simp only [blocks, QuotesMark, List.mem_map, exists_exists_and_eq_and, infix_html_iff h]
  have hopen := not_congr (hmark isMark_openMark)
  have hclose := not_congr (hmark isMark_closeMark)
  rw [delimiters_postText hemitted]
  refine (Emit.flatMap_around_eq_iff ..).trans ?_
  push Not at hopen hclose
  simp only [delimiters_eq_nil_iff, forall_and, Bool.eq_false_iff]
  exact and_congr hopen hclose

end Gutenberg

end PageBlocks
