import Mathlib.Data.List.Infix
import PageBlocks.Proofs.Gutenberg.Attributes

/-!
Cutting the text of a post into its blocks. The cut is made at the delimiters alone: an opening
delimiter up to its end, then the next closing delimiter up to its end, and so on. No attribute can
hide or feign a delimiter, so the blocks come back one by one, with nothing between them but the blank
lines that were put there.
-/
namespace PageBlocks.Gutenberg

/-! ### Cutting at a mark -/

/-- What stands before the first occurrence of a mark, and what stands behind it. -/
def cutAt (mark : List Char) : List Char → Option (List Char × List Char)
  | [] => none
  | c :: rest =>
    if mark.isPrefixOf (c :: rest) then some ([], (c :: rest).drop mark.length)
    else (cutAt mark rest).map fun (front, back) => (c :: front, back)

theorem cutAt_eq_none {mark cs : List Char} (h : ¬ mark <:+: cs) : cutAt mark cs = none := by
  induction cs with
  | nil => rfl
  | cons c cs ih =>
    have hprefix : ¬ mark.isPrefixOf (c :: cs) = true := fun hp =>
      h (List.isPrefixOf_iff_prefix.mp hp).isInfix
    have hrest : ¬ mark <:+: cs := fun hi => h (hi.trans (List.suffix_cons c cs).isInfix)
    rw [cutAt, if_neg hprefix, ih hrest]
    rfl

/-- A mark whose first character does not come again in it cannot begin in a text that does not hold
it, not even at the end of that text. -/
theorem cutAt_append {c : Char} {m front : List Char} (hm : c ∉ m) (h : ¬ c :: m <:+: front)
    (rest : List Char) : cutAt (c :: m) (front ++ (c :: m) ++ rest) = some (front, rest) := by
  induction front with
  | nil =>
    have hprefix : (c :: m).isPrefixOf (c :: (m ++ rest)) = true :=
      List.isPrefixOf_iff_prefix.mpr (List.prefix_append (c :: m) rest)
    simp only [List.nil_append, List.cons_append]
    rw [cutAt, if_pos hprefix]
    simp
  | cons d front ih =>
    have hfront : ¬ c :: m <:+: front := fun hi => h (hi.trans (List.suffix_cons d front).isInfix)
    have hprefix : ¬ (c :: m).isPrefixOf (d :: (front ++ (c :: m) ++ rest)) = true := by
      intro hp
      have hmark : c :: m <+: (d :: front) ++ (c :: m ++ rest) := by
        simpa using List.isPrefixOf_iff_prefix.mp hp
      rcases List.prefix_or_prefix_of_prefix hmark (List.prefix_append _ _) with hin | hout
      · exact h hin.isInfix
      · -- the mark begins in the front and goes on behind it, where its first character comes again
        obtain ⟨tail, htail⟩ := hout
        obtain ⟨rfl, rfl⟩ := List.cons.inj htail
        rw [← htail] at hmark
        have hover : tail <+: d :: (front ++ tail) ++ rest :=
          (List.prefix_append_right_inj (d :: front)).mp hmark
        cases tail with
        | nil => exact h (by simp)
        | cons e tail =>
          obtain rfl := (List.cons_prefix_cons.mp hover).1
          simp at hm
    have hcut := ih hfront
    simp only [List.cons_append] at hcut hprefix ⊢
    rw [cutAt, if_neg hprefix, hcut]
    rfl

theorem cutAt_length {mark cs front back : List Char} (h : cutAt mark cs = some (front, back))
    (hmark : mark ≠ []) : back.length < cs.length := by
  induction cs generalizing front with
  | nil => simp [cutAt] at h
  | cons c cs ih =>
    rw [cutAt] at h
    split at h
    · obtain ⟨-, rfl⟩ := Prod.mk.inj (Option.some.inj h)
      have hpos := List.length_pos_iff.mpr hmark
      simp only [List.length_drop, List.length_cons]
      omega
    · obtain ⟨⟨front', back'⟩, hcut, heq⟩ := Option.map_eq_some_iff.mp h
      obtain ⟨-, rfl⟩ := Prod.mk.inj heq
      have hlt := ih hcut
      simp only [List.length_cons]
      omega

/-! ### Cutting a post -/

/-- What opens a delimiter before a block. -/
def openMark : List Char := "<!-- wp:".toList

/-- What opens a delimiter behind a block. -/
def closeMark : List Char := "<!-- /wp:".toList

/-- What ends a delimiter. -/
def endMark : List Char := " -->".toList

/-- A block as it is found in a text. -/
structure Piece where
  name : String
  attrs : Option String
  html : String
  deriving DecidableEq, Repr

/-- The name and the attributes in an opening delimiter. -/
def readHeader (header : List Char) : String × Option String :=
  match cutAt [' '] header with
  | some (name, attrs) => (String.ofList name, some (String.ofList attrs))
  | none => (String.ofList header, none)

/-- The markup between the line breaks at its ends. -/
def readBody? : List Char → Option String
  | '\n' :: body => if body.getLast? = some '\n' then some (String.ofList body.dropLast) else none
  | _ => none

/-- The first block of a text, with what stands before and behind it. The name must stand in both
delimiters, and no other block may open inside. -/
def takePiece? (cs : List Char) : Option (String × Piece × List Char) := do
  let (gap, afterOpen) ← cutAt openMark cs
  let (header, afterHeader) ← cutAt endMark afterOpen
  let (body, afterBody) ← cutAt closeMark afterHeader
  let (closing, rest) ← cutAt endMark afterBody
  let (name, attrs) := readHeader header
  let html ← readBody? body
  if String.ofList closing = name ∧ ¬ openMark <:+: body then
    return (String.ofList gap, ⟨name, attrs, html⟩, rest)
  else none

theorem takePiece?_length {cs rest : List Char} {gap : String} {p : Piece}
    (h : takePiece? cs = some (gap, p, rest)) : rest.length < cs.length := by
  simp only [takePiece?, Option.bind_eq_bind, Option.bind_eq_some_iff] at h
  obtain ⟨⟨_, afterOpen⟩, hopen, ⟨_, afterHeader⟩, hheader, ⟨_, afterBody⟩, hbody,
    ⟨closing, last⟩, hclosing, html, -, h⟩ := h
  have hopenLength : afterOpen.length < cs.length := cutAt_length hopen (by decide)
  have hheaderLength : afterHeader.length < afterOpen.length := cutAt_length hheader (by decide)
  have hbodyLength : afterBody.length < afterHeader.length := cutAt_length hbody (by decide)
  have hclosingLength : last.length < afterBody.length := cutAt_length hclosing (by decide)
  split at h
  · obtain rfl : last = rest := by
      simp only [Option.pure_def, Option.some.injEq, Prod.mk.injEq] at h
      exact h.2.2
    omega
  · simp at h

/-- The blocks of a text, and all that stands before, between and behind them. -/
def cutPost (cs : List Char) : Option (List Piece × List String) :=
  match _h : takePiece? cs with
  | some (gap, p, rest) => (cutPost rest).map fun (pieces, gaps) => (p :: pieces, gap :: gaps)
  | none => if openMark <:+: cs then none else some ([], [String.ofList cs])
termination_by cs.length
decreasing_by exact takePiece?_length _h

theorem cutPost_of_some {cs rest : List Char} {gap : String} {p : Piece}
    (h : takePiece? cs = some (gap, p, rest)) :
    cutPost cs = (cutPost rest).map fun (pieces, gaps) => (p :: pieces, gap :: gaps) := by
  rw [cutPost]
  split
  · next htake =>
    rw [h] at htake
    obtain ⟨rfl, rfl, rfl⟩ : _ ∧ _ ∧ _ := by simpa using htake
    rfl
  · next htake =>
    rw [h] at htake
    simp at htake

theorem cutPost_nil : cutPost [] = some ([], [""]) := by
  rw [cutPost]
  rfl

/-! ### The pieces of a post -/

/-- The names that blocks of a page have. -/
def Emitted (name : String) : Prop := ∃ b : PageBlocks.Block Image.Placed, (blockOf b).name = name

def emittedNames : List String :=
  ["core/heading", "core/image", "core/paragraph", "core/list", "core/table", "core/quote",
    "core/html"]

theorem Emitted.mem {name : String} (h : Emitted name) : name ∈ emittedNames := by
  obtain ⟨b, rfl⟩ := h
  cases b with
  | heading level text anchor => simp [emittedNames, blockOf, headingBlock, Block.simple, Block.name]
  | image i => simp [emittedNames, blockOf, imageBlock, Block.simple, Block.name]
  | captured kind html =>
    cases kind <;> simp [emittedNames, blockOf, capturedBlock, Block.simple, Block.name]
  | embed markup => simp [emittedNames, blockOf, Block.simple, Block.name]
  | plainText value => simp [emittedNames, blockOf, Block.simple, Block.name]

/-- No short name can be taken for an attribute or for the beginning or the end of a delimiter. -/
theorem Emitted.shortName_clear {name : String} (h : Emitted name) {c : Char}
    (hc : c ∈ [' ', '\n', '<', '>']) : c ∉ (shortName name).toList := by
  have hall : (emittedNames.all fun n =>
      [' ', '\n', '<', '>'].all fun d => !(shortName n).toList.contains d) = true := by decide
  have hclear := List.all_eq_true.mp (List.all_eq_true.mp hall name h.mem) c hc
  simpa using hclear

/-- A block as it is to be found in a text. -/
def pieceOf (b : Block) : Piece where
  name := shortName b.name
  attrs := if b.attrs.isEmpty then none else some (attrsText b.attrs)
  html := b.html

/-- The opening delimiter of a block between its marks. -/
def headerOf (b : Block) : List Char :=
  (shortName b.name).toList ++
    if b.attrs.isEmpty then [] else ' ' :: (attrsText b.attrs).toList

/-- The markup of a block between its delimiters. -/
def bodyOf (b : Block) : List Char := '\n' :: b.html.toList ++ ['\n']

theorem blockText_toList (b : Block) :
    (blockText b).toList = openMark ++ (headerOf b ++ endMark ++ (bodyOf b ++ closeMark ++
      ((shortName b.name).toList ++ endMark))) := by
  unfold blockText headerOf bodyOf openMark endMark closeMark
  split <;> simp

/-- The header of a block can neither begin a delimiter nor end its own. -/
theorem brackets_notMem_headerOf {b : Block} (h : Emitted b.name) :
    '<' ∉ headerOf b ∧ '>' ∉ headerOf b := by
  have hless : '<' ∉ (shortName b.name).toList := h.shortName_clear (by decide)
  have hgreater : '>' ∉ (shortName b.name).toList := h.shortName_clear (by decide)
  rw [headerOf, List.mem_append, List.mem_append, not_or, not_or]
  split
  · exact ⟨⟨hless, List.not_mem_nil⟩, hgreater, List.not_mem_nil⟩
  · rw [attrsText_toList, List.mem_cons, List.mem_cons, not_or, not_or]
    obtain ⟨hless', hgreater'⟩ := brackets_notMem_guardChars _
    exact ⟨⟨hless, by decide, hless'⟩, hgreater, by decide, hgreater'⟩

theorem readHeader_headerOf {b : Block} (h : Emitted b.name) :
    readHeader (headerOf b) = (shortName b.name, (pieceOf b).attrs) := by
  have hspace : ¬ [' '] <:+: (shortName b.name).toList := fun hi =>
    h.shortName_clear (by decide) (List.IsInfix.mem List.mem_cons_self hi)
  by_cases hempty : b.attrs.isEmpty = true
  · rw [readHeader, headerOf, if_pos hempty, List.append_nil, cutAt_eq_none hspace, pieceOf,
      if_pos hempty, String.ofList_toList]
  · have hcut := cutAt_append (m := []) List.not_mem_nil hspace (attrsText b.attrs).toList
    rw [List.append_assoc, List.singleton_append] at hcut
    rw [readHeader, headerOf, if_neg hempty, hcut, pieceOf, if_neg hempty]
    simp

theorem readBody?_bodyOf (b : Block) : readBody? (bodyOf b) = some b.html := by
  simp [readBody?, bodyOf]

/-- A mark without line breaks that stands in the body of a block stands in its markup. -/
theorem infix_of_infix_bodyOf {mark : List Char} (hmark : '\n' ∉ mark) {b : Block}
    (h : mark <:+: bodyOf b) : mark <:+: b.html.toList := by
  have hnil : mark = [] → mark <:+: b.html.toList := by
    rintro rfl
    exact List.nil_infix
  rcases List.infix_concat_iff.mp h with hend | hfront
  · rcases List.suffix_concat_iff.mp hend with hempty | ⟨tail, rfl, -⟩
    · exact hnil hempty
    · exact absurd (List.mem_append_right tail List.mem_cons_self) hmark
  · rcases List.infix_cons_iff.mp hfront with hbegin | hhtml
    · rcases List.prefix_cons_iff.mp hbegin with hempty | ⟨tail, rfl, -⟩
      · exact hnil hempty
      · exact absurd List.mem_cons_self hmark
    · exact hhtml

/-- A block whose name and markup a post may have: the markup holds no delimiter. -/
structure Apart (b : Block) : Prop where
  emitted : Emitted b.name
  notOpen : ¬ openMark <:+: b.html.toList
  notClose : ¬ closeMark <:+: b.html.toList

theorem takePiece?_blockText {b : Block} (hb : Apart b) {gap : List Char}
    (hgap : ¬ openMark <:+: gap) (rest : List Char) :
    takePiece? (gap ++ (blockText b).toList ++ rest) =
      some (String.ofList gap, pieceOf b, rest) := by
  have hheader : ¬ endMark <:+: headerOf b := fun h =>
    (brackets_notMem_headerOf hb.emitted).2 (List.IsInfix.mem (by decide) h)
  have hbody : ¬ closeMark <:+: bodyOf b := fun h =>
    hb.notClose (infix_of_infix_bodyOf (by decide) h)
  have hinner : ¬ openMark <:+: bodyOf b := fun h =>
    hb.notOpen (infix_of_infix_bodyOf (by decide) h)
  have hclosing : ¬ endMark <:+: (shortName b.name).toList := fun h =>
    hb.emitted.shortName_clear (by decide) (List.IsInfix.mem (show '>' ∈ endMark by decide) h)
  have hcutOpen (text : List Char) : cutAt openMark (gap ++ openMark ++ text) = some (gap, text) :=
    cutAt_append (by decide) hgap text
  have hcutHeader (text : List Char) :
      cutAt endMark (headerOf b ++ endMark ++ text) = some (headerOf b, text) :=
    cutAt_append (by decide) hheader text
  have hcutBody (text : List Char) :
      cutAt closeMark (bodyOf b ++ closeMark ++ text) = some (bodyOf b, text) :=
    cutAt_append (by decide) hbody text
  have hcutClosing (text : List Char) :
      cutAt endMark ((shortName b.name).toList ++ endMark ++ text) =
        some ((shortName b.name).toList, text) :=
    cutAt_append (by decide) hclosing text
  have htext : gap ++ (blockText b).toList ++ rest = gap ++ openMark ++ (headerOf b ++ endMark ++
      (bodyOf b ++ closeMark ++ ((shortName b.name).toList ++ endMark ++ rest))) := by
    simp [blockText_toList]
  rw [htext]
  simp only [takePiece?, hcutOpen, hcutHeader, hcutBody, hcutClosing, Option.bind_eq_bind,
    Option.bind_some, readHeader_headerOf hb.emitted, readBody?_bodyOf, String.ofList_toList]
  rw [if_pos ⟨trivial, hinner⟩]
  rfl

/-! ### Posts -/

/-- What follows the first block of a post. -/
def furtherText : List Block → List Char
  | [] => []
  | b :: blocks => '\n' :: '\n' :: ((blockText b).toList ++ furtherText blocks)

theorem postText_cons (b : Block) (blocks : List Block) :
    (postText (b :: blocks)).toList = (blockText b).toList ++ furtherText blocks := by
  induction blocks generalizing b with
  | nil => simp [postText, furtherText]
  | cons c blocks ih =>
    have hrest := ih c
    simp only [postText, List.map_cons, String.intercalate_cons_cons] at hrest ⊢
    simp [furtherText, hrest]

theorem cutPost_furtherText {blocks : List Block} (h : ∀ b ∈ blocks, Apart b) :
    cutPost (furtherText blocks) =
      some (blocks.map pieceOf, List.replicate blocks.length "\n\n" ++ [""]) := by
  induction blocks with
  | nil => exact cutPost_nil
  | cons b blocks ih =>
    have hgap : ¬ openMark <:+: ['\n', '\n'] := by decide
    have htake := takePiece?_blockText (h b List.mem_cons_self) hgap (furtherText blocks)
    have hrest := ih fun c hc => h c (List.mem_cons_of_mem b hc)
    have hcut := cutPost_of_some htake
    rw [hrest] at hcut
    exact hcut

/-- What stands before, between and behind so many blocks. -/
def gaps : Nat → List String
  | 0 => [""]
  | n + 1 => "" :: (List.replicate n "\n\n" ++ [""])

/-- The blocks of a post are found again, whatever their attributes hold: the names, the attributes as
they were written and the markup, in order, with only the blank lines left over. -/
theorem cutPost_postText {blocks : List Block} (h : ∀ b ∈ blocks, Apart b) :
    cutPost (postText blocks).toList = some (blocks.map pieceOf, gaps blocks.length) := by
  cases blocks with
  | nil => exact cutPost_nil
  | cons b blocks =>
    have hgap : ¬ openMark <:+: [] := by decide
    have htake := takePiece?_blockText (h b List.mem_cons_self) hgap (furtherText blocks)
    have hrest := cutPost_furtherText fun c hc => h c (List.mem_cons_of_mem b hc)
    have hcut := cutPost_of_some htake
    rw [hrest, List.nil_append] at hcut
    rw [postText_cons, hcut]
    simp [gaps]

/-- A post whose first block has the end of a comment and the start of another in its attributes. -/
def feignedPost : List Block :=
  [.mk "core/heading" [("anchor", .str "a---><!--"), ("level", .nat 2)] "<h2>T</h2>" [],
    .mk "core/html" [] "<hr>" []]

theorem cutPost_feignedPost :
    (∀ b ∈ feignedPost, Apart b) ∧
      cutPost (postText feignedPost).toList = some
        ([⟨"heading",
            some "\x7b\"anchor\":\"a\\u002d\\u002d-\\u003e\\u003c!\\u002d\\u002d\",\"level\":2\x7d",
            "<h2>T</h2>"⟩, ⟨"html", none, "<hr>"⟩], ["", "\n\n", ""]) := by
  have hheading : Emitted "core/heading" := ⟨.heading .top "" none, rfl⟩
  have hhtml : Emitted "core/html" := ⟨.embed "", rfl⟩
  have happart : ∀ b ∈ feignedPost, Apart b := by
    intro b hb
    simp only [feignedPost, List.mem_cons, List.not_mem_nil, or_false] at hb
    rcases hb with rfl | rfl
    · exact ⟨hheading, by decide, by decide⟩
    · exact ⟨hhtml, by decide, by decide⟩
  have hattrs : attrsText [("anchor", .str "a---><!--"), ("level", .nat 2)] =
      "\x7b\"anchor\":\"a\\u002d\\u002d-\\u003e\\u003c!\\u002d\\u002d\",\"level\":2\x7d" := by
    decide +kernel
  have hcut := cutPost_postText happart
  rw [← hattrs]
  exact ⟨happart, hcut⟩

end PageBlocks.Gutenberg
