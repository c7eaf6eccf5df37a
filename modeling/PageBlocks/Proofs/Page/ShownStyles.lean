import PageBlocks.Page.Styles
import PageBlocks.Proofs.Markup.ReadableTree
import PageBlocks.Proofs.Page.Split

/-!
Style sheets in the markup of blocks. When the style sheets of a page have been taken out of its tree, no
element is left that would show one; but a text that an element such as `noscript` has as raw text is
written as it stands, and to a reader that takes it for markup it shows the start tags in it. If each of
these texts leads such a reader back to running text, the markup of the blocks shows a style sheet exactly
where one of them does.
-/
namespace PageBlocks

open Markup Lexer

/-- The markup of the page that a block has. -/
def Block.markups {ι : Type} : Block ι → List String
  | .captured _ html => [html.inner, html.outer]
  | .embed markup => [markup]
  | _ => []

/-- The markup of some block shows a start tag, where it is read as markup. -/
def ShowsTag {ι : Type} (tag : Tag) (blocks : List (Block ι)) : Prop :=
  ∃ b ∈ blocks, ∃ m ∈ b.markups, tag ∈ shownIn m.toList

mutual

/-- The elements of a tree whose markup goes into blocks. -/
def Markup.Node.embedded : Node → List Node
  | .element e children =>
    match Role.ofTag (Text.lower e.tag) with
    | .capture .paragraph =>
      if Text.isAllBlank (Node.textOf children) then embeddedAll children else [.element e children]
    | .capture _ | .embed => [.element e children]
    | .group | .unrecognized => embeddedAll children
    | .heading _ | .image => []
  | _ => []

def Markup.Node.embeddedAll : List Node → List Node
  | [] => []
  | n :: ns => n.embedded ++ embeddedAll ns

end

/-- The raw texts in the markup of the blocks of trees. -/
def Markup.Node.embeddedTexts (ns : List Node) : List String :=
  Node.rawTextsAll false (Node.embeddedAll ns)

namespace Page

/-! ### Without style sheets -/

theorem lacks_style_of_isRead {e : Element} (h : e.IsRead) (hstyle : isStyle e = false) :
    e.Differs .style := by
  refine ⟨h.readable, fun htag => ?_⟩
  have hlower : Text.lower e.tag = "style" := by
    rw [← Tag.toString_ofString (Text.lower e.tag), htag]
    rfl
  rw [isStyle, h.style hlower] at hstyle
  cases hstyle

mutual

theorem lacks_withoutStyles? {n : Node} (h : n.Sound Element.IsRead) :
    Node.Lacks .style (withoutStyles? n).toList := by
  match n with
  | .text _ => exact ⟨trivial, trivial⟩
  | .comment _ => exact ⟨h, trivial⟩
  | .doctype _ => exact ⟨h, trivial⟩
  | .element e children =>
    rw [withoutStyles?]
    split
    · trivial
    · rename_i hstyle
      exact ⟨⟨lacks_style_of_isRead h.1 (by simpa using hstyle), lacks_withoutStylesIn h.2⟩, trivial⟩

theorem lacks_withoutStylesIn {ns : List Node} (h : Node.SoundAll Element.IsRead ns) :
    Node.Lacks .style (withoutStylesIn ns) := by
  match ns with
  | [] => trivial
  | n :: ns =>
    rw [withoutStylesIn, Node.Lacks, Node.soundAll_append]
    exact ⟨lacks_withoutStyles? h.1, lacks_withoutStylesIn h.2⟩

end

end Page

/-! ### The markup of blocks -/

/-- The names of the elements that are captured. -/
def isCaptured (name : String) : Bool :=
  match Role.ofTag (Text.lower name) with
  | .capture _ => true
  | _ => false

/-- What is captured can hold something, and it has no raw text. -/
theorem isVoid_of_capture {e : Element} {kind : CaptureKind}
    (h : Role.ofTag (Text.lower e.tag) = .capture kind) : e.isVoid = false ∧ e.hasRawText = false := by
  have hcaptured : isCaptured e.tag = true := by rw [isCaptured, h]
  have hvoid : (voidTags.all fun name => !isCaptured name) = true := by decide +kernel
  have hraw : (rawTextTags.all fun name => !isCaptured name) = true := by decide +kernel
  constructor
  · rw [Element.isVoid, Bool.and_eq_false_iff]
    refine .inr (Bool.eq_false_iff.mpr fun hmem => ?_)
    have hnot := List.all_eq_true.mp hvoid _ (List.contains_iff_mem.mp hmem)
    rw [hcaptured] at hnot
    cases hnot
  · rw [Element.hasRawText, Bool.and_eq_false_iff]
    refine .inr (Bool.eq_false_iff.mpr fun hmem => ?_)
    have hnot := List.all_eq_true.mp hraw _ (List.contains_iff_mem.mp hmem)
    rw [hcaptured] at hnot
    cases hnot

variable {tag : Tag}

theorem showsTag_append {ι : Type} (bs cs : List (Block ι)) :
    ShowsTag tag (bs ++ cs) ↔ ShowsTag tag bs ∨ ShowsTag tag cs := by
  simp only [ShowsTag, List.mem_append, or_and_right, exists_or]

theorem not_showsTag {ι : Type} {blocks : List (Block ι)} (h : ∀ b ∈ blocks, b.isBare = true) :
    ¬ ShowsTag tag blocks := by
  rintro ⟨b, hb, m, hm, -⟩
  have hbare := h b hb
  cases b with
  | captured _ _ | embed _ => cases hbare
  | _ => cases hm

theorem isReadable_stamp {e : Element} (h : e.IsReadable) (stamp : String) : (e.stamp stamp).IsReadable :=
  ⟨h.name, Attributes.isReadable_insert h.attrs (by decide +kernel) _⟩

theorem mem_shownIn_toMarkup_iff {n : Node} (h : Node.Lacks tag [n])
    (hwhole : ∀ t ∈ Node.rawTextsAll false [n], IsWhole t.toList) :
    tag ∈ shownIn n.toMarkup.toList ↔ ∃ t ∈ Node.rawTextsAll false [n], tag ∈ shownIn t.toList :=
  h.mem_shownIn_iff hwhole

/-- The markup of an element that is captured shows what the raw texts in it show. -/
theorem showsTag_captureBlock (stamps : Stamps) {kind : CaptureKind} {e : Element} {children : List Node}
    (hkind : Role.ofTag (Text.lower e.tag) = .capture kind) (h : Node.Lacks tag [.element e children])
    (hwhole : ∀ t ∈ Node.rawTextsAll false [.element e children], IsWhole t.toList) :
    ShowsTag tag [captureBlock stamps kind e children] ↔
      ∃ t ∈ Node.rawTextsAll false [.element e children], tag ∈ shownIn t.toList := by
  obtain ⟨hvoid, hraw⟩ := isVoid_of_capture hkind
  have htexts : ∀ e' : Element, e'.isVoid = e.isVoid → e'.hasRawText = e.hasRawText →
      Node.rawTextsAll false [.element e' children] = Node.rawTextsAll false children := by
    intro e' hvoid' hraw'
    rw [Node.rawTextsAll, Node.rawTexts, hvoid', hvoid, hraw', hraw, Node.rawTextsAll, List.append_nil,
      if_neg Bool.false_ne_true]
  rw [htexts e rfl rfl] at hwhole ⊢
  have hstamped : Node.Lacks tag [.element (e.stamp (stamps.of kind)) children] :=
    ⟨⟨⟨isReadable_stamp h.1.1.1 _, h.1.1.2⟩, h.1.2⟩, trivial⟩
  have hinner := Node.Lacks.mem_shownIn_iff h.1.2 hwhole
  have hsame := htexts (e.stamp (stamps.of kind)) rfl rfl
  have houter := mem_shownIn_toMarkup_iff hstamped (by rwa [hsame])
  rw [hsame] at houter
  rw [← Node.join_toMarkup] at hinner
  simp only [ShowsTag, exists_eq_left, captureBlock, Block.markups, List.mem_cons, List.not_mem_nil,
    or_false, exists_eq_or_imp, hinner, houter, or_self]

mutual

/-- What a node yields shows a tag that no element has exactly if a raw text written with it does. -/
theorem showsTag_yields (stamps : Stamps) (container : Bool) {n : Node} (h : Node.Lacks tag [n])
    (hwhole : ∀ t ∈ Node.rawTextsAll false n.embedded, IsWhole t.toList) :
    ShowsTag tag (n.yields stamps container) ↔
      ∃ t ∈ Node.rawTextsAll false n.embedded, tag ∈ shownIn t.toList := by
  have hnone : ¬ ∃ t ∈ Node.rawTextsAll false [], tag ∈ shownIn t.toList := by simp [Node.rawTextsAll]
  match n with
  | .text value => exact iff_of_false (not_showsTag fun b hb => isBare_of_text hb) hnone
  | .comment _ | .doctype _ => exact iff_of_false (not_showsTag (by simp [Node.yields])) hnone
  | .element e children =>
    rw [Node.embedded] at hwhole ⊢
    cases hrole : Role.ofTag (Text.lower e.tag) <;> simp only [hrole] at hwhole ⊢
    case heading level =>
      exact iff_of_false (not_showsTag fun b hb => isBare_of_heading hrole hb) hnone
    case image => exact iff_of_false (not_showsTag fun b hb => isBare_of_image hrole hb) hnone
    all_goals rw [Node.yields, hrole]
    case capture kind =>
      cases kind with
      | paragraph =>
        dsimp only at hwhole ⊢
        split at hwhole
        · rename_i hblank
          rw [if_pos hblank, if_pos hblank]
          exact showsTag_yieldsAll stamps false h.1.2 hwhole
        · rename_i hblank
          rw [if_neg hblank, if_neg hblank]
          exact showsTag_captureBlock stamps hrole h hwhole
      | list ordered => exact showsTag_captureBlock stamps hrole h hwhole
      | table => exact showsTag_captureBlock stamps hrole h hwhole
      | blockquote => exact showsTag_captureBlock stamps hrole h hwhole
    case embed =>
      simp only [ShowsTag, List.mem_singleton, exists_eq_left, Block.markups]
      exact mem_shownIn_toMarkup_iff h hwhole
    case group => exact showsTag_yieldsAll stamps true h.1.2 hwhole
    case unrecognized => exact showsTag_yieldsAll stamps false h.1.2 hwhole

theorem showsTag_yieldsAll (stamps : Stamps) (container : Bool) {ns : List Node} (h : Node.Lacks tag ns)
    (hwhole : ∀ t ∈ Node.embeddedTexts ns, IsWhole t.toList) :
    ShowsTag tag (Node.yieldsAll stamps container ns) ↔
      ∃ t ∈ Node.embeddedTexts ns, tag ∈ shownIn t.toList := by
  match ns with
  | [] => simp [Node.yieldsAll, ShowsTag, Node.embeddedTexts, Node.embeddedAll, Node.rawTextsAll]
  | n :: ns =>
    have htexts :
        Node.embeddedTexts (n :: ns) = Node.rawTextsAll false n.embedded ++ Node.embeddedTexts ns := by
      rw [Node.embeddedTexts, Node.embeddedAll, Node.rawTextsAll_append]
      rfl
    rw [htexts, List.forall_mem_append] at hwhole
    rw [Node.yieldsAll, showsTag_append, htexts, showsTag_yields stamps container ⟨h.1, trivial⟩ hwhole.1,
      showsTag_yieldsAll stamps container h.2 hwhole.2]
    simp only [List.mem_append, or_and_right, exists_or]

end

/-! ### The parts of a page -/

namespace Page

/-- The nodes whose blocks are those of a page: what is in the header, in the body and in the footer. -/
def Parts.tops (p : Parts) : List Node :=
  p.header.toList.flatMap Node.children ++ p.body.bodyChildren ++ p.footer.toList.flatMap Node.children

theorem Parts.blocks_eq (stamps : Stamps) (p : Parts) :
    p.blocks stamps = Node.yieldsAll stamps true p.tops := by
  have hopen : ∀ n : Option Node, (n.map fun n => blocksIn stamps n.children).getD [] =
      (n.toList.flatMap Node.children).flatMap (Node.yields stamps true) := by
    intro n
    cases n with
    | none => rfl
    | some n => simp [blocksIn_eq, yieldsAll_eq_flatMap]
  rw [Parts.blocks, Parts.headerBlocks, Parts.footerBlocks, hopen, hopen, Parts.bodyBlocks,
    Document.blocks, blocksIn_eq, Parts.tops, yieldsAll_eq_flatMap, yieldsAll_eq_flatMap,
    List.flatMap_append, List.flatMap_append]

/-- What stands in the parts of a page stands in the page. -/
theorem lacks_tops {d : Document} (h : Node.Lacks tag d.children) (wanted : Bool) :
    Node.Lacks tag (Parts.of wanted d).tops := by
  have hbody := Node.SoundAll.bodyChildren h
  cases wanted with
  | false => simpa [Parts.of, Parts.whole, Parts.tops] using hbody
  | true =>
    have hmembers : ∀ n ∈ (Parts.split d).landmarks ++ (Parts.split d).body.bodyChildren,
        n.Sound (Element.Differs tag) :=
      fun n hn => Node.soundAll_iff.mp hbody n ((split_perm d).mem_iff.mpr hn)
    rw [Parts.landmarks, List.forall_mem_append, List.forall_mem_append] at hmembers
    obtain ⟨⟨hheader, hfooter⟩, hrest⟩ := hmembers
    have hopened : ∀ n : Option Node, (∀ m ∈ n.toList, m.Sound (Element.Differs tag)) →
        Node.Lacks tag (n.toList.flatMap Node.children) := by
      intro n hn
      cases n with
      | none => trivial
      | some n => simpa using (hn n (by simp)).children
    rw [Parts.of, if_pos rfl, Parts.tops, Node.Lacks, Node.soundAll_append, Node.soundAll_append]
    exact ⟨⟨hopened _ hheader, Node.soundAll_iff.mpr hrest⟩, hopened _ hfooter⟩

/-- The markup of the blocks of a page without its style sheets shows a style sheet exactly if some raw
text in it does, provided that the raw texts are whole. -/
theorem showsTag_parts_iff {d : Document} (h : Node.SoundAll Element.IsRead d.children) (wanted : Bool)
    (stamps : Stamps) :
    let parts := Parts.of wanted (withoutStyles d)
    (∀ t ∈ Node.embeddedTexts parts.tops, IsWhole t.toList) →
      (ShowsTag .style (parts.blocks stamps) ↔
        ∃ t ∈ Node.embeddedTexts parts.tops, Tag.style ∈ shownIn t.toList) := by
  intro parts hwhole
  have hlacks : Node.Lacks .style (withoutStyles d).children := lacks_withoutStylesIn h
  rw [Parts.blocks_eq]
  exact showsTag_yieldsAll stamps true (lacks_tops hlacks wanted) hwhole

end Page

end PageBlocks
