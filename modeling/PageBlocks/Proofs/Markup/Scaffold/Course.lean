import PageBlocks.Proofs.Markup.Scaffold.Stages

/-!
The course of a page. Framesets stay where they are once they have taken the place of the body. With the
rules for what is inside, no token makes the page fall behind the stage that it has come to.
-/
namespace PageBlocks.Markup

theorem Tag.of_isFramework {tag : Tag} (h : tag.isFramework = true) : tag.isTablePart = false ∧ tag ≠ .template := by
  cases tag <;> first | exact ⟨rfl, Tag.noConfusion⟩ | cases h

namespace Construction

open OpenElement

variable {c c' : Construction} {b : Bool} {s : StartTag} {t : Token}

/-! ### Framesets -/

namespace Frames

theorem grows (h : c.Frames) : c.Grows c.arena := ⟨h.1, .refl _⟩

theorem passes (h : c.Frames) : c.Passes true := (Stage.fitted (.frames h)).passes

theorem grow (h : c.Frames) (hgrows : c'.Grows c.arena)
    (hopens : ∀ e ∈ c'.opens, e.space = .html ∧ e.tag.isFramework = true) (hne : c'.opens ≠ [])
    (hmode : c'.mode.isOfFrames = true) : c'.Frames := by
  obtain ⟨-, ⟨root, frame, hshows⟩, -⟩ := h
  exact ⟨hgrows.1, ⟨root, frame, hshows.grown hgrows.2⟩, hopens, hne, hmode⟩

theorem keep (h : c.Frames) (hgrows : c'.Grows c.arena) (hopens : c'.opens = c.opens) (hrules : SameRules c c') :
    c'.Frames := by
  obtain ⟨-, -, hframework, hne, hmode⟩ := id h
  exact h.grow hgrows (hopens ▸ hframework) (hopens ▸ hne) (hrules.1 ▸ hmode)

theorem withMode (h : c.Frames) {m : Mode} (hm : m.isOfFrames = true) : { c with mode := m }.Frames :=
  ⟨h.1, h.2.1, h.2.2.1, h.2.2.2.1, hm⟩

theorem putChar (h : c.Frames) (ch : Char) : (c.putChar ch).Frames :=
  h.keep (h.grows.putChar ch) (same_putChar c ch).1 (same_putChar c ch).2

theorem putComment (h : c.Frames) (value : String) : (c.putComment value).Frames := by
  obtain ⟨hopens, hrules⟩ := same_putNode { c with arena := (c.arena.add (.comment value)).1 } _ _
  exact h.keep (h.grows.putComment value) hopens hrules

theorem mergeRoot (h : c.Frames) (s : StartTag) : (c.mergeRoot s).Frames :=
  h.keep (h.grows.mergeRoot s) (same_mergeRoot c s).1 (same_mergeRoot c s).2

theorem insertVoid (h : c.Frames) (hfree : s.tag.isScaffold = false) : (c.insertVoid s).Frames :=
  h.keep (h.grows.insertVoid hfree) (same_putElement c ..).1 (same_putElement c ..).2

/-- Only formatting elements are opened again. -/
theorem charInBody (h : c.Frames) (ch : Char) : (c.charInBody ch).Frames := by
  obtain ⟨-, -, hframework, hne, hmode⟩ := id h
  obtain ⟨hgrows, hrules, front, hopens, hfront⟩ := (Reopens.refl h.grows).charInBody ch
  refine h.grow hgrows ?_ ?_ (hrules.1 ▸ hmode)
  · rw [hopens]
    refine List.forall_mem_append.mpr ⟨fun e he => ⟨(hfront e he).1, ?_⟩, hframework⟩
    rw [Tag.isFramework, (hfront e he).2, Bool.or_true]
  · rw [hopens]
    exact List.append_ne_nil_of_right_ne_nil front hne

/-- A frameset is opened inside what is open. -/
theorem insertFrameset (h : c.Frames) (hs : s.tag = .frameset) : (c.insert s).Frames := by
  obtain ⟨hrefers, ⟨root, frame, hshows⟩, hframework, hne, hmode⟩ := h
  obtain ⟨e, rest, hopens⟩ := List.exists_cons_of_ne_nil hne
  have he : e ∈ c.opens := hopens ▸ List.mem_cons_self
  obtain ⟨hspace, htag⟩ := hframework e he
  obtain ⟨hpart, htemplate⟩ := Tag.of_isFramework htag
  have hsort : c.arena.sort e.id = .element .html e.tag := hspace ▸ hrefers.opens e he
  obtain ⟨a, id, heq, hnew⟩ :=
    inserted_openElement hrefers.sound hopens hsort hpart htemplate s.tag (htmlAttrs s)
  rw [insert, heq]
  rw [hs] at hnew ⊢
  exact ⟨hrefers.inserted hnew, ⟨root, frame, hshows.inserted hnew⟩,
    List.forall_mem_cons.mpr ⟨⟨rfl, rfl⟩, hframework⟩, List.cons_ne_nil _ _, hmode⟩

/-- The root element is never closed. -/
theorem pop (h : c.Frames) (hlength : c.opens.length ≠ 1) : c.pop.Frames := by
  obtain ⟨-, -, hframework, hne, hmode⟩ := id h
  refine h.grow (h.grows.ofSubset fun _ he => List.mem_of_mem_tail he)
    (fun e he => hframework e (List.mem_of_mem_tail he)) ?_ hmode
  intro hnil
  have hshort : c.opens.tail.length = 0 := by rw [show c.opens.tail = [] from hnil, List.length_nil]
  rw [List.length_tail] at hshort
  have hpos := List.length_pos_iff.mpr hne
  omega

theorem startNoframes (h : c.Frames) (hs : s.tag = .noframes) : (c.startHeadContent s).1.Passes true := by
  have hgrows : (c.startHeadContent s).1.Grows c.arena := h.grows.startHeadContent (by rw [hs]; rfl)
  cases takesHead_startHeadContent c s with
  | void hopens hrules => exact (h.keep hgrows hopens hrules).passes
  | @raw x hnamed hopens hmode hreturn hmodes hhead =>
    have hback : (c.startHeadContent s).1.opens.tail = c.opens := by rw [hopens, List.tail_cons]
    have hkept : { (c.startHeadContent s).1 with
        opens := c.opens, mode := (c.startHeadContent s).1.returnMode }.Frames := by
      refine h.keep (hgrows.ofSubset fun e he => ?_) rfl ⟨hreturn, hmodes, hhead⟩
      exact List.mem_of_mem_tail (hback.symm ▸ he)
    exact (Stage.raw hmode hopens (named_iff.mp hnamed).1 hgrows.rebase (.frames hkept)).passes
  | template _ htag =>
    rw [hs] at htag
    cases htag

theorem inFrameset (h : c.Frames) (t : Token) : (c.inFrameset t).1.Passes true := by
  unfold Construction.inFrameset
  split
  · exact .ofIte (fun _ => (h.putChar _).passes) fun _ => h.passes
  · exact (h.putComment _).passes
  · split
    · exact (h.mergeRoot _).passes
    · exact (h.insertFrameset ‹_›).passes
    · rename_i hframe
      exact (h.insertVoid (by rw [hframe]; rfl)).passes
    · exact h.startNoframes ‹_›
    · exact h.passes
  · refine .ofIte (fun hend => ?_) fun _ => h.passes
    have hpopped := h.pop (bne_iff_ne.mp (Bool.and_eq_true_iff.mp hend).2)
    dsimp only
    split
    · exact hpopped.passes
    · exact (hpopped.withMode rfl).passes
  · exact h.passes

theorem inAfterFrameset (h : c.Frames) (t : Token) : (c.inAfterFrameset t).1.Passes true := by
  unfold Construction.inAfterFrameset
  split
  · exact .ofIte (fun _ => (h.putChar _).passes) fun _ => h.passes
  · exact (h.putComment _).passes
  · split
    · exact (h.mergeRoot _).passes
    · exact h.startNoframes ‹_›
    · exact h.passes
  · split
    · exact (h.withMode rfl).passes
    · exact h.passes
  · exact h.passes

theorem inAfterAfterFrameset (h : c.Frames) (t : Token) : (c.inAfterAfterFrameset t).1.Passes true := by
  unfold Construction.inAfterAfterFrameset
  split
  · split
    · exact (h.charInBody _).passes
    · exact h.passes
  · exact (h.keep (h.grows.putCommentIn h.1.sound.isPlace_page _) rfl ⟨rfl, rfl, rfl⟩).passes
  · split
    · exact (h.mergeRoot _).passes
    · exact h.startNoframes ‹_›
    · exact h.passes
  · exact h.passes

end Frames

/-! ### All rules -/

theorem Fitted.keep (h : c.Fitted b) (hgrows : c'.Grows c.arena) (hopens : c'.opens = c.opens)
    (hrules : SameRules c c') : c'.Fitted b := by
  cases h with
  | outside h =>
    have hkept := h.keep hgrows hopens hrules
    exact .outside ⟨hkept.1.rebase, hkept.2.1.grown hkept.1.2, hkept.2.2⟩
  | inside h => exact .inside (h.keep hgrows hopens hrules).rebase
  | frames h => exact .frames (h.keep hgrows hopens hrules)

theorem Fitted.applyMode (h : c.Fitted b) (ht : t.IsReadable) : (c.applyMode t).1.Passes b := by
  cases h with
  | inside h => exact (h.applyMode ht).passes
  | outside h =>
    obtain ⟨-, houter, -, hmode, -⟩ := id h
    unfold Construction.applyMode
    cases houter with
    | inHead =>
      have hown : c.mode = .inHead := hmode
      rw [hown]
      exact h.inHead hown ht
    | afterHead =>
      rw [show c.mode = .afterHead from hmode]
      exact h.inAfterHead ht
  | frames h =>
    obtain ⟨-, -, -, -, hmode⟩ := id h
    unfold Construction.applyMode
    cases hown : c.mode <;> rw [hown] at hmode <;> try cases hmode
    · exact h.inFrameset t
    · exact h.inAfterFrameset t
    · exact h.inAfterAfterFrameset t

theorem returnMode_putChar (c : Construction) (ch : Char) : (c.putChar ch).returnMode = c.returnMode := by
  unfold Construction.putChar
  split
  · rfl
  · split <;> rfl

/-- Text that is read in a mode of its own goes into its element, whose end leads back. -/
theorem passes_inText {x : OpenElement} {rest : List OpenElement} (hmode : c.mode = .text)
    (hopens : c.opens = x :: rest) (hspace : x.space = .html) (hgrows : c.Grows c.arena)
    (h : { c with opens := rest, mode := c.returnMode }.Fitted b) (t : Token) : (c.inText t).1.Passes b := by
  have hback : { c.pop with mode := c.returnMode }.Fitted b := by
    rw [Construction.pop, hopens, List.tail_cons]
    exact h
  unfold Construction.inText
  split
  · rename_i ch
    have hput := hgrows.putChar ch
    obtain ⟨hsame, hrules⟩ := same_putChar c ch
    have hreturn := returnMode_putChar c ch
    have hopensPut := hsame.trans hopens
    refine (Stage.raw (hrules.1.trans hmode) hopensPut hspace hput.rebase ?_).passes
    refine h.keep (hput.ofSubset fun e he => ?_) rfl ⟨hreturn, hrules.2⟩
    rw [hopensPut]
    exact List.mem_cons_of_mem x he
  · exact (Stage.fitted hback).passes
  · exact (Stage.fitted hback).passes
  · exact (Stage.raw hmode hopens hspace hgrows h).passes

theorem Stage.applyMode (h : c.Stage b) (ht : t.IsReadable) : (c.applyMode t).1.Passes b := by
  cases h with
  | unrooted h =>
    obtain ⟨-, -, -, -, hmode⟩ := id h
    unfold Construction.applyMode
    rcases hmode with hmode | hmode
    · rw [hmode]
      exact h.inInitial t
    · rw [hmode]
      exact h.inBeforeHtml t
  | rooted h =>
    obtain ⟨-, -, -, hmode⟩ := id h
    unfold Construction.applyMode
    rw [hmode]
    exact h.inBeforeHead t
  | fitted h => exact h.applyMode ht
  | raw hmode hopens hspace hgrows h =>
    unfold Construction.applyMode
    rw [hmode]
    exact passes_inText hmode hopens hspace hgrows h t
  | kept hmode hcurrent h =>
    unfold Construction.applyMode
    rw [hmode]
    exact (h.inTableText hmode hcurrent t).passes

/-! ### A token -/

/-- Elements of other vocabularies are current only inside the ground. -/
theorem Stage.exists_inside (h : c.Stage b) {e : OpenElement} {rest : List OpenElement} (hopens : c.opens = e :: rest)
    (he : e.space ≠ .html) : ∃ ground m, c.Inside c.arena ground m ∧ standsOnBody ground = b := by
  have hmem : e ∈ c.opens := hopens ▸ List.mem_cons_self
  cases h with
  | unrooted h =>
    obtain ⟨-, -, hnil, -⟩ := h
    rw [hnil] at hopens
    cases hopens
  | rooted h =>
    obtain ⟨-, ⟨r, hroot, hr, -⟩, -⟩ := h
    rw [hroot] at hmem
    obtain rfl := List.mem_singleton.mp hmem
    exact absurd (named_iff.mp hr).1 he
  | fitted h =>
    cases h with
    | outside h =>
      obtain ⟨-, houter, hsame, -⟩ := h
      rw [hsame] at hmem
      exact absurd (has_iff.mp (houter.has_isFixture e hmem)).1 he
    | inside h => exact ⟨_, _, h, rfl⟩
    | frames h => exact absurd (h.2.2.1 e hmem).1 he
  | raw _ hraw hspace =>
    rw [hraw] at hopens
    obtain ⟨rfl, -⟩ := List.cons.inj hopens
    exact absurd hspace he
  | kept _ hcurrent =>
    rw [currentHas, hopens] at hcurrent
    exact absurd (has_iff.mp hcurrent).1 he

theorem exists_of_isForeign (h : c.isForeign t = true) : ∃ e rest, c.opens = e :: rest ∧ e.space ≠ .html := by
  unfold Construction.isForeign at h
  split at h
  · cases h
  · rename_i e rest hopens
    refine ⟨e, rest, hopens, fun hspace => ?_⟩
    rw [hspace] at h
    cases h

/-- No token makes the page fall behind. -/
theorem Stage.step (h : c.Stage b) (ht : t.IsReadable) :
    (if c.isForeign t then c.inForeign t else c.applyMode t).1.Passes b := by
  refine .ofIte (fun hforeign => ?_) fun _ => h.applyMode ht
  obtain ⟨e, rest, hopens, he⟩ := exists_of_isForeign hforeign
  obtain ⟨ground, m, hinside, rfl⟩ := h.exists_inside hopens he
  exact (hinside.inForeign hopens he ht).passes

theorem Passes.trans (h : c.Passes b) (hnext : ∀ b', c.Stage b' → c'.Passes b') : c'.Passes b := by
  obtain ⟨b', hstage, hb⟩ := h
  obtain ⟨b'', hstage', hb'⟩ := hnext b' hstage
  exact ⟨b'', hstage', fun htrue => hb' (hb htrue)⟩

/-- However often a token is considered. -/
theorem Stage.consider (h : c.Stage b) (n : Nat) (ht : t.IsReadable) : (consider n c t).1.Passes b := by
  induction n generalizing c b with
  | zero => exact h.passes
  | succ n ih =>
    have hstep := h.step ht
    rw [Construction.consider]
    split
    rename_i c' next hresult
    rw [hresult] at hstep
    split
    · exact hstep
    · exact hstep.trans fun _ hstage => ih hstage
    · exact hstep
    · exact hstep

/-- Whether a line feed is skipped makes no difference. -/
theorem Stage.withSkipping (h : c.Stage b) (skips : Bool) : { c with skipsLineFeed := skips }.Stage b := by
  have hfitted : ∀ {d : Construction} {own : Bool}, d.Fitted own → { d with skipsLineFeed := skips }.Fitted own := by
    intro d own h
    cases h with
    | outside h => exact .outside h
    | inside h => exact .inside (m := _) h
    | frames h => exact .frames h
  cases h with
  | unrooted h => exact .unrooted h
  | rooted h => exact .rooted h
  | fitted h => exact .fitted (hfitted h)
  | raw hmode hopens hspace hgrows h => exact .raw hmode hopens hspace hgrows (hfitted h)
  | kept hmode hcurrent h => exact .kept hmode hcurrent h

theorem Stage.acceptDoctype (h : c.Stage b) (d : Doctype) : (c.acceptDoctype d).Passes b := by
  by_cases hmode : c.mode = .initial
  · cases h with
    | unrooted h => exact (Stage.unrooted (h.acceptDoctype d)).passes
    | rooted h => exact absurd (hmode.symm.trans h.2.2.2) Mode.noConfusion
    | raw hown => exact absurd (hmode.symm.trans hown) Mode.noConfusion
    | kept hown => exact absurd (hmode.symm.trans hown) Mode.noConfusion
    | fitted h =>
      cases h with
      | outside h =>
        obtain ⟨-, houter, -, hown, -⟩ := h
        cases houter <;> exact absurd (hmode.symm.trans hown) Mode.noConfusion
      | inside h =>
        obtain ⟨tag, htag⟩ := h.seeks_ne
        rw [← h.2.1, hmode] at htag
        cases htag
      | frames h =>
        have hframes := h.2.2.2.2
        rw [hmode] at hframes
        cases hframes
  · rw [Construction.acceptDoctype, if_neg hmode]
    exact h.passes

theorem Stage.accept (h : c.Stage b) (ht : t.IsReadable) : (c.accept t).1.Passes b := by
  have hfed := h.withSkipping false
  unfold Construction.accept
  dsimp only
  split
  · exact hfed.passes
  · exact hfed.acceptDoctype _
  · split
    · exact hfed.passes
    · exact hfed.consider _ ht
  · exact hfed.consider _ ht

end Construction

end PageBlocks.Markup
