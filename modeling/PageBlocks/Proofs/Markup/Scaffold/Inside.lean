import Mathlib.Data.List.TakeWhile
import PageBlocks.Proofs.Markup.Scaffold.Stack

/-!
Constructions that stand on their ground. Loose elements can be opened and closed at will, formatting
elements can be opened again or split, and the rules in force still fit the stack.
-/
namespace PageBlocks.Markup

/-! ### Names -/

namespace Tag

/-- Neither is the page built around elements of this name, nor does the shape of the stack depend on them. -/
structure IsInner (tag : Tag) : Prop where
  fixture : tag.isFixture = false
  scaffold : tag.isScaffold = false

theorem IsNamed.isScaffold {tag : Tag} (h : tag.IsNamed) (houter : tag.isOuter = false) :
    tag.isScaffold = false := by
  rw [Bool.eq_false_iff]
  intro hscaffold
  have hmem : tag.toString = "html" ∨ tag.toString = "body" ∨ tag.toString = "frameset" := by
    simpa [Tag.isScaffold] using hscaffold
  rw [← h.known] at houter
  have hknown : (ofString "html").isOuter = true ∧ (ofString "body").isOuter = true ∧
      (ofString "frameset").isOuter = true := by decide +kernel
  rcases hmem with heq | heq | heq
  · rw [heq, hknown.1] at houter
    cases houter
  · rw [heq, hknown.2.1] at houter
    cases houter
  · rw [heq, hknown.2.2] at houter
    cases houter

theorem IsNamed.isInner {tag : Tag} (h : tag.IsNamed) (hfixture : tag.isFixture = false) : tag.IsInner :=
  ⟨hfixture, h.isScaffold (isFixture_eq_false_iff.mp hfixture).1⟩

theorem IsNamed.isInner_of_mem {tag : Tag} (h : tag.IsNamed) (tags : List Tag)
    (htags : tags.all (fun t => !t.isFixture) = true) (hmem : tag ∈ tags) : tag.IsInner := by
  have hnot := List.all_eq_true.mp htags tag hmem
  exact h.isInner (by simpa using hnot)

theorem isInner_of_isReopened {tag : Tag} (h : tag.isReopened = true) : tag.IsInner := by
  refine ⟨?_, isScaffold_of_isReopened h⟩
  cases tag <;> first | rfl | cases h

theorem isFixture_of_closesImplicitly {tag : Tag} (h : tag.closesImplicitly = true) :
    tag.isFixture = false := by
  cases tag <;> first | rfl | cases h

theorem isSpecial_of_isFixture {tag : Tag} (h : tag.isFixture = true) : tag.isSpecial = true := by
  cases tag <;> first | rfl | cases h

/-- Names with a rule of their own are not taken for those of the scaffold. -/
theorem isScaffold_of_isSpecial {tag : Tag} (h : tag.isSpecial = true) (hfixture : tag.isFixture = false) :
    tag.isScaffold = false := by
  cases tag <;> first | rfl | exact absurd hfixture (by decide) | cases h

end Tag

namespace OpenElement

variable {e : OpenElement}

theorem isLoose_of_named {tag : Tag} (h : e.named tag = true) (htag : tag.isFixture = false) : e.IsLoose := by
  rw [IsLoose, has_of_named h]
  exact htag

theorem isLoose_of_isSpecial (h : e.isSpecial = false) : e.IsLoose :=
  has_eq_false_mono (fun _ => Tag.isSpecial_of_isFixture) h

theorem isLoose_of_has {p : Tag → Bool} (hp : ∀ tag, p tag = true → tag.isFixture = false)
    (h : e.has p = true) : e.IsLoose :=
  isLoose_of_tag (hp _ (has_iff.mp h).2)

theorem IsLoose.not_ground (h : e.IsLoose) : e.has Tag.isGround = false :=
  h.has_eq_false fun _ => Tag.isFixture_of_isGround

end OpenElement

/-- What rules of a mode go with does not depend on the element. -/
structure Mode.Ignores (m : Mode) (e : OpenElement) : Prop where
  seeks : e.has m.seeks = false
  stops : e.has m.stops = false

theorem OpenElement.IsLoose.ignored {e : OpenElement} (h : e.IsLoose) {m : Mode} (hm : m ≠ .inSelectInTable) :
    m.Ignores e :=
  ⟨h.has_eq_false fun _ => Mode.isFixture_of_seeks hm, h.has_eq_false fun _ => Mode.isFixture_of_stops⟩

/-- Only selections may matter to the rules without mattering to the shape of the stack. -/
theorem OpenElement.IsLoose.ignores {e : OpenElement} (h : e.IsLoose) (hselect : e.named .select = false)
    (m : Mode) : m.Ignores e := by
  by_cases hm : m = .inSelectInTable
  · subst hm
    exact ⟨hselect, h.has_eq_false fun _ => Mode.isFixture_of_stops⟩
  · exact h.ignored hm

namespace Construction

open OpenElement

variable {old : Arena} {ground : List OpenElement} {m : Mode} {c c' : Construction}

/-! ### Growing on the ground -/

theorem Grows.isLoose_of_id (h : c.Grows old) {id : CellId} {tag : Tag}
    (hid : c.arena.sort id = .element .html tag) (htag : tag.isFixture = false) :
    ∀ e ∈ c.opens, e.id = id → e.IsLoose := by
  rintro e he rfl
  have hsort := h.1.opens e he
  rw [hid] at hsort
  injection hsort with _ heq
  exact isLoose_of_tag (heq ▸ htag)

theorem Grows.popThrough (h : c.Grows old) (p : Tag → Bool) (target : OpenElement → Bool) :
    ((c.popImplied p).popThrough target).Grows old :=
  h.ofSubset fun _ he =>
    (List.dropWhile_sublist _).subset ((List.dropWhile_sublist _).subset (List.mem_of_mem_tail he))

/-- What the page is built around stands in the page itself or in its root element. -/
theorem IsGround.exists_parent {a : Arena} (hground : IsGround a ground) {id : CellId}
    (hid : a.scaffolds id = true) :
    ∃ parent, a.parent? id = some parent ∧
      (parent = Arena.page ∨ a.sort parent = .element .html .html) := by
  cases hground with
  | body _ _ h =>
    rcases h.only id hid with rfl | rfl
    · exact ⟨_, h.parent_root, .inl rfl⟩
    · exact ⟨_, h.parent_body, .inr h.sort_root⟩
  | template _ houter =>
    cases houter with
    | inHead _ _ h =>
      obtain rfl := h.only id hid
      exact ⟨_, h.parent, .inl rfl⟩
    | afterHead _ h =>
      obtain rfl := h.only id hid
      exact ⟨_, h.parent, .inl rfl⟩

/-- An element that is ignored makes no difference wherever it is. -/
theorem Fits.remove {front rest : List OpenElement} {e : OpenElement} (h : Fits m (front ++ e :: rest))
    (he : m.Ignores e) : Fits m (front ++ rest) := by
  induction front with
  | nil => exact (fits_cons ⟨he.seeks, he.stops⟩).mp h
  | cons next front ih =>
    rw [Fits, List.cons_append, reaches] at h ⊢
    by_cases hseeks : next.has m.seeks = true
    · rw [if_pos hseeks]
    · rw [if_neg hseeks] at h ⊢
      by_cases hstops : next.has m.stops = true
      · rw [if_pos hstops] at h
        cases h
      · rw [if_neg hstops] at h ⊢
        exact ih h

/-- The arena has grown further, and the stack and the rules are the same. -/
theorem Inside.keep (h : c.Inside old ground m) (hgrows : c'.Grows old) (hopens : c'.opens = c.opens)
    (hrules : SameRules c c') : c'.Inside old ground m := by
  obtain ⟨⟨-, hstack⟩, hmode, hfits⟩ := h
  refine ⟨⟨hgrows, ?_⟩, hrules.1.trans hmode, hopens.symm ▸ hfits⟩
  rw [hopens, hrules.2.1, hrules.2.2]
  exact hstack

/-- What is loose comes and goes while the rules go with what stands below. Parts of tables may go too. -/
theorem Inside.regrow (h : c.Inside old ground m) {front front' rest : List OpenElement}
    (hopens : c.opens = front ++ rest) (hfront : ∀ e ∈ front, e.has Tag.isGround = false ∧ m.Ignores e)
    (hgrows : c'.Grows old) (hopens' : c'.opens = front' ++ rest)
    (hfront' : ∀ e ∈ front', e.IsLoose ∧ m.Ignores e) (hrules : SameRules c c') :
    c'.Inside old ground m := by
  obtain ⟨⟨-, hstack⟩, hmode, hfits⟩ := h
  rw [hopens] at hstack hfits
  refine ⟨⟨hgrows, ?_⟩, hrules.1.trans hmode, ?_⟩
  · rw [hopens', hrules.2.1, hrules.2.2]
    exact (hstack.drop fun e he => (hfront e he).1).append_loose fun e he => (hfront' e he).1
  · rw [hopens', fits_append fun e he => ⟨(hfront' e he).2.seeks, (hfront' e he).2.stops⟩]
    exact (fits_append fun e he => ⟨(hfront e he).2.seeks, (hfront e he).2.stops⟩).mp hfits

theorem Inside.grow (h : c.Inside old ground m) {front : List OpenElement} (hgrows : c'.Grows old)
    (hopens : c'.opens = front ++ c.opens) (hfront : ∀ e ∈ front, e.IsLoose ∧ m.Ignores e)
    (hrules : SameRules c c') : c'.Inside old ground m :=
  h.regrow (List.nil_append c.opens).symm (List.forall_mem_nil _) hgrows hopens hfront hrules

theorem Inside.shrink (h : c.Inside old ground m) {front rest : List OpenElement} (hopens : c.opens = front ++ rest)
    (hfront : ∀ e ∈ front, e.has Tag.isGround = false ∧ m.Ignores e) (hgrows : c'.Grows old)
    (hopens' : c'.opens = rest) (hrules : SameRules c c') : c'.Inside old ground m :=
  h.regrow hopens hfront hgrows (hopens'.trans (List.nil_append rest).symm) (List.forall_mem_nil _) hrules

/-! ### Rules that are the same -/

theorem same_putElement (c : Construction) (space : Space) (tag : Tag) (attrs : Attributes) :
    (c.putElement space tag attrs).1.opens = c.opens ∧ SameRules c (c.putElement space tag attrs).1 :=
  same_putNode { c with arena := (c.arena.addElement space tag attrs).1 } _ _

theorem same_openElement (c : Construction) (space : Space) (tag : Tag) (attrs : Attributes) :
    (c.openElement space tag attrs).1.opens = ⟨(c.openElement space tag attrs).2, space, tag⟩ :: c.opens ∧
      SameRules c (c.openElement space tag attrs).1 := by
  obtain ⟨hopens, hrules⟩ := same_putElement c space tag attrs
  exact ⟨congrArg _ hopens, hrules⟩

theorem exists_insert (c : Construction) (t : StartTag) :
    ∃ e, e.named t.tag = true ∧ (c.insert t).opens = e :: c.opens ∧ SameRules c (c.insert t) :=
  ⟨_, named_iff.mpr ⟨rfl, rfl⟩, same_openElement c .html t.tag (htmlAttrs t)⟩

theorem exists_insertBare (c : Construction) (tag : Tag) :
    ∃ e, e.named tag = true ∧ (c.insertBare tag).opens = e :: c.opens ∧ SameRules c (c.insertBare tag) :=
  ⟨_, named_iff.mpr ⟨rfl, rfl⟩, same_openElement c .html tag []⟩

theorem same_mergeRoot (c : Construction) (t : StartTag) :
    (c.mergeRoot t).opens = c.opens ∧ SameRules c (c.mergeRoot t) := by
  unfold mergeRoot
  split
  · exact ⟨rfl, rfl, rfl, rfl⟩
  · split <;> exact ⟨rfl, rfl, rfl, rfl⟩

/-- Elements may be forgotten or marked as long as the arena and the stack are kept. -/
theorem same_forgetFourth (c : Construction) (tag : Tag) (attrs : Attributes) :
    (c.forgetFourth tag attrs).opens = c.opens ∧ SameRules c (c.forgetFourth tag attrs) := by
  unfold forgetFourth
  dsimp only
  split
  · exact ⟨rfl, rfl, rfl, rfl⟩
  · split <;> exact ⟨rfl, rfl, rfl, rfl⟩

namespace Inside

/-- What has grown so far is where it grows from next. -/
theorem rebase (h : c.Inside old ground m) : c.Inside c.arena ground m := by
  obtain ⟨⟨hgrows, hstack⟩, hrules⟩ := h
  exact ⟨⟨hgrows.rebase, { hstack with firm := hstack.firm.grown hgrows.2 }⟩, hrules⟩

theorem grows (h : c.Inside old ground m) : c.Grows old := h.1.1

theorem putChar (h : c.Inside old ground m) (ch : Char) : (c.putChar ch).Inside old ground m :=
  h.keep (h.grows.putChar ch) (same_putChar c ch).1 (same_putChar c ch).2

theorem putComment (h : c.Inside old ground m) (value : String) : (c.putComment value).Inside old ground m := by
  obtain ⟨hopens, hrules⟩ := same_putNode { c with arena := (c.arena.add (.comment value)).1 } _ _
  exact h.keep (h.grows.putComment value) hopens hrules

theorem mergeRoot (h : c.Inside old ground m) (t : StartTag) : (c.mergeRoot t).Inside old ground m :=
  h.keep (h.grows.mergeRoot t) (same_mergeRoot c t).1 (same_mergeRoot c t).2

theorem insertVoid (h : c.Inside old ground m) {t : StartTag} (hfree : t.tag.isScaffold = false) :
    (c.insertVoid t).Inside old ground m :=
  h.keep (h.grows.insertVoid hfree) (same_putElement c ..).1 (same_putElement c ..).2

theorem pushMarker (h : c.Inside old ground m) : c.pushMarker.Inside old ground m :=
  h.keep h.grows.pushMarker rfl ⟨rfl, rfl, rfl⟩

theorem clearToMarker (h : c.Inside old ground m) : c.clearToMarker.Inside old ground m :=
  h.keep h.grows.clearToMarker rfl ⟨rfl, rfl, rfl⟩

theorem forget (h : c.Inside old ground m) (id : CellId) : (c.forget id).Inside old ground m :=
  h.keep (h.grows.forget id) rfl ⟨rfl, rfl, rfl⟩

/-- An element that is ignored is opened. -/
theorem openElement (h : c.Inside old ground m) (space : Space) {tag : Tag}
    (hfree : (CellSort.element space tag).isScaffold = false) (attrs : Attributes)
    (hignored : ∀ id, IsLoose ⟨id, space, tag⟩ ∧ m.Ignores ⟨id, space, tag⟩) :
    (c.openElement space tag attrs).1.Inside old ground m := by
  obtain ⟨hopens, hrules⟩ := same_openElement c space tag attrs
  exact h.grow (h.grows.openElement space hfree attrs).1 (List.singleton_append ▸ hopens)
    (List.forall_mem_singleton.mpr (hignored _)) hrules

/-- The current elements are taken off the stack as long as they are ignored. -/
theorem dropFront (h : c.Inside old ground m) {front rest : List OpenElement} (hopens : c.opens = front ++ rest)
    (hfront : ∀ e ∈ front, e.has Tag.isGround = false ∧ m.Ignores e) : { c with opens := rest }.Inside old ground m :=
  h.shrink hopens hfront (h.grows.ofSubset fun _ he => hopens ▸ List.mem_append_right front he) rfl ⟨rfl, rfl, rfl⟩

end Inside

/-! ### Opening formatting elements again -/

/-- Only formatting elements have been opened again, and the rules are the same. -/
structure Reopens (old : Arena) (c c' : Construction) : Prop where
  grows : c'.Grows old
  rules : SameRules c c'
  opens : ∃ front, c'.opens = front ++ c.opens ∧ ∀ e ∈ front, e.space = .html ∧ e.tag.isReopened = true

namespace Reopens

protected theorem refl (h : c.Grows old) : Reopens old c c where
  grows := h
  rules := ⟨rfl, rfl, rfl⟩
  opens := ⟨[], rfl, List.forall_mem_nil _⟩

/-- A formatting element is opened and kept in the list. -/
theorem openFormatting (h : Reopens old c c') {tag : Tag} (htag : tag.isReopened = true) (attrs : Attributes) :
    let opened := (c'.openElement .html tag attrs).1
    let id := (c'.openElement .html tag attrs).2
    Reopens old c { opened with formatting := .element id tag attrs :: opened.formatting } := by
  obtain ⟨hopens, hrules⟩ := same_openElement c' .html tag attrs
  obtain ⟨front, hfrontEq, hfront⟩ := h.opens
  refine ⟨h.grows.openFormatting htag attrs, h.rules.trans hrules,
    ⟨(c'.openElement .html tag attrs).2, .html, tag⟩ :: front, ?_, List.forall_mem_cons.mpr ⟨⟨rfl, htag⟩, hfront⟩⟩
  exact hopens.trans (congrArg _ hfrontEq)

/-- Formatting elements are opened again one after the other. -/
theorem reopen (h : Reopens old c c') {entries : List Formatting}
    (hentries : ∀ id tag attrs, .element id tag attrs ∈ entries → tag.isReopened = true) :
    Reopens old c (c'.reopen entries) := by
  induction entries with
  | nil => exact h
  | cons entry entries ih =>
    have hrest := ih fun id tag attrs hmem => hentries id tag attrs (List.mem_cons_of_mem _ hmem)
    cases entry with
    | marker => exact hrest
    | element id tag attrs => exact hrest.openFormatting (hentries id tag attrs List.mem_cons_self) attrs

theorem reconstruct (h : Reopens old c c') : Reopens old c c'.reconstruct := by
  unfold Construction.reconstruct
  split
  · exact h
  · have hcut : ∀ id tag attrs, .element id tag attrs ∈ c'.cutShort → tag.isReopened = true :=
      fun id tag attrs hmem => (h.grows.1.formatting id tag attrs ((List.takeWhile_sublist _).subset hmem)).2
    have hgrows : { c' with formatting := c'.formatting.drop c'.cutShort.length }.Grows old :=
      h.grows.ofFormatting fun _ hf => .inl (List.mem_of_mem_drop hf)
    have hdropped : Reopens old c { c' with formatting := c'.formatting.drop c'.cutShort.length } :=
      ⟨hgrows, h.rules, h.opens⟩
    exact hdropped.reopen hcut

theorem putChar (h : Reopens old c c') (ch : Char) : Reopens old c (c'.putChar ch) := by
  obtain ⟨hopens, hrules⟩ := same_putChar c' ch
  obtain ⟨front, hfrontEq, hfront⟩ := h.opens
  exact ⟨h.grows.putChar ch, h.rules.trans hrules, front, hopens.trans hfrontEq, hfront⟩

theorem charInBody (h : Reopens old c c') (ch : Char) : Reopens old c (c'.charInBody ch) := by
  unfold Construction.charInBody
  split
  · exact h
  · refine Reopens.putChar ?_ ch
    have hopened := h.reconstruct
    split
    · exact hopened
    · exact ⟨hopened.grows, hopened.rules, hopened.opens⟩

end Reopens

/-- Formatting elements that are opened again do not matter to any rules. -/
theorem Inside.ofReopens (h : c.Inside old ground m) (hopened : Reopens old c c') : c'.Inside old ground m := by
  obtain ⟨front, hopens, hfront⟩ := hopened.opens
  refine h.grow hopened.grows hopens (fun e he => ?_) hopened.rules
  obtain ⟨-, htag⟩ := hfront e he
  have hloose : e.IsLoose := isLoose_of_tag (Tag.isInner_of_isReopened htag).fixture
  refine ⟨hloose, hloose.ignores (Bool.eq_false_iff.mpr fun hselect => ?_) m⟩
  rw [(named_iff.mp hselect).2] at htag
  cases htag

/-! ### Running text -/

/-- The construction stands on its ground, with rules in force that take running text. -/
def Running (old : Arena) (ground : List OpenElement) (m : Mode) (c : Construction) : Prop :=
  c.Inside old ground m ∧ m ≠ .inSelectInTable

namespace Running

theorem grows (h : c.Running old ground m) : c.Grows old := h.1.1.1

theorem putChar (h : c.Running old ground m) (ch : Char) : (c.putChar ch).Running old ground m :=
  ⟨h.1.putChar ch, h.2⟩

theorem insertVoid (h : c.Running old ground m) {t : StartTag} (hfree : t.tag.isScaffold = false) :
    (c.insertVoid t).Running old ground m :=
  ⟨h.1.insertVoid hfree, h.2⟩

theorem noFrameset (h : c.Running old ground m) : c.noFrameset.Running old ground m := h

theorem pushMarker (h : c.Running old ground m) : c.pushMarker.Running old ground m := ⟨h.1.pushMarker, h.2⟩

theorem clearToMarker (h : c.Running old ground m) : c.clearToMarker.Running old ground m :=
  ⟨h.1.clearToMarker, h.2⟩

theorem forget (h : c.Running old ground m) (id : CellId) : (c.forget id).Running old ground m :=
  ⟨h.1.forget id, h.2⟩

theorem choose {p : Prop} [Decidable p] (h : p → c.Running old ground m) (h' : ¬p → c'.Running old ground m) :
    (if p then c else c').Running old ground m := by
  split
  · exact h ‹_›
  · exact h' ‹_›

/-- Loose elements come and go. -/
theorem regrow (h : c.Running old ground m) {front front' rest : List OpenElement}
    (hopens : c.opens = front ++ rest) (hfront : ∀ e ∈ front, e.IsLoose)
    (hgrows : c'.Grows old) (hopens' : c'.opens = front' ++ rest) (hfront' : ∀ e ∈ front', e.IsLoose)
    (hrules : SameRules c c') : c'.Running old ground m :=
  ⟨h.1.regrow hopens (fun e he => ⟨(hfront e he).not_ground, (hfront e he).ignored h.2⟩) hgrows hopens'
    (fun e he => ⟨hfront' e he, (hfront' e he).ignored h.2⟩) hrules, h.2⟩

theorem dropFront (h : c.Running old ground m) {front rest : List OpenElement} (hopens : c.opens = front ++ rest)
    (hfront : ∀ e ∈ front, e.IsLoose) : { c with opens := rest }.Running old ground m :=
  ⟨h.1.dropFront hopens fun e he => ⟨(hfront e he).not_ground, (hfront e he).ignored h.2⟩, h.2⟩

theorem dropCurrent (h : c.Running old ground m) {e : OpenElement} {rest : List OpenElement}
    (hopens : c.opens = e :: rest) (he : e.IsLoose) : { c with opens := rest }.Running old ground m :=
  h.dropFront (hopens.trans List.singleton_append.symm) (List.forall_mem_singleton.mpr he)

theorem openElement (h : c.Running old ground m) (space : Space) {tag : Tag}
    (hfree : (CellSort.element space tag).isScaffold = false) (attrs : Attributes)
    (hloose : ∀ id, IsLoose ⟨id, space, tag⟩) : (c.openElement space tag attrs).1.Running old ground m :=
  ⟨h.1.openElement space hfree attrs fun id => ⟨hloose id, (hloose id).ignored h.2⟩, h.2⟩

theorem insert (h : c.Running old ground m) {t : StartTag} (htag : t.tag.IsInner) :
    (c.insert t).Running old ground m :=
  h.openElement .html htag.scaffold (htmlAttrs t) fun _ => isLoose_of_tag htag.fixture

theorem insertBare (h : c.Running old ground m) {tag : Tag} (htag : tag.IsInner) :
    (c.insertBare tag).Running old ground m :=
  h.openElement .html htag.scaffold [] fun _ => isLoose_of_tag htag.fixture

/-! ### Closing elements -/

/-- Elements whose end tags may be left out are closed. -/
theorem popImplied (h : c.Running old ground m) {p : Tag → Bool}
    (hp : ∀ tag, p tag = true → tag.closesImplicitly = true) : (c.popImplied p).Running old ground m := by
  have hsplit : c.opens = c.opens.takeWhile (·.has p) ++ c.opens.dropWhile (·.has p) :=
    List.takeWhile_append_dropWhile.symm
  refine h.dropFront hsplit fun e he => ?_
  have hhas := List.mem_takeWhile_imp he
  exact isLoose_of_has (fun tag htag => Tag.isFixture_of_closesImplicitly (hp tag htag)) hhas

theorem popImpliedEnds (h : c.Running old ground m) : c.popImpliedEnds.Running old ground m :=
  h.popImplied fun _ htag => htag

theorem popImpliedEndsExcept (h : c.Running old ground m) (tag : Tag) :
    (c.popImpliedEndsExcept tag).Running old ground m :=
  h.popImplied fun _ hother => (Bool.and_eq_true_iff.mp hother).1

end Running

/-- What is closed with an element: all above it, whether their end tags may be left out or not. -/
theorem opens_popThrough {p : Tag → Bool} {target : OpenElement → Bool} {front rest : List OpenElement}
    {x : OpenElement} (hopens : c.opens = front ++ x :: rest) (hfront : ∀ e ∈ front, target e = false)
    (hx : target x = true) (hpx : x.has p = false) : ((c.popImplied p).popThrough target).opens = rest := by
  have hkept : c.opens.dropWhile (·.has p) = front.dropWhile (·.has p) ++ x :: rest := by
    rw [hopens, List.dropWhile_append, List.dropWhile_cons_of_neg (by rw [hpx]; exact Bool.false_ne_true)]
    split
    · rename_i hempty
      rw [List.isEmpty_iff.mp hempty, List.nil_append]
    · rfl
  have hfrontKept : ∀ e ∈ front.dropWhile (·.has p), target e = false := fun e he =>
    hfront e ((List.dropWhile_sublist _).subset he)
  rw [Construction.popThrough, Construction.popImplied, hkept, dropWhile_front hfrontKept hx, List.tail_cons]

namespace Running

/-- Close an element with all that is open inside, where that is loose. -/
theorem closeFront (h : c.Running old ground m) {p : Tag → Bool} {target : OpenElement → Bool}
    {front rest : List OpenElement} {x : OpenElement} (hopens : c.opens = front ++ x :: rest)
    (hfront : ∀ e ∈ front, target e = false ∧ e.IsLoose) (hx : target x = true) (hxLoose : x.IsLoose)
    (hpx : x.has p = false) : ((c.popImplied p).popThrough target).Running old ground m := by
  have hopens' : c.opens = (front ++ [x]) ++ rest := by rw [hopens, List.append_cons]
  have hloose : ∀ e ∈ front ++ [x], e.IsLoose :=
    List.forall_mem_append.mpr ⟨fun e he => (hfront e he).2, List.forall_mem_singleton.mpr hxLoose⟩
  exact ⟨h.1.shrink hopens' (fun e he => ⟨(hloose e he).not_ground, (hloose e he).ignored h.2⟩)
    (h.grows.popThrough p target) (opens_popThrough hopens (fun e he => (hfront e he).1) hx hpx)
    ⟨rfl, rfl, rfl⟩, h.2⟩

/-- Close what is looked for in a scope, with all that is open inside. -/
theorem closeScoped (h : c.Running old ground m) {p : Tag → Bool} {target barrier : OpenElement → Bool}
    (hbarrier : ∀ e, boundsScope e = true → barrier e = true)
    (htarget : ∀ e ∈ c.opens, target e = true → e.IsLoose ∧ e.has p = false)
    (hreach : reaches target barrier c.opens = true) :
    ((c.popImplied p).popThrough target).Running old ground m := by
  obtain ⟨⟨-, hstack⟩, -⟩ := h.1
  obtain ⟨front, x, rest, hopens, hfront, hx, -, houter⟩ := hstack.above.exists_of_reaches hstack.firm
    (fun e he => hbarrier e (by rw [boundsScope, (named_iff.mp he).1, (named_iff.mp he).2]; rfl))
    (fun e he hhit => (htarget e he hhit).1.not_ground) hreach
  obtain ⟨hxLoose, hxp⟩ := htarget x (by rw [hopens]; simp) hx
  rw [hopens] at hstack
  have hloose := hstack.isLoose_of_scope (fun e he => houter e (List.mem_append_left _ he))
    (fun e he => Bool.eq_false_iff.mpr fun hbound =>
      Bool.eq_false_iff.mp (hfront e he).2 (hbarrier e hbound)) hxLoose
  exact h.closeFront hopens (fun e he => ⟨(hfront e he).1, hloose e he⟩) hx hxLoose hxp

theorem closeTag (h : c.Running old ground m) {tag : Tag} (htag : tag.isFixture = false) {p : Tag → Bool}
    (hp : p tag = false) {barrier : OpenElement → Bool}
    (hbarrier : ∀ e, boundsScope e = true → barrier e = true)
    (hreach : reaches (·.named tag) barrier c.opens = true) :
    ((c.popImplied p).popThroughTag tag).Running old ground m :=
  h.closeScoped hbarrier (fun _ _ he => ⟨isLoose_of_named he htag, (has_of_named he).trans hp⟩) hreach

theorem closeParagraph (h : c.Running old ground m) (hreach : c.tagInButtonScope .p = true) :
    c.closeParagraph.Running old ground m :=
  h.closeTag rfl rfl (fun _ hbound => by rw [hbound, Bool.true_or]) hreach

theorem closeOpenParagraph (h : c.Running old ground m) : c.closeOpenParagraph.Running old ground m :=
  choose (fun hreach => h.closeParagraph hreach) fun _ => h

/-- A paragraph that is not open is opened in order to be closed. -/
theorem endParagraph (h : c.Running old ground m) : c.endParagraph.Running old ground m := by
  unfold Construction.endParagraph
  by_cases hopen : c.tagInButtonScope .p = true
  · rw [if_pos hopen]
    exact h.closeParagraph hopen
  · rw [if_neg hopen]
    have hinner : Tag.p.IsInner := ⟨rfl, rfl⟩
    refine (h.insertBare hinner).closeParagraph ?_
    obtain ⟨e, hnamed, hopens, -⟩ := exists_insertBare c .p
    rw [tagInButtonScope, hopens, reaches, hnamed, if_pos rfl]

/-- An element that is loose can be taken off the stack wherever it is. -/
theorem removeOpen (h : c.Running old ground m) {id : CellId} (hid : ∀ e ∈ c.opens, e.id = id → e.IsLoose) :
    (c.removeOpen id).Running old ground m := by
  by_cases hmem : ∃ e ∈ c.opens, (e.id == id) = true
  · obtain ⟨e, he, heq⟩ := hmem
    obtain ⟨x, front, rest, hfront, hx, hopens, herased⟩ := List.exists_of_eraseP (p := fun e => e.id == id) he heq
    have hloose : x.IsLoose := hid x (by rw [hopens]; simp) (eq_of_beq hx)
    have hgrows : (c.removeOpen id).Grows old := h.grows.ofSubset fun _ he => List.eraseP_subset he
    obtain ⟨⟨⟨-, hstack⟩, hmode, hfits⟩, hm⟩ := h
    have hignored := hloose.ignored hm
    rw [hopens] at hstack hfits
    refine ⟨⟨⟨hgrows, ?_⟩, hmode, ?_⟩, hm⟩
    · rw [Construction.removeOpen, herased]
      exact hstack.remove hloose
    · rw [Construction.removeOpen, herased]
      exact hfits.remove hignored
  · have hsame : c.removeOpen id = c := by
      rw [Construction.removeOpen, List.eraseP_of_forall_not fun e he heq => hmem ⟨e, he, heq⟩]
    rw [hsame]
    exact h

/-- Close the innermost element of any other name. The rules in force must not go with it. -/
theorem closeAnyTag (h : c.Running old ground m) {tag : Tag} (hground : tag.isGround = false)
    (hseeks : m.seeks tag = false) (hstops : m.stops tag = false) : (c.closeAnyTag tag).Running old ground m := by
  refine choose (fun hreach => ?_) fun _ => h
  obtain ⟨front, x, rest, hopens, hfront, hx⟩ := exists_of_reaches hreach
  have hrest := opens_popThrough (p := fun t => t.closesImplicitly && t != tag) hopens
    (fun e he => (hfront e he).1) hx (by rw [has_of_named hx]; simp)
  have hopens' : c.opens = (front ++ [x]) ++ rest := by rw [hopens, List.append_cons]
  refine ⟨h.1.shrink hopens' ?_ (h.grows.popThrough _ _) hrest ⟨rfl, rfl, rfl⟩, h.2⟩
  refine List.forall_mem_append.mpr ⟨fun e he => ?_, List.forall_mem_singleton.mpr ?_⟩
  · have hloose := isLoose_of_isSpecial (hfront e he).2
    exact ⟨hloose.not_ground, hloose.ignored h.2⟩
  · exact ⟨(has_of_named hx).trans hground, (has_of_named hx).trans hseeks, (has_of_named hx).trans hstops⟩

/-! ### Formatting elements -/

theorem ofReopens (h : c.Running old ground m) (hopened : Reopens old c c') : c'.Running old ground m :=
  ⟨h.1.ofReopens hopened, h.2⟩

theorem openFormatting (h : c.Running old ground m) {tag : Tag} (htag : tag.isReopened = true)
    (attrs : Attributes) :
    let c' := (c.openElement .html tag attrs).1
    let id := (c.openElement .html tag attrs).2
    { c' with formatting := .element id tag attrs :: c'.formatting }.Running old ground m :=
  h.ofReopens ((Reopens.refl h.grows).openFormatting htag attrs)

theorem reconstruct (h : c.Running old ground m) : c.reconstruct.Running old ground m :=
  h.ofReopens (Reopens.refl h.grows).reconstruct

theorem charInBody (h : c.Running old ground m) (ch : Char) : (c.charInBody ch).Running old ground m :=
  h.ofReopens ((Reopens.refl h.grows).charInBody ch)

theorem insertFormatting (h : c.Running old ground m) {t : StartTag} (htag : t.tag.isReopened = true) :
    (c.insertFormatting t).Running old ground m := by
  obtain ⟨hopens, hrules⟩ := same_forgetFourth c t.tag (htmlAttrs t)
  have hforget : (c.forgetFourth t.tag (htmlAttrs t)).Running old ground m :=
    ⟨h.1.keep (h.grows.forgetFourth t.tag (htmlAttrs t)) hopens hrules, h.2⟩
  exact hforget.openFormatting htag (htmlAttrs t)

/-- A formatting element that is in scope has only loose elements above it. -/
theorem exists_cut (h : c.Running old ground m) {id : CellId} {tag : Tag}
    (hid : c.arena.sort id = .element .html tag) (htag : tag.isFixture = false)
    (hscope : c.inScope (·.id == id) = true) :
    ∃ front x rest, c.opens = front ++ x :: rest ∧ (∀ e ∈ front, (e.id == id) = false ∧ e.IsLoose) ∧
      x.id = id ∧ x.tag = tag := by
  obtain ⟨⟨hgrows, hstack⟩, -⟩ := h.1
  have hloose := hgrows.isLoose_of_id hid htag
  obtain ⟨front, x, rest, hopens, hfront, hx, -, houter⟩ := hstack.above.exists_of_reaches hstack.firm
    (fun e he => by rw [boundsScope, (named_iff.mp he).1, (named_iff.mp he).2]; rfl)
    (fun e he hhit => (hloose e he (eq_of_beq hhit)).not_ground) hscope
  have hmem : x ∈ c.opens := by
    rw [hopens]
    exact List.mem_append_right front List.mem_cons_self
  have heq := eq_of_beq hx
  rw [hopens] at hstack
  have hfrontLoose := hstack.isLoose_of_scope (fun e he => houter e (List.mem_append_left _ he))
    (fun e he => (hfront e he).2) (hloose x hmem heq)
  have hsort := hgrows.1.opens x hmem
  rw [heq, hid] at hsort
  injection hsort with _ htagEq
  exact ⟨front, x, rest, hopens, fun e he => ⟨(hfront e he).1, hfrontLoose e he⟩, heq, htagEq.symm⟩

/-- A block that can be split off is a node that can be moved, and nothing of the scaffold stands in it. -/
theorem isMovable_block (h : c.Running old ground m) {block : OpenElement} (hmem : block ∈ c.opens)
    (hspecial : block.isSpecial = true) (hloose : block.IsLoose) :
    c.arena.IsMovable block.id ∧
      ∀ id, c.arena.scaffolds id = true → c.arena.parent? id ≠ some block.id := by
  obtain ⟨hspace, htag⟩ := has_iff.mp hspecial
  have hsort := h.grows.1.opens block hmem
  rw [hspace] at hsort
  rw [IsLoose, has_of_space hspace] at hloose
  have hfree := Tag.isScaffold_of_isSpecial htag hloose
  refine ⟨Arena.isMovable_of_element hsort hfree, fun id hid hparent => ?_⟩
  have hgrown := h.grows.2
  have hold := (hgrown.scaffolds_iff id).mp hid
  obtain ⟨parent, hparentOld, hplace⟩ := h.1.1.2.firm.exists_parent hold
  rw [hgrown.parent id hold, hparentOld] at hparent
  obtain rfl := Option.some.inj hparent
  rcases hplace with hpage | hroot
  · rw [hpage, h.grows.sound.page] at hsort
    cases hsort
  · rw [hgrown.element hroot] at hsort
    injection hsort with _ heq
    rw [← heq] at hfree
    cases hfree

end Running

theorem of_splitAtLast {p : OpenElement → Bool} {es higher between : List OpenElement} {block : OpenElement}
    (h : splitAtLast p es = some (higher, block, between)) : p block = true := by
  unfold splitAtLast at h
  rw [List.span_eq_takeWhile_dropWhile] at h
  split at h
  · cases h
  · rename_i after e before hspan
    obtain ⟨-, hbefore⟩ := Prod.mk.inj hspan
    have hhead := List.head?_dropWhile_not (fun e => !p e) es.reverse
    rw [hbefore] at hhead
    obtain ⟨-, rfl, -⟩ : before.reverse = higher ∧ e = block ∧ after.reverse = between := by simpa using h
    simpa using hhead

theorem span_of_id {id : CellId} {front rest : List OpenElement} {x : OpenElement}
    (hfront : ∀ e ∈ front, (e.id == id) = false) (hx : x.id = id) :
    (front ++ x :: rest).span (·.id != id) = (front, x :: rest) := by
  have hpass : ∀ e ∈ front, (e.id != id) = true := fun e he => by rw [bne, hfront e he]; rfl
  have hstop : ¬(x.id != id) = true := by rw [hx]; simp
  rw [List.span_eq_takeWhile_dropWhile, List.takeWhile_append_of_pos hpass,
    List.takeWhile_cons_of_neg (p := fun e : OpenElement => e.id != id) hstop, List.dropWhile_append_of_pos hpass,
    List.dropWhile_cons_of_neg (p := fun e : OpenElement => e.id != id) hstop, List.append_nil]

namespace Running

theorem closeFormattingOnce (h : c.Running old ground m) {tag : Tag} (htag : tag.isReopened = true) :
    (c.closeFormattingOnce tag).1.Running old ground m := by
  have hfixture : tag.isFixture = false := (Tag.isInner_of_isReopened htag).fixture
  unfold Construction.closeFormattingOnce
  split
  · refine h.closeAnyTag ?_ ?_ ?_
    · exact Bool.eq_false_iff.mpr fun hground =>
        Bool.eq_false_iff.mp hfixture (Tag.isFixture_of_isGround hground)
    · exact Bool.eq_false_iff.mpr fun hseeks =>
        Bool.eq_false_iff.mp hfixture (Mode.isFixture_of_seeks h.2 hseeks)
    · exact Bool.eq_false_iff.mpr fun hstops =>
        Bool.eq_false_iff.mp hfixture (Mode.isFixture_of_stops hstops)
  · rename_i id attrs hlatest
    have hsort := (h.grows.1.formatting _ _ _ (IsReadable.mem_latestFormatting hlatest)).1
    split
    · exact h.forget id
    · rename_i above e below hspan
      split
      · exact h
      · rename_i hscope
        obtain ⟨front, x, rest, hopens, hfront, hx, rfl⟩ := h.exists_cut hsort hfixture (by simpa using hscope)
        rw [hopens, span_of_id (fun e he => (hfront e he).1) hx] at hspan
        obtain ⟨rfl, hrest⟩ := Prod.mk.inj hspan
        obtain ⟨rfl, rfl⟩ := List.cons.inj hrest
        have hxLoose : x.IsLoose := isLoose_of_tag hfixture
        have hopens' : c.opens = (front ++ [x]) ++ rest := by rw [hopens, List.append_cons]
        have hgone : ∀ e ∈ front ++ [x], e.IsLoose :=
          List.forall_mem_append.mpr ⟨fun e he => (hfront e he).2, List.forall_mem_singleton.mpr hxLoose⟩
        split
        · exact (h.forget id).dropFront hopens' hgone
        · rename_i higher block between hsplit
          have hparts := IsReadable.mem_of_splitAtLast hsplit
          have hblockMem : block ∈ front := hparts ▸ List.mem_append_right higher List.mem_cons_self
          obtain ⟨hmovable, hchildren⟩ := h.isMovable_block (hopens ▸ List.mem_append_left _ hblockMem)
            (of_splitAtLast hsplit) (hfront block hblockMem).2
          have hsplitOpens : c.opens = higher ++ block :: between ++ x :: rest := by rw [hopens, hparts]
          obtain ⟨hgrows, hrules, part, kept, hnew, hpart, hkept⟩ :=
            h.grows.splitAt attrs hsplitOpens htag hmovable hchildren
          have hpartLoose : part.IsLoose := isLoose_of_tag (hpart.2 ▸ hfixture)
          refine h.regrow hopens' hgone (h.grows.trans hgrows) hnew ?_ hrules
          have hhigher : ∀ e ∈ higher, e.IsLoose := fun e he =>
            (hfront e (hparts ▸ List.mem_append_left _ he)).2
          refine List.forall_mem_append.mpr ⟨hhigher, List.forall_mem_cons.mpr ⟨hpartLoose, ?_⟩⟩
          refine List.forall_mem_cons.mpr ⟨(hfront block hblockMem).2, fun k hk => ?_⟩
          exact isLoose_of_tag (Tag.isInner_of_isReopened (hkept k hk).2).fixture

theorem closeFormattingUpTo (h : c.Running old ground m) {tag : Tag} (htag : tag.isReopened = true) (n : Nat) :
    (c.closeFormattingUpTo n tag).Running old ground m := by
  induction n generalizing c with
  | zero => exact h
  | succ n ih =>
    have honce := h.closeFormattingOnce htag
    rw [Construction.closeFormattingUpTo]
    split
    · rename_i c' hc
      rw [hc] at honce
      exact ih honce
    · rename_i c' hc
      rw [hc] at honce
      exact honce

theorem closeFormatting (h : c.Running old ground m) {tag : Tag} (htag : tag.isReopened = true) :
    (c.closeFormatting tag).Running old ground m := by
  unfold Construction.closeFormatting
  split
  · rename_i e rest hopens
    refine choose (fun hnamed => ?_) fun _ => h.closeFormattingUpTo htag 8
    have hloose := isLoose_of_named (Bool.and_eq_true_iff.mp hnamed).1 (Tag.isInner_of_isReopened htag).fixture
    exact h.dropCurrent hopens hloose
  · exact h

theorem closeNestedLink (h : c.Running old ground m) : c.closeNestedLink.Running old ground m := by
  unfold Construction.closeNestedLink
  split
  · rename_i id attrs hlatest
    have hsort := (h.grows.1.formatting _ _ _ (IsReadable.mem_latestFormatting hlatest)).1
    have hclosed : (c.closeFormatting .a).Running c.arena ground m := closeFormatting ⟨h.1.rebase, h.2⟩ rfl
    -- the cell of the link still holds one
    have hlink := hclosed.grows.2.element hsort
    exact ((h.closeFormatting rfl).forget id).removeOpen (hclosed.grows.isLoose_of_id hlink rfl)
  · exact h

end Running

end Construction

end PageBlocks.Markup
