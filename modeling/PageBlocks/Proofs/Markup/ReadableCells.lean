import PageBlocks.Markup.Parser
import PageBlocks.Proofs.Markup.ReadableTokens

/-!
A tree under construction that can be read as it will be written. A new cell has the name and the
attributes of a tag, of an element that is there already, or of an element that no tag asked for, and the
operations on the stack and on the formatting elements bring in no others.
-/
namespace PageBlocks.Markup

open Lexer

/-! ### Cells -/

def CellData.IsReadable : CellData → Prop
  | .root | .text _ => True
  | .comment value => IsSealed value.toList
  | .doctype name => '>' ∉ name.toList
  | .element _ tag attrs => tag.IsReadable ∧ attrs.IsReadable

/-- Every cell can be read as it will be written. -/
def Arena.IsReadable (a : Arena) : Prop := ∀ cell ∈ a.cells, cell.data.IsReadable

namespace Arena

variable {a : Arena}

theorem IsReadable.modify (h : a.IsReadable) (id : CellId) {f : Cell → Cell}
    (hf : ∀ cell, cell.data.IsReadable → (f cell).data.IsReadable) : (a.modify id f).IsReadable := by
  intro cell hcell
  obtain ⟨i, hi, rfl⟩ := Array.mem_iff_getElem.mp hcell
  have hsize : i < a.cells.size := by simpa [Arena.modify] using hi
  have hold := h a.cells[i] (Array.getElem_mem hsize)
  simp only [Arena.modify, Array.getElem_modify]
  split
  · exact hf _ hold
  · exact hold

/-- Links do not count. -/
theorem IsReadable.relink (h : a.IsReadable) (id : CellId) {f : Cell → Cell}
    (hf : ∀ cell, (f cell).data = cell.data) : (a.modify id f).IsReadable :=
  h.modify id fun cell hcell => (hf cell).symm ▸ hcell

theorem IsReadable.add (h : a.IsReadable) (data : CellData) (hdata : data.IsReadable) :
    (a.add data).1.IsReadable := by
  intro cell hcell
  rcases Array.mem_push.mp hcell with hcell | rfl
  · exact h cell hcell
  · exact hdata

theorem IsReadable.addElement (h : a.IsReadable) (space : Space) {tag : Tag} {attrs : Attributes}
    (htag : tag.IsReadable) (hattrs : attrs.IsReadable) : (a.addElement space tag attrs).1.IsReadable := by
  unfold Arena.addElement
  split
  · have hroot := h.add .root trivial
    have helement := hroot.add (.element space tag attrs) ⟨htag, hattrs⟩
    exact helement.relink (f := fun c => { c with contents := some a.cells.size }) _ fun _ => rfl
  · exact h.add (.element space tag attrs) ⟨htag, hattrs⟩

theorem IsReadable.detach (h : a.IsReadable) (id : CellId) : (a.detach id).IsReadable := by
  unfold Arena.detach
  split
  · exact h
  · refine .relink (.relink h _ ?_) _ ?_ <;> exact fun _ => rfl

theorem IsReadable.append (h : a.IsReadable) (parent id : CellId) : (a.append parent id).IsReadable := by
  refine .relink (.relink (h.detach id) _ ?_) _ ?_ <;> exact fun _ => rfl

theorem IsReadable.insertBefore (h : a.IsReadable) (sibling id : CellId) :
    (a.insertBefore sibling id).IsReadable := by
  unfold Arena.insertBefore
  dsimp only
  split
  · exact h.detach id
  · refine .relink (.relink (h.detach id) _ ?_) _ ?_ <;> exact fun _ => rfl

theorem IsReadable.moveChildren (h : a.IsReadable) (source target : CellId) :
    (a.moveChildren source target).IsReadable := by
  unfold Arena.moveChildren
  rw [← Array.foldl_toList]
  generalize (a.children source).toList = ids
  induction ids generalizing a with
  | nil => exact h
  | cons id ids ih => exact ih (h.append target id)

theorem IsReadable.pushChar (h : a.IsReadable) (id : CellId) (c : Char) :
    (a.pushChar id c).IsReadable := by
  refine h.modify id fun cell hcell => ?_
  split
  · trivial
  · exact hcell

theorem IsReadable.appendChar (h : a.IsReadable) (parent : CellId) (c : Char) :
    (a.appendChar parent c).IsReadable := by
  have hfresh := (h.add (.text (String.singleton c)) trivial).append parent a.cells.size
  unfold Arena.appendChar
  split
  · split
    · exact h.pushChar _ c
    · exact hfresh
  · exact hfresh

theorem IsReadable.insertCharBefore (h : a.IsReadable) (sibling : CellId) (c : Char) :
    (a.insertCharBefore sibling c).IsReadable := by
  have hfresh := (h.add (.text (String.singleton c)) trivial).insertBefore sibling a.cells.size
  unfold Arena.insertCharBefore
  dsimp only
  split
  · split
    · exact h.pushChar _ c
    · exact hfresh
  · exact hfresh

theorem IsReadable.addMissingAttrs (h : a.IsReadable) (id : CellId) {attrs : Attributes}
    (hattrs : attrs.IsReadable) : (a.addMissingAttrs id attrs).IsReadable := by
  refine h.modify id fun cell hcell => ?_
  split
  · rename_i space tag own hdata
    rw [hdata] at hcell
    exact ⟨hcell.1, Attributes.isReadable_addMissing hcell.2 hattrs⟩
  · exact hcell

end Arena

/-! ### The state of the construction -/

def Formatting.IsReadable : Formatting → Prop
  | .marker => True
  | .element _ tag attrs => tag.IsReadable ∧ attrs.IsReadable

namespace Construction

/-- All that the construction holds can be read as it will be written. -/
def IsReadable (c : Construction) : Prop :=
  c.arena.IsReadable ∧ (∀ e ∈ c.opens, e.tag.IsReadable) ∧ ∀ f ∈ c.formatting, f.IsReadable

variable {c : Construction}

namespace IsReadable

theorem withMode (h : c.IsReadable) (mode : Mode) : { c with mode := mode }.IsReadable := h

theorem again (h : c.IsReadable) (mode : Mode) : (c.again mode).1.IsReadable := h

theorem noFrameset (h : c.IsReadable) : c.noFrameset.IsReadable := h

theorem skipping (h : c.IsReadable) : { c with skipsLineFeed := true }.IsReadable := h

/-- Of two ways to go on, both may be taken. -/
theorem choose {p : Prop} [Decidable p] {c' : Construction} (h : c.IsReadable) (h' : c'.IsReadable) :
    (if p then c else c').IsReadable := by
  split
  · exact h
  · exact h'

theorem either {p : Prop} [Decidable p] {r r' : Outcome} (h : r.1.IsReadable) (h' : r'.1.IsReadable) :
    (if p then r else r').1.IsReadable := by
  split
  · exact h
  · exact h'

theorem ofArena (h : c.IsReadable) {a : Arena} (ha : a.IsReadable) : { c with arena := a }.IsReadable :=
  ⟨ha, h.2⟩

/-- Elements may be taken off the stack. -/
theorem ofOpens (h : c.IsReadable) {opens : List OpenElement} (hsub : ∀ e ∈ opens, e ∈ c.opens) :
    { c with opens := opens }.IsReadable :=
  ⟨h.1, fun e he => h.2.1 e (hsub e he), h.2.2⟩

/-- Formatting elements may be forgotten. -/
theorem ofFormatting (h : c.IsReadable) {formatting : List Formatting}
    (hsub : ∀ f ∈ formatting, f ∈ c.formatting) : { c with formatting := formatting }.IsReadable :=
  ⟨h.1, h.2.1, fun f hf => h.2.2 f (hsub f hf)⟩

theorem pop (h : c.IsReadable) : c.pop.IsReadable := h.ofOpens fun _ he => List.mem_of_mem_tail he

theorem popThrough (h : c.IsReadable) (p : OpenElement → Bool) : (c.popThrough p).IsReadable :=
  h.ofOpens fun _ he => (List.dropWhile_sublist _).subset (List.mem_of_mem_tail he)

theorem popThroughTag (h : c.IsReadable) (tag : Tag) : (c.popThroughTag tag).IsReadable := h.popThrough _

theorem popTo (h : c.IsReadable) (p : Tag → Bool) : (c.popTo p).IsReadable :=
  h.ofOpens fun _ he => (List.dropWhile_sublist _).subset he

theorem popImplied (h : c.IsReadable) (p : Tag → Bool) : (c.popImplied p).IsReadable :=
  h.ofOpens fun _ he => (List.dropWhile_sublist _).subset he

theorem popImpliedEnds (h : c.IsReadable) : c.popImpliedEnds.IsReadable := h.popImplied _

theorem popImpliedEndsExcept (h : c.IsReadable) (tag : Tag) : (c.popImpliedEndsExcept tag).IsReadable :=
  h.popImplied _

theorem removeOpen (h : c.IsReadable) (id : CellId) : (c.removeOpen id).IsReadable :=
  h.ofOpens fun _ he => List.eraseP_sublist.subset he

theorem putNode (h : c.IsReadable) (place : Place) (id : CellId) : (c.putNode place id).IsReadable := by
  cases place with
  | lastChild parent => exact h.ofArena (h.1.append parent id)
  | beforeTable table below =>
    unfold Construction.putNode
    dsimp only
    split
    · exact h.ofArena (h.1.insertBefore table id)
    · exact h.ofArena (h.1.append below id)

theorem putChar (h : c.IsReadable) (ch : Char) : (c.putChar ch).IsReadable := by
  unfold Construction.putChar
  split
  · exact h.ofArena (h.1.appendChar _ ch)
  · split
    · exact h.ofArena (h.1.insertCharBefore _ ch)
    · exact h.ofArena (h.1.appendChar _ ch)

theorem putComment (h : c.IsReadable) {value : String} (hvalue : IsSealed value.toList) :
    (c.putComment value).IsReadable :=
  (h.ofArena (h.1.add (.comment value) hvalue)).putNode _ _

theorem putCommentIn (h : c.IsReadable) (parent : CellId) {value : String}
    (hvalue : IsSealed value.toList) : (c.putCommentIn parent value).IsReadable :=
  h.ofArena ((h.1.add (.comment value) hvalue).append parent _)

section

variable {tag : Tag} {attrs : Attributes}

theorem putElement (h : c.IsReadable) (space : Space) (htag : tag.IsReadable) (hattrs : attrs.IsReadable) :
    (c.putElement space tag attrs).1.IsReadable :=
  (h.ofArena (h.1.addElement space htag hattrs)).putNode _ _

theorem openElement (h : c.IsReadable) (space : Space) (htag : tag.IsReadable)
    (hattrs : attrs.IsReadable) : (c.openElement space tag attrs).1.IsReadable := by
  have hput := h.putElement space htag hattrs
  exact ⟨hput.1, List.forall_mem_cons.mpr ⟨htag, hput.2.1⟩, hput.2.2⟩

theorem insertBare (h : c.IsReadable) (htag : tag.IsReadable) : (c.insertBare tag).IsReadable :=
  h.openElement .html htag (List.forall_mem_nil _)

end

section

variable {t : StartTag}

theorem insert (h : c.IsReadable) (ht : (Token.startTag t).IsReadable) : (c.insert t).IsReadable :=
  h.openElement .html ht.1.isReadable (isReadable_htmlAttrs ht)

theorem insertVoid (h : c.IsReadable) (ht : (Token.startTag t).IsReadable) : (c.insertVoid t).IsReadable :=
  h.putElement .html ht.1.isReadable (isReadable_htmlAttrs ht)

theorem insertRaw (h : c.IsReadable) (ht : (Token.startTag t).IsReadable) (mode : TextMode) :
    (c.insertRaw t mode).1.IsReadable := h.insert ht

theorem mergeRoot (h : c.IsReadable) (ht : (Token.startTag t).IsReadable) :
    (c.mergeRoot t).IsReadable := by
  unfold Construction.mergeRoot
  split
  · exact h
  · split
    · exact h.ofArena (h.1.addMissingAttrs _ (isReadable_htmlAttrs ht))
    · exact h

end

theorem insertRoot (h : c.IsReadable) {attrs : Attributes} (hattrs : attrs.IsReadable) :
    (c.insertRoot attrs).IsReadable := by
  have hroot : Tag.html.IsReadable := ⟨by decide, by decide⟩
  have harena := (h.1.addElement .html hroot hattrs).append Arena.page
    (c.arena.addElement .html .html attrs).2
  exact ⟨harena, List.forall_mem_cons.mpr ⟨hroot, h.2.1⟩, h.2.2⟩

theorem closeParagraph (h : c.IsReadable) : c.closeParagraph.IsReadable :=
  (h.popImpliedEndsExcept .p).popThroughTag .p

theorem closeOpenParagraph (h : c.IsReadable) : c.closeOpenParagraph.IsReadable := by
  unfold Construction.closeOpenParagraph
  split
  · exact h.closeParagraph
  · exact h

theorem resetMode (h : c.IsReadable) : c.resetMode.IsReadable := h

/-! ### Formatting elements -/

theorem pushMarker (h : c.IsReadable) : c.pushMarker.IsReadable :=
  ⟨h.1, h.2.1, List.forall_mem_cons.mpr ⟨trivial, h.2.2⟩⟩

theorem clearToMarker (h : c.IsReadable) : c.clearToMarker.IsReadable :=
  h.ofFormatting fun _ hf => (List.dropWhile_sublist _).subset (List.mem_of_mem_tail hf)

theorem forget (h : c.IsReadable) (id : CellId) : (c.forget id).IsReadable :=
  h.ofFormatting fun _ hf => List.eraseP_sublist.subset hf

theorem openFormatting (h : c.IsReadable) {tag : Tag} {attrs : Attributes} (htag : tag.IsReadable)
    (hattrs : attrs.IsReadable) (id : CellId) :
    let c' := (c.openElement .html tag attrs).1
    { c' with formatting := .element id tag attrs :: c'.formatting }.IsReadable := by
  have hopen := h.openElement .html htag hattrs
  exact ⟨hopen.1, hopen.2.1, List.forall_mem_cons.mpr ⟨⟨htag, hattrs⟩, hopen.2.2⟩⟩

theorem reopen (h : c.IsReadable) {entries : List Formatting} (hentries : ∀ f ∈ entries, f.IsReadable) :
    (c.reopen entries).IsReadable := by
  induction entries with
  | nil => exact h
  | cons f entries ih =>
    obtain ⟨hfirst, hrest⟩ := List.forall_mem_cons.mp hentries
    cases f with
    | marker => exact ih hrest
    | element id tag attrs => exact (ih hrest).openFormatting hfirst.1 hfirst.2 _

theorem reconstruct (h : c.IsReadable) : c.reconstruct.IsReadable := by
  have hcut : ∀ f ∈ c.cutShort, f.IsReadable := fun f hf =>
    h.2.2 f ((List.takeWhile_sublist _).subset hf)
  unfold Construction.reconstruct
  split
  · exact h
  · exact (h.ofFormatting fun _ hf => List.mem_of_mem_drop hf).reopen hcut

theorem forgetFourth (h : c.IsReadable) (tag : Tag) (attrs : Attributes) :
    (c.forgetFourth tag attrs).IsReadable := by
  unfold Construction.forgetFourth
  dsimp only
  split
  · exact h
  · split
    · exact h.forget _
    · exact h

theorem insertFormatting (h : c.IsReadable) {t : StartTag} (ht : (Token.startTag t).IsReadable) :
    (c.insertFormatting t).IsReadable :=
  (h.forgetFourth t.tag (htmlAttrs t)).openFormatting ht.1.isReadable (isReadable_htmlAttrs ht) _

theorem closeAnyTag (h : c.IsReadable) (tag : Tag) : (c.closeAnyTag tag).IsReadable := by
  unfold Construction.closeAnyTag
  split
  · exact (h.popImpliedEndsExcept tag).popThroughTag tag
  · exact h

theorem mem_latestFormatting {tag : Tag} {id : CellId} {attrs : Attributes}
    (h : c.latestFormatting? tag = some (id, attrs)) : .element id tag attrs ∈ c.formatting := by
  obtain ⟨f, hf, hfound⟩ := List.exists_of_findSome?_eq_some h
  have hmem := (List.takeWhile_sublist _).subset hf
  cases f with
  | marker => cases hfound
  | element id' own attrs' =>
    dsimp only at hfound
    split at hfound
    · rename_i hown
      subst hown
      cases hfound
      exact hmem
    · cases hfound

/-! ### Splitting a formatting element -/

theorem copy {w : SplitWalk} (h : w.tree.IsReadable) {e : OpenElement} {attrs : Attributes}
    (he : e.tag.IsReadable) (hattrs : attrs.IsReadable) : (w.copy e attrs).tree.IsReadable := by
  refine ⟨(h.1.addElement .html he hattrs).append _ _, h.2.1, fun f hf => ?_⟩
  obtain ⟨own, hown, rfl⟩ := List.mem_map.mp hf
  split
  · exact ⟨he, hattrs⟩
  · exact h.2.2 own hown

theorem splitStep {w : SplitWalk} (h : w.tree.IsReadable ∧ ∀ k ∈ w.kept, k.tag.IsReadable)
    {e : OpenElement} (he : e.tag.IsReadable) (count : Nat) :
    (w.step e count).tree.IsReadable ∧ ∀ k ∈ (w.step e count).kept, k.tag.IsReadable := by
  unfold SplitWalk.step
  dsimp only
  split
  · exact h
  · rename_i attrs hfound
    split
    · exact ⟨h.1.forget e.id, h.2⟩
    · obtain ⟨f, hf, hentry⟩ := List.exists_of_findSome?_eq_some hfound
      have hread := h.1.2.2 f hf
      cases f with
      | marker => cases hentry
      | element id tag own =>
        dsimp only at hentry
        split at hentry
        · cases hentry
          exact ⟨h.1.copy he hread.2, List.forall_mem_append.mpr ⟨h.2, List.forall_mem_singleton.mpr he⟩⟩
        · cases hentry

theorem splitSteps {w : SplitWalk} (h : w.tree.IsReadable ∧ ∀ k ∈ w.kept, k.tag.IsReadable)
    (between : List (OpenElement × Nat)) (hbetween : ∀ x ∈ between, x.1.tag.IsReadable) :
    let last := between.foldl (fun (w : SplitWalk) (x, i) => w.step x (i + 1)) w
    last.tree.IsReadable ∧ ∀ k ∈ last.kept, k.tag.IsReadable := by
  induction between generalizing w with
  | nil => exact h
  | cons x between ih =>
    obtain ⟨hfirst, hrest⟩ := List.forall_mem_cons.mp hbetween
    exact ih (splitStep h hfirst (x.2 + 1)) hrest

theorem readable_moveEntry {formatting : List Formatting} (h : ∀ f ∈ formatting, f.IsReadable)
    (old : CellId) (bookmark : Option CellId) {entry : Formatting} (hentry : entry.IsReadable) :
    ∀ f ∈ moveEntry formatting old bookmark entry, f.IsReadable := by
  unfold moveEntry
  split
  · intro f hf
    obtain ⟨own, hown, rfl⟩ := List.mem_map.mp hf
    split
    · exact hentry
    · exact h own hown
  · intro f hf
    obtain ⟨own, hown, hmem⟩ := List.mem_flatMap.mp (List.eraseP_sublist.subset hf)
    split at hmem
    · rcases List.mem_cons.mp hmem with rfl | hmem
      · exact hentry
      · exact List.mem_singleton.mp hmem ▸ h own hown
    · exact List.mem_singleton.mp hmem ▸ h own hown

theorem splitAt (h : c.IsReadable) {e : OpenElement} {attrs : Attributes} {higher : List OpenElement}
    {block : OpenElement} {between below : List OpenElement} (he : e.tag.IsReadable)
    (hattrs : attrs.IsReadable) (hhigher : ∀ x ∈ higher, x.tag.IsReadable) (hblock : block.tag.IsReadable)
    (hbetween : ∀ x ∈ between, x.tag.IsReadable) (hbelow : ∀ x ∈ below, x.tag.IsReadable) :
    (c.splitAt e attrs higher block between below).IsReadable := by
  -- the two parts are put together, wherever the inner one has gone
  have hjoin : ∀ (moved : Construction) (kept : List OpenElement) (bookmark : Option CellId),
      moved.IsReadable → (∀ k ∈ kept, k.tag.IsReadable) →
      let added := moved.arena.addElement .html e.tag attrs
      { moved with
        arena := (added.1.moveChildren block.id added.2).append block.id added.2
        formatting := moveEntry moved.formatting e.id bookmark (.element added.2 e.tag attrs)
        opens := higher ++ OpenElement.mk added.2 .html e.tag :: block :: kept ++ below }.IsReadable := by
    intro moved kept bookmark hmoved hkept
    have hadded := hmoved.1.addElement .html he hattrs
    refine ⟨(hadded.moveChildren _ _).append _ _, ?_, readable_moveEntry hmoved.2.2 _ _ ⟨he, hattrs⟩⟩
    simp only [List.forall_mem_append, List.forall_mem_cons]
    exact ⟨⟨hhigher, he, hblock, hkept⟩, hbelow⟩
  obtain ⟨hwalk, hkept⟩ := splitSteps (w := ⟨c, [], block.id, none⟩) ⟨h, List.forall_mem_nil _⟩
    between.zipIdx fun x hx => hbetween x.1 (List.fst_mem_of_mem_zipIdx hx)
  unfold Construction.splitAt
  generalize between.zipIdx.foldl (fun (w : SplitWalk) (x, i) => w.step x (i + 1))
    ⟨c, [], block.id, none⟩ = walk at hwalk hkept
  have hdetached := hwalk.ofArena (hwalk.1.detach walk.inner)
  cases below with
  | nil => exact hjoin _ _ _ hdetached hkept
  | cons ancestor rest => exact hjoin _ _ _ (hdetached.putNode _ _) hkept

theorem mem_of_splitAtLast {p : OpenElement → Bool} {es higher between : List OpenElement}
    {block : OpenElement} (h : splitAtLast p es = some (higher, block, between)) :
    higher ++ block :: between = es := by
  unfold splitAtLast at h
  rw [List.span_eq_takeWhile_dropWhile] at h
  split at h
  · cases h
  · rename_i after e before hspan
    obtain ⟨rfl, rfl, rfl⟩ : before.reverse = higher ∧ e = block ∧ after.reverse = between := by
      simpa using h
    obtain ⟨hafter, hbefore⟩ := Prod.mk.inj hspan
    have hwhole : after ++ e :: before = es.reverse := by
      rw [← hafter, ← hbefore, List.takeWhile_append_dropWhile]
    simpa using congrArg List.reverse hwhole

theorem closeFormattingOnce (h : c.IsReadable) (tag : Tag) : (c.closeFormattingOnce tag).1.IsReadable := by
  unfold Construction.closeFormattingOnce
  split
  · exact h.closeAnyTag tag
  · rename_i id attrs hlatest
    have hentry := h.2.2 _ (mem_latestFormatting hlatest)
    split
    · exact h.forget id
    · rename_i above e below hspan
      rw [List.span_eq_takeWhile_dropWhile] at hspan
      obtain ⟨habove, hrest⟩ := Prod.mk.inj hspan
      have hopens : ∀ x ∈ above ++ e :: below, x.tag.IsReadable := by
        rw [← habove, ← hrest, List.takeWhile_append_dropWhile]
        exact h.2.1
      simp only [List.forall_mem_append, List.forall_mem_cons] at hopens
      split
      · exact h
      · split
        · exact ⟨(h.forget id).1, hopens.2.2, (h.forget id).2.2⟩
        · rename_i higher block between hsplit
          have hparts := hopens.1
          rw [← mem_of_splitAtLast hsplit] at hparts
          simp only [List.forall_mem_append, List.forall_mem_cons] at hparts
          exact h.splitAt hopens.2.1 hentry.2 hparts.1 hparts.2.1 hparts.2.2 hopens.2.2

theorem closeFormattingUpTo (h : c.IsReadable) (n : Nat) (tag : Tag) :
    (c.closeFormattingUpTo n tag).IsReadable := by
  induction n generalizing c with
  | zero => exact h
  | succ n ih =>
    have honce := h.closeFormattingOnce tag
    rw [Construction.closeFormattingUpTo]
    split
    · rename_i c' hc
      rw [hc] at honce
      exact ih honce
    · rename_i c' hc
      rw [hc] at honce
      exact honce

theorem closeFormatting (h : c.IsReadable) (tag : Tag) : (c.closeFormatting tag).IsReadable := by
  unfold Construction.closeFormatting
  split
  · rename_i e rest hopens
    split
    · exact h.ofOpens fun x hx => hopens ▸ List.mem_cons_of_mem e hx
    · exact h.closeFormattingUpTo 8 tag
  · exact h

theorem closeNestedLink (h : c.IsReadable) : c.closeNestedLink.IsReadable := by
  unfold Construction.closeNestedLink
  split
  · exact ((h.closeFormatting .a).forget _).removeOpen _
  · exact h

end IsReadable

end Construction

end PageBlocks.Markup
