import PageBlocks.Proofs.Markup.Scaffold.Selections

/-!
The stages of a page. It has nothing at first, then its root element and the head, and in the end a body or
framesets. In and behind the head a template can be open. No token leads back behind a body or framesets,
and while neither is there the end of the text leads on.
-/
namespace PageBlocks.Markup.Construction

open OpenElement

variable {old : Arena} {ground outer opens : List OpenElement} {m : Mode} {b : Bool} {c c' : Construction}
  {s : StartTag} {t : Token}

/-! ### Stages -/

/-- Nothing of the scaffold is there. -/
def Unrooted (c : Construction) : Prop :=
  Refers c.arena c.opens c.formatting c.head c.form ∧ (∀ id, c.arena.scaffolds id = false) ∧ c.opens = [] ∧
    c.templateModes = [] ∧ (c.mode = .initial ∨ c.mode = .beforeHtml)

/-- The root element is there, and the head is expected. -/
def Rooted (c : Construction) : Prop :=
  Refers c.arena c.opens c.formatting c.head c.form ∧
    (∃ r, c.opens = [r] ∧ r.named .html = true ∧ ShowsRoot c.arena r.id) ∧ c.templateModes = [] ∧
    c.mode = .beforeHead

/-- A stack that stands on the body. -/
def standsOnBody (ground : List OpenElement) : Bool := ground.any (·.named .body)

/-- The stack and the rules fit together. The flag tells whether the page has a body or framesets. -/
inductive Fitted (c : Construction) : Bool → Prop
  | outside {outer : List OpenElement} : c.Outside c.arena outer → Fitted c false
  | inside {ground : List OpenElement} {m : Mode} : c.Inside c.arena ground m → Fitted c (standsOnBody ground)
  | frames : c.Frames → Fitted c true

/-- The stages of a page while it is built. The flag tells whether it has a body or framesets. -/
inductive Stage (c : Construction) : Bool → Prop
  | unrooted : c.Unrooted → Stage c false
  | rooted : c.Rooted → Stage c false
  | fitted {b : Bool} : c.Fitted b → Stage c b
  | raw {b : Bool} {x : OpenElement} {rest : List OpenElement} : c.mode = .text → c.opens = x :: rest →
      x.space = .html → c.Grows c.arena → { c with opens := rest, mode := c.returnMode }.Fitted b → Stage c b
  | kept {ground : List OpenElement} {m : Mode} : c.mode = .inTableText → c.currentHas Tag.isTablePart = true →
      { c with mode := c.returnMode }.Inside c.arena ground m → Stage c (standsOnBody ground)

/-- The page has come to a stage that does not fall behind. -/
def Passes (c : Construction) (b : Bool) : Prop := ∃ b', c.Stage b' ∧ (b = true → b' = true)

theorem Stage.passes (h : c.Stage b) : c.Passes b := ⟨b, h, fun hb => hb⟩

theorem Stage.passes_false (h : c.Stage b) : c.Passes false := ⟨b, h, fun hb => by cases hb⟩

theorem Passes.ofIte {p : Prop} [Decidable p] {r r' : Outcome} (h : p → r.1.Passes b) (h' : ¬p → r'.1.Passes b) :
    (if p then r else r').1.Passes b := by
  split
  · exact h ‹_›
  · exact h' ‹_›

theorem standsOnBody_template {t : OpenElement} (ht : t.named .template = true) (houter : IsOuter old outer) :
    standsOnBody (t :: outer) = false := by
  have hother : ∀ {e : OpenElement} {tag : Tag}, e.named tag = true → tag ≠ .body → e.named .body = false :=
    fun he hne => Bool.eq_false_iff.mpr fun hnamed => hne ((named_iff.mp he).2.symm.trans (named_iff.mp hnamed).2)
  cases houter with
  | inHead hh hr =>
    simp [standsOnBody, hother ht Tag.noConfusion, hother hh Tag.noConfusion, hother hr Tag.noConfusion]
  | afterHead hr => simp [standsOnBody, hother ht Tag.noConfusion, hother hr Tag.noConfusion]

theorem Leads.passes (h : c.Leads old ground) : c.Passes (standsOnBody ground) := by
  cases h with
  | inside h => exact (Stage.fitted (.inside h.rebase)).passes
  | raw hmode hopens hspace hgrows h => exact (Stage.raw hmode hopens hspace hgrows.rebase (.inside h.rebase)).passes
  | kept hmode hcurrent h => exact (Stage.kept hmode hcurrent h.rebase).passes
  | @closed t outer ht hground h =>
    obtain ⟨hgrows, houter, hrest⟩ := h
    rw [hground, standsOnBody_template ht houter]
    exact (Stage.fitted (.outside ⟨hgrows.rebase, houter.grown hgrows.2, hrest⟩)).passes
  | frames h => exact ⟨true, .fitted (.frames h), fun _ => rfl⟩

/-! ### Before the head -/

theorem Unrooted.ofArena (h : c.Unrooted) {a : Arena} (ha : c.arena.Grown a) : { c with arena := a }.Unrooted := by
  obtain ⟨hrefers, hnone, hrest⟩ := h
  refine ⟨hrefers.grown ha, fun id => Bool.eq_false_iff.mpr fun hid => ?_, hrest⟩
  exact Bool.eq_false_iff.mp (hnone id) ((ha.extends_.scaffolds_iff id).mp hid)

theorem Unrooted.putCommentIn (h : c.Unrooted) (value : String) : (c.putCommentIn Arena.page value).Unrooted :=
  h.ofArena (h.1.sound.append_leaf (.comment value) rfl h.1.sound.isPlace_page)

theorem Unrooted.acceptDoctype (h : c.Unrooted) (d : Doctype) : (c.acceptDoctype d).Unrooted := by
  unfold Construction.acceptDoctype
  split
  · obtain ⟨hrefers, hnone, hopens, hmodes, -⟩ :=
      h.ofArena (h.1.sound.append_leaf (.doctype (d.name.getD "")) rfl h.1.sound.isPlace_page)
    have hnext : Mode.beforeHtml = .initial ∨ Mode.beforeHtml = .beforeHtml := .inr rfl
    exact ⟨hrefers, hnone, hopens, hmodes, hnext⟩
  · exact h

theorem Unrooted.inInitial (h : c.Unrooted) (t : Token) : (c.inInitial t).1.Passes false := by
  unfold Construction.inInitial
  refine .ofIte (fun _ => (Stage.unrooted h).passes) fun _ => ?_
  split
  · exact (Stage.unrooted (h.putCommentIn _)).passes
  · obtain ⟨hrefers, hnone, hopens, hmodes, -⟩ := h
    have hnext : { c with vintage := true, mode := .beforeHtml }.Unrooted :=
      ⟨hrefers, hnone, hopens, hmodes, .inr rfl⟩
    exact (Stage.unrooted hnext).passes

/-- The root element is put into the page. -/
theorem Unrooted.insertRoot (h : c.Unrooted) (attrs : Attributes) :
    { c.insertRoot attrs with mode := .beforeHead }.Rooted := by
  obtain ⟨hrefers, hnone, hopens, hmodes, -⟩ := h
  have hnew := hrefers.sound.inserted hrefers.sound.isPlace_page .html attrs
  have hroot : (c.insertRoot attrs).opens = [⟨(c.arena.addElement .html .html attrs).2, .html, .html⟩] :=
    congrArg _ hopens
  exact ⟨hrefers.inserted hnew, ⟨_, hroot, rfl, .of_inserted hnone hnew⟩, hmodes, rfl⟩

theorem Unrooted.inBeforeHtml (h : c.Unrooted) (t : Token) : (c.inBeforeHtml t).1.Passes false := by
  have hmissing : ((c.insertRoot []).again .beforeHead).1.Passes false := (Stage.rooted (h.insertRoot [])).passes
  unfold Construction.inBeforeHtml
  refine .ofIte (fun _ => (Stage.unrooted h).passes) fun _ => ?_
  split
  · exact (Stage.unrooted (h.putCommentIn _)).passes
  · exact .ofIte (fun _ => (Stage.rooted (h.insertRoot _)).passes) fun _ => hmissing
  · exact .ofIte (fun _ => hmissing) fun _ => (Stage.unrooted h).passes
  · exact hmissing

namespace Rooted

theorem grows (h : c.Rooted) : c.Grows c.arena := ⟨h.1, .refl _⟩

theorem keep (h : c.Rooted) (hgrows : c'.Grows c.arena) (hopens : c'.opens = c.opens) (hrules : SameRules c c') :
    c'.Rooted := by
  obtain ⟨-, ⟨r, hroot, hr, hshows⟩, hmodes, hmode⟩ := h
  exact ⟨hgrows.1, ⟨r, hopens.trans hroot, hr, hshows.grown hgrows.2⟩, hrules.2.1.trans hmodes,
    hrules.1.trans hmode⟩

/-- The head is opened inside the root element. -/
theorem insertHead (h : c.Rooted) (s : StartTag) :
    ∃ hd r, (c.insertHead s).Outside (c.insertHead s).arena [hd, r] := by
  have hfree : (CellSort.element .html .head).isScaffold = false := rfl
  obtain ⟨hgrows, hsort⟩ := h.grows.openElement .html hfree (htmlAttrs s)
  obtain ⟨hopened, -, hmodes, -⟩ := same_openElement c .html .head (htmlAttrs s)
  obtain ⟨-, ⟨r, hroot, hr, hshows⟩, hnone, -⟩ := h
  have hopens : (c.insertHead s).opens = [⟨(c.openElement .html .head (htmlAttrs s)).2, .html, .head⟩, r] :=
    hopened.trans (congrArg _ hroot)
  have hhead : ∀ id, some (c.openElement .html .head (htmlAttrs s)).2 = some id →
      (c.openElement .html .head (htmlAttrs s)).1.arena.sort id = .element .html .head := by
    intro id hid
    cases hid
    exact hsort
  have hturned : ∀ m ∈ (c.insertHead s).templateModes, m.isTurned = true := by
    rw [show (c.insertHead s).templateModes = [] from hmodes.trans hnone]
    exact List.forall_mem_nil _
  have hrefers : Refers (c.insertHead s).arena (c.insertHead s).opens (c.insertHead s).formatting
      (c.insertHead s).head (c.insertHead s).form := { hgrows.1 with head := hhead }
  exact ⟨_, r, ⟨hrefers, .refl _⟩, .inHead rfl hr (hshows.grown hgrows.2), hopens, rfl, hturned, rfl⟩

theorem passes_insertHead (h : c.Rooted) (s : StartTag) : (c.insertHead s).Passes false := by
  obtain ⟨hd, r, houtside⟩ := h.insertHead s
  exact (Stage.fitted (.outside houtside)).passes

theorem inBeforeHead (h : c.Rooted) (t : Token) : (c.inBeforeHead t).1.Passes false := by
  have hsame : c.Passes false := (Stage.rooted h).passes
  unfold Construction.inBeforeHead
  dsimp only
  refine .ofIte (fun _ => hsame) fun _ => ?_
  split
  · obtain ⟨hopens, hrules⟩ := same_putNode { c with arena := (c.arena.add (.comment _)).1 } _ _
    exact (Stage.rooted (h.keep (h.grows.putComment _) hopens hrules)).passes
  · rename_i s _
    refine .ofIte (fun _ => ?_) fun _ => .ofIte (fun _ => h.passes_insertHead s) fun _ => h.passes_insertHead _
    exact (Stage.rooted (h.keep (h.grows.mergeRoot s) (same_mergeRoot c s).1 (same_mergeRoot c s).2)).passes
  · exact .ofIte (fun _ => h.passes_insertHead _) fun _ => hsame
  · exact h.passes_insertHead _

end Rooted

/-! ### In and behind the head -/

theorem IsGround.framed {a : Arena} (h : IsGround a ground) : Framed ground := by
  have hpart : ∀ e ∈ ground, e.has Tag.isPart = false := by
    cases h with
    | body hb hr => simp [has_of_named hb, has_of_named hr, Tag.isPart]
    | template ht houter =>
      cases houter with
      | inHead hh hr => simp [has_of_named ht, has_of_named hh, has_of_named hr, Tag.isPart]
      | afterHead hr => simp [has_of_named ht, has_of_named hr, Tag.isPart]
  have hframed : Framed (ground ++ []) := Framed.append .nil hpart
  rwa [List.append_nil] at hframed

/-- The ground alone is a stack. -/
theorem IsGround.stack {a : Arena} (h : IsGround a ground) {modes : List Mode} {head : Option CellId}
    (htemplates : ground.countP (·.named .template) ≤ modes.length) (hturned : ∀ m ∈ modes, m.isTurned = true)
    (hhead : head.isSome = true) : Stack a ground ground modes head :=
  ⟨h, .ground, h.framed, htemplates, hturned, hhead⟩

theorem IsOuter.not_template {a : Arena} (h : IsOuter a outer) : ∀ e ∈ outer, e.named .template = false := by
  have hother : ∀ {e : OpenElement} {tag : Tag}, e.named tag = true → tag ≠ .template → e.named .template = false :=
    fun he hne => Bool.eq_false_iff.mpr fun hnamed => hne ((named_iff.mp he).2.symm.trans (named_iff.mp hnamed).2)
  cases h with
  | inHead hh hr => simp [hother hh Tag.noConfusion, hother hr Tag.noConfusion]
  | afterHead hr => simp [hother hr Tag.noConfusion]

namespace Outside

theorem stage (h : c.Outside old outer) : c.Stage false :=
  .fitted (.outside ⟨h.1.rebase, h.2.1.grown h.1.2, h.2.2⟩)

theorem passes (h : c.Outside old outer) : c.Passes false := h.stage.passes

theorem keep (h : c.Outside old outer) (hgrows : c'.Grows old) (hopens : c'.opens = c.opens)
    (hrules : SameRules c c') : c'.Outside old outer := by
  obtain ⟨-, houter, hsame, hmode, hturned, hhead⟩ := h
  refine ⟨hgrows, houter, hopens.trans hsame, hrules.1.trans hmode, ?_, ?_⟩
  · rw [hrules.2.1]
    exact hturned
  · rw [hrules.2.2]
    exact hhead

/-- An element of the head in or behind the head. -/
theorem takesHead (h : c.Outside old outer) {tag : Tag} (hgrows : c'.Grows old)
    (htakes : TakesHead c tag c.opens c') : c'.Passes false := by
  cases htakes with
  | void hopens hrules => exact (h.keep hgrows hopens hrules).passes
  | @raw x hnamed hopens hmode hreturn hmodes hhead =>
    rw [h.2.2.1] at hopens
    have hback : { c' with opens := outer, mode := c'.returnMode }.Outside old outer := by
      refine h.keep ?_ h.2.2.1.symm ⟨hreturn, hmodes, hhead⟩
      refine hgrows.ofSubset fun e he => ?_
      rw [hopens]
      exact List.mem_cons_of_mem x he
    have hfitted : { c' with opens := outer, mode := c'.returnMode }.Fitted false :=
      .outside ⟨hback.1.rebase, hback.2.1.grown hback.1.2, hback.2.2⟩
    exact (Stage.raw hmode hopens (named_iff.mp hnamed).1 hgrows.rebase hfitted).passes
  | @template x hnamed htag hopens hmode hmodes hhead =>
    rw [htag] at hnamed
    obtain ⟨-, houter, hsame, -, hturned, hsome⟩ := h
    rw [hsame] at hopens
    have hground : IsGround c'.arena (x :: outer) := .template hnamed (houter.grown hgrows.2)
    have hcount : (x :: outer).countP (·.named .template) = 1 := by
      rw [List.countP_cons, hnamed, if_pos rfl, List.countP_eq_zero.mpr fun e he => ?_]
      rw [houter.not_template e he]
      exact Bool.false_ne_true
    have hstack : Stack c'.arena (x :: outer) c'.opens c'.templateModes c'.head := by
      rw [hopens, hmodes, hhead]
      refine hground.stack ?_ (List.forall_mem_cons.mpr ⟨rfl, hturned⟩) hsome
      rw [hcount, List.length_cons]
      omega
    have hfits : Fits .inTemplate c'.opens := by
      rw [hopens]
      exact fits_of_current ((has_of_named hnamed).trans rfl) outer
    exact (Stage.fitted (.inside ⟨⟨hgrows.rebase, hstack⟩, hmode, hfits⟩)).passes_false

theorem startHeadContent (h : c.Outside old outer) {s : StartTag} (hfree : s.tag.isScaffold = false) :
    (c.startHeadContent s).1.Passes false :=
  h.takesHead (h.1.startHeadContent hfree) (takesHead_startHeadContent c s)

theorem putChar (h : c.Outside old outer) (ch : Char) : (c.putChar ch).Passes false :=
  (h.keep (h.1.putChar ch) (same_putChar c ch).1 (same_putChar c ch).2).passes

theorem putComment (h : c.Outside old outer) (value : String) : (c.putComment value).Passes false := by
  obtain ⟨hopens, hrules⟩ := same_putNode { c with arena := (c.arena.add (.comment value)).1 } _ _
  exact (h.keep (h.1.putComment value) hopens hrules).passes

theorem mergeRoot (h : c.Outside old outer) (s : StartTag) : (c.mergeRoot s).Passes false :=
  (h.keep (h.1.mergeRoot s) (same_mergeRoot c s).1 (same_mergeRoot c s).2).passes

/-- No template is open in or behind the head. -/
theorem closeTemplate (h : c.Outside old outer) : c.closeTemplate = c := by
  refine if_neg fun hopen => ?_
  rw [isOpen, h.2.2.1, List.any_eq_true] at hopen
  obtain ⟨e, he, htemplate⟩ := hopen
  rw [h.2.1.not_template e he] at htemplate
  cases htemplate

/-- The head ends. -/
theorem leaveHead (h : c.Outside old outer) (hmode : c.mode = .inHead) :
    ∃ r, { c.pop with mode := .afterHead }.Outside old [r] := by
  obtain ⟨hgrows, houter, hopens, hown, hrest⟩ := h
  cases houter with
  | @inHead hd r _ hr hshows =>
    have htail : c.opens.tail = [r] := by rw [hopens, List.tail_cons]
    exact ⟨r, hgrows.ofSubset fun _ he => List.mem_of_mem_tail he, .afterHead hr hshows, htail, rfl, hrest⟩
  | afterHead =>
    rw [hmode] at hown
    cases hown

theorem inHead (h : c.Outside old outer) (hmode : c.mode = .inHead) (ht : t.IsReadable) :
    (c.inHead t).1.Passes false := by
  have hleave : (c.pop.again .afterHead).1.Passes false := by
    obtain ⟨r, hleft⟩ := h.leaveHead hmode
    exact hleft.passes
  unfold Construction.inHead
  dsimp only
  split
  · split
    · exact h.putChar _
    · exact h.passes
  · split
    · exact h.putComment _
    · refine .ofIte (fun _ => h.mergeRoot _) fun _ => .ofIte (fun hcontent => h.startHeadContent ?_) fun _ =>
        .ofIte (fun _ => h.passes) fun _ => hleave
      refine ht.1.isScaffold ?_
      rcases Bool.or_eq_true_iff.mp hcontent with hhead | hnoscript
      · exact Tag.isOuter_of_isHeadContent hhead
      · rw [of_decide_eq_true hnoscript]
        rfl
    · split
      · exact hleave
      · exact hleave
      · exact hleave
      · exact hleave
      · rw [done, h.closeTemplate]
        exact h.passes
      · exact h.passes
    · exact hleave

end Outside

/-! ### Behind the head -/

/-- An element that comes too late goes into the head, which does not stay open. -/
theorem TakesHead.removeHead {head : CellId} {tag : Tag}
    (h : TakesHead { c with opens := ⟨head, .html, .head⟩ :: opens } tag (⟨head, .html, .head⟩ :: opens) c')
    (hgrows : c'.Grows old) (hhead : c.head = some head) (htag : tag ≠ .head) :
    TakesHead c tag opens (c'.removeOpen head) := by
  have hother : ∀ {x : OpenElement}, x ∈ c'.opens → x.named tag = true → c'.head = c.head →
      (x.id == head) = false := by
    intro x hx hnamed hsame
    obtain ⟨hspace, hown⟩ := named_iff.mp hnamed
    refine beq_eq_false_iff_ne.mpr fun heq => htag ?_
    have hsort := hgrows.1.opens x hx
    rw [heq, hgrows.1.head head (hsame.trans hhead), hspace, hown] at hsort
    injection hsort with _ htagEq
    exact htagEq.symm
  have hfound : ∀ {x : OpenElement}, (x.id == head) = false →
      (x :: ⟨head, .html, .head⟩ :: opens).eraseP (·.id == head) = x :: opens := by
    intro x hx
    rw [List.eraseP_cons_of_neg (by rw [hx]; exact Bool.false_ne_true), List.eraseP_cons_of_pos (by simp)]
  cases h with
  | void hopens hrules =>
    refine .void ?_ hrules
    rw [removeOpen, hopens, List.eraseP_cons_of_pos (by simp)]
  | @raw x hnamed hopens hmode hreturn hmodes hsame =>
    refine .raw hnamed ?_ hmode hreturn hmodes hsame
    rw [removeOpen, hopens, hfound (hother (hopens ▸ List.mem_cons_self) hnamed hsame)]
  | @template x hnamed htemplate hopens hmode hmodes hsame =>
    refine .template hnamed htemplate ?_ hmode hmodes hsame
    rw [removeOpen, hopens, hfound (hother (hopens ▸ List.mem_cons_self) hnamed hsame)]

namespace Outside

theorem startLateHeadContent (h : c.Outside old outer) {s : StartTag} (hs : s.tag.IsNamed)
    (hhead : s.tag.isHeadContent = true) : (c.startLateHeadContent s).1.Passes false := by
  have hfree := hs.isScaffold (Tag.isOuter_of_isHeadContent hhead)
  unfold Construction.startLateHeadContent
  split
  · exact h.startHeadContent hfree
  · rename_i head hsome
    have hopened : { c with opens := ⟨head, .html, .head⟩ :: c.opens }.Grows old :=
      h.1.ofOpens (List.forall_mem_cons.mpr ⟨h.1.1.head head hsome, h.1.1.opens⟩)
    have hgrows := hopened.startHeadContent hfree
    have htakes := takesHead_startHeadContent { c with opens := ⟨head, .html, .head⟩ :: c.opens } s
    have hremoved := htakes.removeHead hgrows hsome fun heq => by
      rw [heq] at hhead
      cases hhead
    exact h.takesHead (hgrows.ofSubset fun _ he => List.eraseP_subset he) hremoved

/-- The body is opened inside the root element. -/
theorem openBody {r : OpenElement} (h : c.Outside old [r]) (attrs : Attributes) (allowed : Bool) :
    ∃ b, { (c.openElement .html .body attrs).1 with framesetAllowed := allowed, mode := .inBody }.Inside
        (c.openElement .html .body attrs).1.arena [b, r] .inBody ∧ b.named .body = true := by
  obtain ⟨hgrows, houter, hopens, -, hturned, hhead⟩ := h
  cases houter with
  | afterHead hr hshows =>
    have hroot := hshows.grown hgrows.2
    have htag := (named_iff.mp hr).2
    have hsort : c.arena.sort r.id = .element .html r.tag := htag ▸ hroot.sort
    obtain ⟨a, id, heq, hnew⟩ := inserted_openElement hgrows.sound hopens hsort (by rw [htag]; rfl)
      (by rw [htag]; exact Tag.noConfusion) .body attrs
    rw [heq]
    have hb : OpenElement.named ⟨id, .html, .body⟩ .body = true := rfl
    have hground : IsGround a [⟨id, .html, .body⟩, r] := .body hb hr (hroot.withBody hnew)
    have hcount : [⟨id, .html, .body⟩, r].countP (·.named .template) = 0 := by
      rw [List.countP_eq_zero]
      simp [named, htag]
    have hstack : Stack a [⟨id, .html, .body⟩, r] (⟨id, .html, .body⟩ :: c.opens) c.templateModes c.head := by
      rw [hopens]
      exact hground.stack (hcount ▸ Nat.zero_le _) hturned hhead
    exact ⟨_, ⟨⟨⟨hgrows.1.inserted hnew, .refl _⟩, hstack⟩, rfl, fits_of_current rfl _⟩, hb⟩

theorem passes_body {r : OpenElement} (h : c.Outside old [r]) (attrs : Attributes) (allowed : Bool) :
    { (c.openElement .html .body attrs).1 with framesetAllowed := allowed, mode := .inBody }.Passes false := by
  obtain ⟨b, hinside, -⟩ := h.openBody attrs allowed
  exact (Stage.fitted (.inside hinside)).passes_false

theorem inAfterHead {r : OpenElement} (h : c.Outside old [r]) (ht : t.IsReadable) :
    (c.inAfterHead t).1.Passes false := by
  have hmissing : ((c.insertBare .body).again .inBody).1.Passes false := h.passes_body [] _
  unfold Construction.inAfterHead
  dsimp only
  split
  · split
    · exact h.putChar _
    · exact h.passes
  · split
    · exact h.putComment _
    · rename_i s _
      refine .ofIte (fun _ => h.mergeRoot _) fun _ => .ofIte (fun hbody => ?_) fun _ =>
        .ofIte (fun hframeset => ?_) fun _ => .ofIte (fun hhead => h.startLateHeadContent ht.1 hhead) fun _ =>
        .ofIte (fun _ => h.passes) fun _ => hmissing
      · rw [insert, hbody]
        exact h.passes_body _ false
      · obtain ⟨hgrows, houter, hopens, -⟩ := h
        cases houter with
        | afterHead hr hshows =>
          have hnone := (hshows.grown hgrows.2).showsNoBody
          exact (Stage.fitted (.frames (frames_of_insert hgrows.1 hopens hr hnone hframeset))).passes_false
    · split
      · rw [done, h.closeTemplate]
        exact h.passes
      · exact hmissing
      · exact hmissing
      · exact hmissing
      · exact h.passes
    · exact hmissing

end Outside

end PageBlocks.Markup.Construction
