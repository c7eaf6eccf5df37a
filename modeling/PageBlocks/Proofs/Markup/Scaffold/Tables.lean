import PageBlocks.Proofs.Markup.Scaffold.Text

/-!
The rules inside tables, selections and templates. The stack is cut down to what the rules in force go
with, which is there and stands above the ground. A part of a table is opened right on the part around
it, and when it is closed the rules for that one are in force again.
-/
namespace PageBlocks.Markup

theorem Tag.closesImplicitly_of_isCell {tag : Tag} (h : tag.isCell = true) : tag.closesImplicitly = false := by
  cases tag <;> first | rfl | cases h

namespace Mode

theorem seeks_html (m : Mode) : m.seeks .html = false := by cases m <;> rfl

theorem stops_html (m : Mode) : m.stops .html = true := by cases m <;> rfl

/-- Rules for running text go with the ground or with a template alone. -/
theorem ignores_of_text {m : Mode}
    (hm : m.seeks = (fun tag => tag == .body || tag == .template) ∧ m.stops = (· == .html)) (tag : Tag) :
    tag.isGround = true ∨ m.seeks tag = false ∧ m.stops tag = false := by
  rw [hm.1, hm.2]
  by_cases hground : tag = .html ∨ tag = .body ∨ tag = .template
  · left
    rcases hground with rfl | rfl | rfl <;> rfl
  · right
    obtain ⟨hhtml, hbody, htemplate⟩ : tag ≠ .html ∧ tag ≠ .body ∧ tag ≠ .template := by
      simpa only [not_or] using hground
    simp [hhtml, hbody, htemplate]

/-- Rules under which most tags are misplaced. -/
def isOfTable : Mode → Bool
  | .inTable | .inTableBody | .inRow => true
  | _ => false

end Mode

namespace OpenElement

theorem not_ground_of_not_outer {e : OpenElement} (houter : e.has Tag.isOuter = false)
    (htemplate : e.named .template = false) : e.has Tag.isGround = false := by
  refine Bool.eq_false_iff.mpr fun hground => ?_
  obtain ⟨hspace, htag⟩ := has_iff.mp hground
  rw [has_of_space hspace] at houter
  rcases Tag.eq_of_isGround htag with heq | heq | heq
  · rw [heq] at houter
    cases houter
  · rw [heq] at houter
    cases houter
  · rw [named_iff.mpr ⟨hspace, heq⟩] at htemplate
    cases htemplate

end OpenElement

namespace Construction

open OpenElement

variable {a old : Arena} {ground opens : List OpenElement} {m : Mode} {c c' : Construction} {s : StartTag}

/-! ### What the rules go with -/

/-- The element that the rules go with stands above the ground, unless it is of the ground. -/
theorem Above.exists_fit (hground : IsGround a ground) (h : Above ground opens) (hfits : Fits m opens)
    (htemplate : m.seeks .template = true ∨ m.stops .template = true) :
    ∃ front x rest, opens = front ++ x :: rest ∧ (∀ e ∈ front, e.has Tag.isGround = false ∧ m.Ignores e) ∧
      x.has m.seeks = true := by
  have hfirst : ∀ {e : OpenElement} {es : List OpenElement}, Fits m (e :: es) → e.has m.seeks = false →
      e.has m.stops = false ∧ Fits m es := by
    intro e es hfits hmiss
    rw [Fits, reaches, hmiss, if_neg Bool.false_ne_true] at hfits
    by_cases hstop : e.has m.stops = true
    · rw [if_pos hstop] at hfits
      cases hfits
    · rw [if_neg hstop] at hfits
      exact ⟨Bool.eq_false_iff.mpr hstop, hfits⟩
  have hnotTemplate : ∀ {e : OpenElement}, e.has m.seeks = false → e.has m.stops = false →
      e.named .template = false := by
    intro e hseeks hstops
    refine Bool.eq_false_iff.mpr fun hnamed => ?_
    rw [has_of_named hnamed] at hseeks hstops
    rcases htemplate with heq | heq
    · rw [heq] at hseeks
      cases hseeks
    · rw [heq] at hstops
      cases hstops
  induction h with
  | ground =>
    cases hground with
    | @body b r hb hr =>
      by_cases hseeks : b.has m.seeks = true
      · exact ⟨[], b, [r], rfl, List.forall_mem_nil _, hseeks⟩
      · obtain ⟨-, hrest⟩ := hfirst hfits (Bool.eq_false_iff.mpr hseeks)
        obtain ⟨hstops, -⟩ := hfirst hrest ((has_of_named hr).trans m.seeks_html)
        rw [has_of_named hr, m.stops_html] at hstops
        cases hstops
    | @template t outer ht =>
      by_cases hseeks : t.has m.seeks = true
      · exact ⟨[], t, outer, rfl, List.forall_mem_nil _, hseeks⟩
      · have hmiss := Bool.eq_false_iff.mpr hseeks
        have hnot := hnotTemplate hmiss (hfirst hfits hmiss).1
        rw [ht] at hnot
        cases hnot
  | @inner e es houter h ih =>
    by_cases hseeks : e.has m.seeks = true
    · exact ⟨[], e, es, rfl, List.forall_mem_nil _, hseeks⟩
    · have hmiss := Bool.eq_false_iff.mpr hseeks
      obtain ⟨hstops, hrest⟩ := hfirst hfits hmiss
      obtain ⟨front, x, rest, rfl, hfront, hx⟩ := ih hrest
      refine ⟨e :: front, x, rest, rfl, List.forall_mem_cons.mpr ⟨⟨?_, hmiss, hstops⟩, hfront⟩, hx⟩
      exact not_ground_of_not_outer houter (hnotTemplate hmiss hstops)

theorem popThrough_eq {target : OpenElement → Bool} {front rest : List OpenElement} {x : OpenElement}
    (hopens : c.opens = front ++ x :: rest) (hfront : ∀ e ∈ front, target e = false) (hx : target x = true) :
    c.popThrough target = { c with opens := rest } := by
  rw [popThrough, hopens, dropWhile_front hfront hx, List.tail_cons]

namespace Inside

/-- What is in a scope that templates bound stands above the ground. -/
theorem exists_scoped (h : c.Inside old ground m) {target barrier : OpenElement → Bool}
    (hbarrier : ∀ e, e.named .template = true → barrier e = true)
    (htarget : ∀ e, target e = true → e.has Tag.isGround = false)
    (hreach : reaches target barrier c.opens = true) :
    ∃ front x rest, c.opens = front ++ x :: rest ∧
      (∀ e ∈ front, target e = false ∧ barrier e = false ∧ e.has Tag.isGround = false) ∧ target x = true := by
  obtain ⟨-, hstack⟩ := h.1
  obtain ⟨front, x, rest, hopens, hfront, hx, -, houter⟩ :=
    hstack.above.exists_of_reaches hstack.firm hbarrier (fun e _ => htarget e) hreach
  refine ⟨front, x, rest, hopens, fun e he => ⟨(hfront e he).1, (hfront e he).2, ?_⟩, hx⟩
  refine not_ground_of_not_outer (houter e (List.mem_append_left _ he)) (Bool.eq_false_iff.mpr fun ht => ?_)
  exact Bool.eq_false_iff.mp (hfront e he).2 (hbarrier e ht)

/-- The stack is cut down to the element that the rules go with. -/
theorem popTo (h : c.Inside old ground m) {p : Tag → Bool}
    (htemplate : m.seeks .template = true ∨ m.stops .template = true)
    (hseeks : ∀ tag, m.seeks tag = true → p tag = true)
    (hp : ∀ tag, p tag = true → m.seeks tag = true ∨ m.stops tag = true) :
    (c.popTo p).Inside old ground m ∧ ∃ x rest, (c.popTo p).opens = x :: rest ∧ x.has m.seeks = true := by
  obtain ⟨front, x, rest, hopens, hfront, hx⟩ :=
    h.1.2.above.exists_fit h.1.2.firm h.2.2 htemplate
  have hmiss : ∀ e ∈ front, e.has p = false := fun e he => Bool.eq_false_iff.mpr fun hhas => by
    obtain ⟨hspace, htag⟩ := has_iff.mp hhas
    rcases hp _ htag with heq | heq
    · exact Bool.eq_false_iff.mp (hfront e he).2.seeks (has_iff.mpr ⟨hspace, heq⟩)
    · exact Bool.eq_false_iff.mp (hfront e he).2.stops (has_iff.mpr ⟨hspace, heq⟩)
  have hcut : c.popTo p = { c with opens := x :: rest } := by
    rw [Construction.popTo, hopens, dropWhile_front hmiss (has_mono hseeks hx)]
  rw [hcut]
  exact ⟨h.dropFront hopens hfront, x, rest, rfl, hx⟩

/-- The rules that fit what stays open are in force. -/
theorem resetMode (h : c.Inside old ground m) {front rest : List OpenElement} (hopens : c.opens = front ++ rest)
    (hfront : ∀ e ∈ front, e.has Tag.isGround = false) :
    { c with opens := rest }.resetMode.Leads old ground := by
  obtain ⟨⟨hgrows, hstack⟩, -⟩ := h
  rw [hopens] at hstack
  have hrest := hstack.drop hfront
  have hkept : { c with opens := rest }.Grows old :=
    hgrows.ofSubset fun e he => hopens ▸ List.mem_append_right front he
  exact .inside ⟨⟨hkept, hrest⟩, rfl, fits_fittingMode hrest.firm hrest.above hrest.turned⟩

/-! ### Parts of tables -/

/-- A part of a table is opened right on what it stands on. -/
theorem openPart (h : c.Inside old ground m) {x : OpenElement} {rest : List OpenElement}
    (hopens : c.opens = x :: rest) (tag : Tag) (hpart : tag.isPart = true) (hx : x.has tag.standsOn = true)
    (attrs : Attributes) :
    (c.openElement .html tag attrs).1.Rests old ground ∧
      ∃ e, (c.openElement .html tag attrs).1.opens = e :: c.opens ∧ e.named tag = true := by
  have hfree : (CellSort.element .html tag).isScaffold = false := by
    change tag.isScaffold = false
    cases tag <;> first | rfl | cases hpart
  obtain ⟨⟨hgrows, hstack⟩, -⟩ := h
  obtain ⟨hopened, -, hmodes, hhead⟩ := same_openElement c .html tag attrs
  rw [hopens] at hstack
  have hpushed := hstack.push_part (e := ⟨(c.openElement .html tag attrs).2, .html, tag⟩) hpart hx
  refine ⟨⟨(hgrows.openElement .html hfree attrs).1, ?_⟩, _, hopened, named_iff.mpr ⟨rfl, rfl⟩⟩
  rw [hopened, hmodes, hhead, hopens]
  exact hpushed

/-- The rules for a part of a table are in force in it. -/
theorem openPart_seeks (h : c.Inside old ground m) {x : OpenElement} {rest : List OpenElement}
    (hopens : c.opens = x :: rest) (tag : Tag) (hpart : tag.isPart = true) (hx : x.has tag.standsOn = true)
    (attrs : Attributes) {next : Mode} (hnext : next.seeks tag = true) :
    { (c.openElement .html tag attrs).1 with mode := next }.Inside old ground next := by
  obtain ⟨hrests, e, hopened, hnamed⟩ := h.openPart hopens tag hpart hx attrs
  refine ⟨hrests, rfl, ?_⟩
  change Fits next (c.openElement .html tag attrs).1.opens
  rw [hopened]
  exact fits_of_current ((has_of_named hnamed).trans hnext) _

/-- Rules for running text are in force in some parts of a table. -/
theorem openPart_text (h : c.Inside old ground m) {x : OpenElement} {rest : List OpenElement}
    (hopens : c.opens = x :: rest) (tag : Tag) (hpart : tag.isPart = true) (hx : x.has tag.standsOn = true)
    (attrs : Attributes) {next : Mode}
    (hnext : next.seeks = (fun tag => tag == .body || tag == .template) ∧ next.stops = (· == .html)) :
    { (c.openElement .html tag attrs).1 with mode := next }.Inside old ground next := by
  obtain ⟨hrests, -⟩ := h.openPart hopens tag hpart hx attrs
  exact ⟨hrests, rfl, fits_of_above hrests.2.firm hrests.2.above hnext⟩

/-- When a part of a table has been closed, the rules fit that go with what it stood on. -/
theorem closePart (h : c.Inside old ground m) {front rest : List OpenElement} {x : OpenElement}
    (hopens : c.opens = front ++ x :: rest) (hfront : ∀ e ∈ front, e.has Tag.isGround = false)
    (hx : x.has Tag.isPart = true) {next : Mode}
    (hnext : ∀ tag, x.tag.standsOn tag = true → next.seeks tag = true) (hgrows : c'.Grows old)
    (hopens' : c'.opens = rest) (hmode : c'.mode = next) (hmodes : c'.templateModes = c.templateModes)
    (hhead : c'.head = c.head) : c'.Inside old ground next := by
  obtain ⟨⟨-, hstack⟩, -⟩ := h
  rw [hopens] at hstack
  have hxGround : x.has Tag.isGround = false := by
    obtain ⟨hspace, htag⟩ := has_iff.mp hx
    rw [has_of_space hspace]
    exact Tag.isGround_of_isPart htag
  have hrest : Stack old ground rest c.templateModes c.head := by
    rw [List.append_cons] at hstack
    exact hstack.drop (List.forall_mem_append.mpr ⟨hfront, List.forall_mem_singleton.mpr hxGround⟩)
  obtain ⟨below, others, hbelow, hon⟩ := hstack.framed.drop.exists_below (hrest.above.ne_nil hrest.firm) hx
  refine ⟨⟨hgrows, ?_⟩, hmode, ?_⟩
  · rw [hopens', hmodes, hhead]
    exact hrest
  · rw [hopens', hbelow]
    exact fits_of_current (has_mono hnext hon) others

end Inside

/-! ### Inside tables -/

theorem Leads.withFostering (h : c.Leads old ground) (fostering : Bool) :
    { c with fostering := fostering }.Leads old ground := by
  cases h with
  | inside h => exact .inside h
  | raw hmode hopens hspace hgrows h => exact .raw hmode hopens hspace hgrows h
  | kept hmode hcurrent h => exact .kept hmode hcurrent h
  | closed ht hground h => exact .closed ht hground h
  | frames h => exact .frames h

/-- Text that was kept back is put as it is or like any text that is misplaced. -/
theorem Grows.flushTableText (h : c.Grows old) : Reopens old c c.flushTableText := by
  have hempty : Reopens old c { c with tableText := [] } := ⟨h, ⟨rfl, rfl, rfl⟩, [], rfl, List.forall_mem_nil _⟩
  unfold Construction.flushTableText
  dsimp only
  split
  · exact List.foldlRecOn _ _ hempty fun c' h ch _ => h.putChar ch
  · refine List.foldlRecOn _ _ hempty fun c' h ch _ => ?_
    have hfostered : Reopens old c { c' with fostering := true } := ⟨h.grows, h.rules, h.opens⟩
    have hplaced := hfostered.charInBody ch
    exact ⟨hplaced.grows, hplaced.rules, hplaced.opens⟩

/-- The text kept back goes to its place. -/
theorem Inside.flushTableText (h : { c with mode := c.returnMode }.Inside old ground m) :
    { c.flushTableText with mode := c.returnMode }.Inside old ground m := by
  have hflushed := Grows.flushTableText (c := c) h.grows
  exact h.ofReopens ⟨hflushed.grows, ⟨rfl, hflushed.rules.2⟩, hflushed.opens⟩

/-- The text kept back waits until something else comes. -/
theorem Inside.inTableText (h : { c with mode := c.returnMode }.Inside old ground m) (hmode : c.mode = .inTableText)
    (hcurrent : c.currentHas Tag.isTablePart = true) (t : Token) : (c.inTableText t).1.Leads old ground := by
  unfold Construction.inTableText
  split
  · split
    · exact .kept hmode hcurrent h
    · exact .kept hmode hcurrent h
  · exact .inside h.flushTableText

namespace Running

theorem misplaced (h : c.Running old ground m) {t : Token} (ht : t.IsReadable)
    (hfree : ∀ tag, t = .endTag tag → tag.isGround = true ∨ m.seeks tag = false ∧ m.stops tag = false) :
    (c.misplaced t).1.Leads old ground := by
  have hbody := Running.inBody (c := { c with fostering := true }) h ht hfree
  unfold Construction.misplaced
  generalize Construction.inBody { c with fostering := true } t = placed at hbody
  exact hbody.withFostering false

theorem charInTable (h : c.Running old ground m) (ch : Char) : (c.charInTable (.char ch)).1.Leads old ground := by
  refine .ofIte (fun hcurrent => .kept (m := m) rfl hcurrent ?_) fun _ => h.misplaced trivial fun _ heq => ?_
  · exact ⟨h.1.1, h.1.2⟩
  · cases heq

end Running

namespace Inside

theorem popToTable (h : c.Inside old ground .inTable) :
    c.popToTable.Inside old ground .inTable ∧
      ∃ x rest, c.popToTable.opens = x :: rest ∧ x.has (Mode.seeks .inTable) = true := by
  refine h.popTo (.inl rfl) (fun tag htag => ?_) fun tag htag => ?_
  · rcases Bool.or_eq_true_iff.mp htag with heq | heq <;> rw [eq_of_beq heq] <;> rfl
  · cases tag <;> first | exact .inl rfl | exact .inr rfl | cases htag

theorem popToBodyContext (h : c.Inside old ground .inTableBody) :
    c.popToBodyContext.Inside old ground .inTableBody ∧
      ∃ x rest, c.popToBodyContext.opens = x :: rest ∧ x.has (Mode.seeks .inTableBody) = true := by
  refine h.popTo (.inl rfl) (fun tag htag => ?_) fun tag htag => ?_
  · cases tag <;> first | rfl | cases htag
  · cases tag <;> first | exact .inl rfl | exact .inr rfl | cases htag

theorem popToRowContext (h : c.Inside old ground .inRow) :
    c.popToRowContext.Inside old ground .inRow ∧
      ∃ x rest, c.popToRowContext.opens = x :: rest ∧ x.has (Mode.seeks .inRow) = true := by
  refine h.popTo (.inl rfl) (fun tag htag => ?_) fun tag htag => ?_
  · rcases Bool.or_eq_true_iff.mp htag with heq | heq <;> rw [eq_of_beq heq] <;> rfl
  · cases tag <;> first | exact .inl rfl | exact .inr rfl | cases htag

/-- A table that is in scope is closed with all that is open inside. -/
theorem closeTable (h : c.Inside old ground m) (hreach : c.tagInTableScope .table = true) :
    (c.popThroughTag .table).resetMode.Leads old ground := by
  have htemplate : ∀ e : OpenElement, e.named .template = true → e.has Tag.isTableScopeBarrier = true :=
    fun e he => (has_of_named he).trans rfl
  have htable : ∀ e : OpenElement, e.has (· == .table) = true → e.has Tag.isGround = false := fun e he =>
    has_of_named he
  obtain ⟨front, x, rest, hopens, hfront, hx⟩ := h.exists_scoped htemplate htable hreach
  have hcut : c.popThroughTag .table = { c with opens := rest } :=
    popThrough_eq hopens (fun e he => (hfront e he).1) hx
  rw [hcut]
  rw [List.append_cons] at hopens
  exact h.resetMode hopens (List.forall_mem_append.mpr
    ⟨fun e he => (hfront e he).2.2, List.forall_mem_singleton.mpr (htable x hx)⟩)

end Inside

namespace Running

theorem startInTable (h : c.Running old ground m) (hs : (Token.startTag s).IsReadable)
    (hparts : m = .inTable ∨ endsCaption s.tag = false) : (c.startInTable s).1.Leads old ground := by
  have hmisplaced : (c.misplaced (.startTag s)).1.Leads old ground :=
    h.misplaced hs fun _ heq => Token.noConfusion heq
  have hcut : endsCaption s.tag = true → c.popToTable.Inside old ground .inTable ∧
      ∃ x rest, c.popToTable.opens = x :: rest ∧ x.has (Mode.seeks .inTable) = true := by
    intro hends
    obtain rfl := hparts.resolve_right (by rw [hends]; exact Bool.noConfusion)
    exact h.1.popToTable
  obtain ⟨tag, attrs, selfClosing⟩ := s
  have hpart : endsCaption tag = true → ∀ (own : Tag) {attrs : Attributes} {next : Mode}, own.isPart = true →
      (∀ t, Mode.seeks .inTable t = true → own.standsOn t = true) → next.seeks own = true →
      { (c.popToTable.openElement .html own attrs).1 with mode := next }.Leads old ground := by
    intro hends own attrs next hown hon hnext
    obtain ⟨hcut, x, rest, hopens, hx⟩ := hcut hends
    exact .inside (hcut.openPart_seeks hopens own hown (has_mono hon hx) attrs hnext)
  unfold Construction.startInTable
  dsimp only
  split
  · obtain ⟨hcut, x, rest, hopens, hx⟩ := hcut rfl
    exact .inside (hcut.pushMarker.openPart_text hopens .caption rfl hx _ ⟨rfl, rfl⟩)
  · obtain ⟨hcut, x, rest, hopens, hx⟩ := hcut rfl
    exact .inside (hcut.openPart_text hopens .colgroup rfl hx _ ⟨rfl, rfl⟩)
  · obtain ⟨hcut, x, rest, hopens, hx⟩ := hcut rfl
    exact .inside (hcut.openPart_text hopens .colgroup rfl hx _ ⟨rfl, rfl⟩)
  · exact hpart rfl .tbody rfl (fun _ ht => ht) rfl
  · exact hpart rfl .tfoot rfl (fun _ ht => ht) rfl
  · exact hpart rfl .thead rfl (fun _ ht => ht) rfl
  · exact hpart rfl .tbody rfl (fun _ ht => ht) rfl
  · exact hpart rfl .tbody rfl (fun _ ht => ht) rfl
  · exact hpart rfl .tbody rfl (fun _ ht => ht) rfl
  · exact .ofIte (fun hreach => h.1.closeTable hreach) fun _ => h.leads
  · exact h.1.startHeadContent rfl
  · exact h.1.startHeadContent rfl
  · exact h.1.startHeadContent rfl
  · refine .ofIte (fun _ => ?_) fun _ => hmisplaced
    exact (h.insertVoid (t := ⟨.input, attrs, selfClosing⟩) rfl).leads
  · refine .ofIte (fun _ => ?_) fun _ => h.leads
    have hfree : (CellSort.element .html .form).isScaffold = false := rfl
    obtain ⟨hput, hsort⟩ := h.grows.putElement .html hfree (htmlAttrs ⟨.form, attrs, selfClosing⟩)
    obtain ⟨hopens, hrules⟩ := same_putElement c .html .form (htmlAttrs ⟨.form, attrs, selfClosing⟩)
    exact .inside (h.1.keep (hput.withForm hsort) hopens hrules)
  · exact hmisplaced

theorem endInTable (h : c.Running old ground m) (hm : m.isOfTable = true) (tag : Tag) :
    (c.endInTable tag).1.Leads old ground := by
  unfold Construction.endInTable
  split
  · by_cases hreach : c.tagInTableScope .table = true
    · rw [if_pos hreach]
      exact h.1.closeTable hreach
    · rw [if_neg hreach]
      exact h.leads
  case h_13 => exact h.1.closeTemplate
  case h_14 =>
    refine h.misplaced trivial fun own heq => .inr ?_
    cases heq
    cases m
    all_goals try cases hm
    all_goals cases tag <;> first | exact ⟨rfl, rfl⟩ | contradiction
  all_goals exact h.leads

/-- The rules of a table, which those of its rows fall back on. -/
theorem inTable (h : c.Running old ground m) (hm : m.isOfTable = true) {t : Token} (ht : t.IsReadable)
    (hparts : ∀ s, t = .startTag s → m = .inTable ∨ endsCaption s.tag = false) :
    (c.inTable t).1.Leads old ground := by
  unfold Construction.inTable
  split
  · exact h.charInTable _
  · exact .inside (h.1.putComment _)
  · exact h.startInTable ht (hparts _ rfl)
  · exact h.endInTable hm _
  · exact h.inBody trivial fun _ heq => Token.noConfusion heq
  · exact h.leads

end Running

namespace Inside

/-- A part of a table that is in scope is closed with all that is open inside. -/
theorem closeScopedPart (h : c.Inside old ground m) {p q : Tag → Bool} {next : Mode}
    (hpart : ∀ tag, q tag = true → tag.isPart = true ∧ p tag = false)
    (hnext : ∀ tag below, q tag = true → tag.standsOn below = true → next.seeks below = true)
    (hreach : c.inTableScope q = true) :
    { ((c.popImplied p).popThrough (·.has q)).clearToMarker with mode := next }.Inside old ground next := by
  have htemplate : ∀ e : OpenElement, e.named .template = true → e.has Tag.isTableScopeBarrier = true :=
    fun e he => (has_of_named he).trans rfl
  have hground : ∀ e : OpenElement, e.has q = true → e.has Tag.isGround = false := by
    intro e he
    obtain ⟨hspace, htag⟩ := has_iff.mp he
    rw [has_of_space hspace]
    exact Tag.isGround_of_isPart (hpart _ htag).1
  obtain ⟨front, x, rest, hopens, hfront, hx⟩ := h.exists_scoped htemplate hground hreach
  obtain ⟨hspace, htag⟩ := has_iff.mp hx
  have hclosed := opens_popThrough (p := p) hopens (fun e he => (hfront e he).1) hx
    ((has_of_space hspace).trans (hpart _ htag).2)
  exact h.closePart hopens (fun e he => (hfront e he).2.2) ((has_of_space hspace).trans (hpart _ htag).1)
    (fun below => hnext _ below htag) (h.grows.popThrough p _).clearToMarker hclosed rfl rfl rfl

/-- A group of columns is closed where it is the current element. -/
theorem closeColumns (h : c.Inside old ground m) (hcurrent : c.currentIs .colgroup = true) :
    { c.pop with mode := .inTable }.Inside old ground .inTable := by
  unfold currentIs at hcurrent
  split at hcurrent
  · rename_i e rest hopens
    have hpop : c.pop.opens = rest := congrArg List.tail hopens
    have htag := (named_iff.mp hcurrent).2
    exact h.closePart (List.nil_append _ ▸ hopens) (List.forall_mem_nil _) ((has_of_named hcurrent).trans rfl)
      (by rw [htag]; exact fun _ hon => hon) (h.grows.ofSubset fun _ he => List.mem_of_mem_tail he) hpop rfl rfl rfl
  · cases hcurrent

/-- The part of a table that the rules go with is closed where a scope shows that it is not a template. -/
theorem closeFit (h : c.Inside old ground m) {p q : Tag → Bool} {next : Mode}
    (hseeks : ∀ tag, m.seeks tag = true → tag = .template ∨ tag.isPart = true ∧ p tag = true ∧
      ∀ below, tag.standsOn below = true → next.seeks below = true)
    (htemplate : m.seeks .template = true ∧ q .template = false)
    (hbarrier : ∀ tag, p tag = true ∨ q tag = true ∨ tag.isTableScopeBarrier = true →
      m.seeks tag = true ∨ m.stops tag = true)
    (hreach : c.inTableScope q = true) : { (c.popTo p).pop with mode := next }.Inside old ground next := by
  obtain ⟨front, x, rest, hopens, hfront, hx⟩ := h.1.2.above.exists_fit h.1.2.firm h.2.2 (.inl htemplate.1)
  obtain ⟨hspace, htag⟩ := has_iff.mp hx
  have hmiss : ∀ own : Tag → Bool, (∀ tag, own tag = true → m.seeks tag = true ∨ m.stops tag = true) →
      ∀ e ∈ front, e.has own = false := by
    intro own hown e he
    refine Bool.eq_false_iff.mpr fun hhas => ?_
    obtain ⟨hspace, htag⟩ := has_iff.mp hhas
    rcases hown _ htag with heq | heq
    · exact Bool.eq_false_iff.mp (hfront e he).2.seeks (has_iff.mpr ⟨hspace, heq⟩)
    · exact Bool.eq_false_iff.mp (hfront e he).2.stops (has_iff.mpr ⟨hspace, heq⟩)
  have hpart := hseeks _ htag
  have hnotTemplate : x.tag ≠ .template := by
    intro heq
    have hscope : ∀ e ∈ front, e.has q = false ∧ e.has Tag.isTableScopeBarrier = false := fun e he =>
      ⟨hmiss q (fun tag hq => hbarrier tag (.inr (.inl hq))) e he,
        hmiss _ (fun tag hbound => hbarrier tag (.inr (.inr hbound))) e he⟩
    rw [inTableScope, hopens, reaches_append hscope, reaches, has_of_space hspace, has_of_space hspace, heq,
      htemplate.2] at hreach
    cases hreach
  obtain ⟨hisPart, hxp, hon⟩ := hpart.resolve_left hnotTemplate
  have hpop : ((c.popTo p).pop).opens = rest := congrArg Construction.opens (popThrough_eq hopens
    (hmiss p fun tag hp => hbarrier tag (.inl hp)) ((has_of_space hspace).trans hxp))
  refine h.closePart hopens (fun e he => (hfront e he).1) ((has_of_space hspace).trans hisPart) hon ?_ hpop rfl rfl rfl
  exact h.grows.ofSubset fun e he => (List.dropWhile_sublist _).subset (List.mem_of_mem_tail he)

end Inside

namespace Running

theorem endCaption (h : c.Running old ground m) (hreach : c.tagInTableScope .caption = true) :
    { c.endCaption with mode := .inTable }.Inside old ground .inTable := by
  refine h.1.closeScopedPart (p := Tag.closesImplicitly) (q := (· == .caption)) (fun tag htag => ?_)
    (fun tag below htag hon => ?_) hreach
  · obtain rfl := eq_of_beq htag
    exact ⟨rfl, rfl⟩
  · obtain rfl := eq_of_beq htag
    exact hon

theorem inCaption (h : c.Running old ground .inCaption) {t : Token} (ht : t.IsReadable) :
    (c.inCaption t).1.Leads old ground := by
  have hbody : (c.inBody t).1.Leads old ground := h.inBody ht fun tag _ => Mode.ignores_of_text ⟨rfl, rfl⟩ tag
  unfold Construction.inCaption
  split
  · exact .ofIte (fun _ => .ofIte (fun hreach => .inside (h.endCaption hreach)) fun _ => h.leads) fun _ => hbody
  · refine .ofIte (fun _ => .ofIte (fun _ => h.leads) fun hreach => ?_) fun _ => ?_
    · have hopen : c.tagInTableScope .caption = true := by simpa using hreach
      exact .ofIte (fun _ => .inside (h.endCaption hopen)) fun _ => .inside (h.endCaption hopen)
    · exact .ofIte (fun _ => h.leads) fun _ => hbody
  · exact hbody

theorem endColumnGroup (h : c.Running old ground m) : c.endColumnGroup.1.Leads old ground := by
  refine .ofIte (fun hcurrent => .inside (m := .inTable) ?_) fun _ => h.leads
  exact h.1.closeColumns hcurrent

theorem inColumnGroup (h : c.Running old ground .inColumnGroup) {t : Token} (ht : t.IsReadable) :
    (c.inColumnGroup t).1.Leads old ground := by
  unfold Construction.inColumnGroup
  split
  · exact .ofIte (fun _ => (h.putChar _).leads) fun _ => h.endColumnGroup
  · exact .inside (h.1.putComment _)
  · rename_i s
    refine .ofIte (fun _ => .inside (h.1.mergeRoot s)) fun _ => ?_
    refine .ofIte (fun hcol => (h.insertVoid (by rw [hcol]; rfl)).leads) fun _ => ?_
    exact .ofIte (fun htemplate => h.1.startHeadContent (by rw [htemplate]; rfl)) fun _ => h.endColumnGroup
  · refine .ofIte (fun _ => ?_) fun _ => ?_
    · by_cases hcurrent : c.currentIs .colgroup = true
      · rw [if_pos hcurrent]
        exact .inside (h.1.closeColumns hcurrent)
      · rw [if_neg hcurrent]
        exact h.leads
    · refine .ofIte (fun _ => h.leads) fun _ => ?_
      exact .ofIte (fun _ => h.1.closeTemplate) fun _ => h.endColumnGroup
  · exact h.inBody ht fun tag _ => Mode.ignores_of_text ⟨rfl, rfl⟩ tag
  · exact h.leads

theorem closeRows (h : c.Running old ground .inTableBody) {q : Tag → Bool} (htemplate : q .template = false)
    (hq : ∀ tag, q tag = true → tag = .table ∨ tag.isSection = true) (hreach : c.inTableScope q = true) :
    { c.popToBodyContext.pop with mode := .inTable }.Inside old ground .inTable := by
  refine h.1.closeFit (p := Tag.isTableBodyContext) (fun tag htag => ?_) ⟨rfl, htemplate⟩ (fun tag htag => ?_) hreach
  · cases tag <;> first | exact .inl rfl | exact .inr ⟨rfl, rfl, fun _ hon => hon⟩ | cases htag
  · rcases htag with htag | htag | htag
    · cases tag <;> first | exact .inl rfl | exact .inr rfl | cases htag
    · rcases hq tag htag with rfl | hsection
      · exact .inr rfl
      · exact .inl (Bool.or_eq_true_iff.mpr (.inl hsection))
    · cases tag <;> first | exact .inl rfl | exact .inr rfl | cases htag

theorem closeRow (h : c.Running old ground .inRow) (hreach : c.tagInTableScope .tr = true) :
    { c.popToRowContext.pop with mode := .inTableBody }.Inside old ground .inTableBody := by
  refine h.1.closeFit (p := Tag.isTableRowContext) (q := (· == .tr)) (fun tag htag => ?_) ⟨rfl, rfl⟩
    (fun tag htag => ?_) hreach
  · rcases Bool.or_eq_true_iff.mp htag with heq | heq <;> obtain rfl := eq_of_beq heq
    · exact .inr ⟨rfl, rfl, fun _ hon => hon⟩
    · exact .inl rfl
  · rcases htag with htag | htag | htag
    · cases tag <;> first | exact .inl rfl | exact .inr rfl | cases htag
    · obtain rfl := eq_of_beq htag
      exact .inl rfl
    · cases tag <;> first | exact .inl rfl | exact .inr rfl | cases htag

theorem leaveTableBody (h : c.Running old ground .inTableBody) : c.leaveTableBody.1.Leads old ground := by
  refine .ofIte (fun hreach => .inside (h.closeRows rfl (fun tag htag => ?_) hreach)) fun _ => h.leads
  cases tag <;> first | exact .inl rfl | exact .inr rfl | cases htag

theorem leaveRow (h : c.Running old ground .inRow) : c.leaveRow.1.Leads old ground :=
  .ofIte (fun hreach => .inside (h.closeRow hreach)) fun _ => h.leads

/-- The tags of a table around its rows and those in its rows are all that end a caption. -/
theorem endsCaption_eq (tag : Tag) : endsCaption tag = (endsTableBody tag || tag.isCell || tag == .tr) := by
  cases tag <;> rfl

theorem inTableBody (h : c.Running old ground .inTableBody) {t : Token} (ht : t.IsReadable) :
    (c.inTableBody t).1.Leads old ground := by
  obtain ⟨hcut, x, rest, hopens, hx⟩ := h.1.popToBodyContext
  unfold Construction.inTableBody
  split
  · refine .ofIte (fun hrow => .inside (hcut.openPart_seeks hopens _ ?_ ?_ _ ?_)) fun hrow => ?_
    · rw [hrow]
      rfl
    · rw [hrow]
      exact hx
    · rw [hrow]
      rfl
    refine .ofIte (fun _ => .inside (hcut.openPart_seeks hopens .tr rfl hx _ rfl)) fun hcell => ?_
    refine .ofIte (fun _ => h.leaveTableBody) fun hends => h.inTable rfl ht fun s heq => .inr ?_
    cases heq
    simp [endsCaption_eq, hrow, hcell, hends]
  · rename_i tag
    have htable : (c.inTable (.endTag tag)).1.Leads old ground := h.inTable rfl ht fun _ heq => Token.noConfusion heq
    refine .ofIte (fun hsection => ?_) fun _ => .ofIte (fun _ => h.leaveTableBody) fun _ => ?_
    · by_cases hreach : c.tagInTableScope tag = true
      · rw [if_pos hreach]
        refine .inside (h.closeRows (q := (· == tag)) ?_ (fun own hown => ?_) hreach)
        · refine beq_eq_false_iff_ne.mpr fun heq => ?_
          rw [← heq] at hsection
          cases hsection
        · rw [eq_of_beq hown]
          exact .inr hsection
      · rw [if_neg hreach]
        exact h.leads
    · split
      all_goals first | exact h.leads | exact htable
  · rename_i hstart _
    exact h.inTable rfl ht fun s heq => (hstart s heq).elim

theorem inRow (h : c.Running old ground .inRow) {t : Token} (ht : t.IsReadable) :
    (c.inRow t).1.Leads old ground := by
  obtain ⟨hcut, x, rest, hopens, hx⟩ := h.1.popToRowContext
  unfold Construction.inRow
  split
  · rename_i s
    refine .ofIte (fun hcell => ?_) fun hcell => ?_
    · have hon : x.has s.tag.standsOn = true :=
        has_mono (fun below hbelow => (Tag.standsOn_of_isCell hcell below).trans hbelow) hx
      have hopened : { c.popToRowContext.insert s with mode := .inCell }.Inside old ground .inCell :=
        hcut.openPart_seeks hopens s.tag (Tag.isPart_of_isCell hcell) hon (htmlAttrs s) hcell
      exact .inside hopened.pushMarker
    refine .ofIte (fun _ => h.leaveRow) fun hends => h.inTable rfl ht fun s heq => .inr ?_
    cases heq
    have hnot : endsTableBody s.tag = false ∧ ¬s.tag = .tr := by simpa using hends
    simp [endsCaption_eq, hcell, hnot]
  · rename_i tag
    have htable : (c.inTable (.endTag tag)).1.Leads old ground := h.inTable rfl ht fun _ heq => Token.noConfusion heq
    refine .ofIte (fun _ => ?_) fun _ => .ofIte (fun _ => h.leaveRow) fun _ => ?_
    · by_cases hreach : c.tagInTableScope .tr = true
      · rw [if_pos hreach]
        exact .inside (h.closeRow hreach)
      · rw [if_neg hreach]
        exact h.leads
    · refine .ofIte (fun _ => .ofIte (fun _ => h.leaveRow) fun _ => h.leads) fun _ => ?_
      split
      all_goals first | exact h.leads | exact htable
  · rename_i hstart _
    exact h.inTable rfl ht fun s heq => (hstart s heq).elim

theorem closeCell (h : c.Running old ground m) {q : Tag → Bool} (hq : ∀ tag, q tag = true → tag.isCell = true)
    (hreach : c.inTableScope q = true) :
    { (c.popImpliedEnds.popThrough (·.has q)).clearToMarker with mode := .inRow }.Inside old ground .inRow := by
  refine h.1.closeScopedPart (p := Tag.closesImplicitly) (fun tag htag => ⟨Tag.isPart_of_isCell (hq tag htag), ?_⟩)
    (fun tag below htag hon => (Tag.standsOn_of_isCell (hq tag htag) below).symm.trans hon) hreach
  exact Tag.closesImplicitly_of_isCell (hq tag htag)

theorem inCell (h : c.Running old ground .inCell) {t : Token} (ht : t.IsReadable) :
    (c.inCell t).1.Leads old ground := by
  have hfits : c.inTableScope Tag.isCell = true := by
    refine reaches_mono (fun e he => ?_) h.1.2.2
    refine has_mono (fun tag htag => ?_) he
    cases tag <;> first | rfl | cases htag
  have hleave : c.leaveCell.1.Leads old ground := .inside (h.closeCell (fun _ htag => htag) hfits)
  unfold Construction.inCell
  split
  · refine .ofIte (fun _ => .ofIte (fun _ => hleave) fun _ => h.leads) fun _ => ?_
    exact h.inBody ht fun _ heq => Token.noConfusion heq
  · rename_i tag
    refine .ofIte (fun hcell => ?_) fun hcell => ?_
    · by_cases hreach : c.tagInTableScope tag = true
      · rw [if_pos hreach]
        exact .inside (h.closeCell (q := (· == tag)) (fun own hown => by rw [eq_of_beq hown]; exact hcell) hreach)
      · rw [if_neg hreach]
        exact h.leads
    · refine .ofIte (fun _ => .ofIte (fun _ => hleave) fun _ => h.leads) fun htable => ?_
      have hnotTable : ¬tag = .table := by
        rintro rfl
        exact htable rfl
      split
      case h_6 =>
        refine h.inBody trivial fun own heq => ?_
        cases heq
        by_cases htemplate : tag = .template
        · exact .inl (htemplate ▸ rfl)
        · refine .inr ⟨Bool.eq_false_iff.mpr hcell, ?_⟩
          have hnotHtml : ¬tag = .html := ‹_›
          simp [Mode.stops, hnotTable, htemplate, hnotHtml]
      all_goals exact h.leads
  · rename_i _ hend
    exact h.inBody ht fun own heq => (hend own heq).elim

end Running

end Construction

end PageBlocks.Markup
