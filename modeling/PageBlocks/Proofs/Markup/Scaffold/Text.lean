import PageBlocks.Proofs.Markup.Scaffold.Templates

/-!
The rules for running text. Whatever they do with a token, the construction stands on its ground, unless
a template that is the ground is closed or a frameset replaces the body.
-/
namespace PageBlocks.Markup

namespace Tag

theorem isFixture_of_class {tag : Tag} (h : (tag.isBlock || tag.isHeading || tag.isFormatting ||
    tag.isEmbeddedScope || tag.isBodyVoid || tag.isMediaVoid) = true) : tag.isFixture = false := by
  cases tag <;> first | rfl | cases h

theorem isOuter_of_isHeadContent {tag : Tag} (h : tag.isHeadContent = true) : tag.isOuter = false := by
  cases tag <;> first | rfl | cases h

theorem isFixture_of_isClosableBlock {tag : Tag} (h : tag.isClosableBlock = true) : tag.isFixture = false := by
  cases tag <;> first | rfl | cases h

theorem closesImplicitly_of_isClosableBlock {tag : Tag} (h : tag.isClosableBlock = true) :
    tag.closesImplicitly = false := by
  cases tag <;> first | rfl | cases h

theorem not_isHeading_of_closesImplicitly {tag : Tag} (h : tag.closesImplicitly = true) :
    ¬tag.isHeading = true := by
  cases tag <;> first | exact Bool.false_ne_true | cases h

/-- What the rules for running text take for any other element. -/
theorem isFixture_of_other {tag : Tag} (hhead : ¬tag.isHeadContent = true)
    (houter : ¬(tag = .html ∨ tag = .body ∨ tag = .frameset)) (htable : tag ≠ .table)
    (hmisplaced : ¬tag.isMisplacedInBody = true) : tag.isFixture = false := by
  by_contra hfixture
  cases tag <;> first | exact hfixture rfl | exact hhead rfl | exact hmisplaced rfl | simp_all

end Tag

namespace Construction

open OpenElement

variable {old : Arena} {ground : List OpenElement} {m : Mode} {c : Construction} {s : StartTag}

/-! ### What start tags close -/

/-- The items that a new one closes. -/
def closedBy (tag : Tag) : List Tag := if tag = .li then [.li] else [.dd, .dt]

theorem isFixture_of_closedBy {tag own : Tag} (h : own ∈ closedBy tag) : own.isFixture = false := by
  unfold closedBy at h
  split at h
  · rw [List.mem_singleton.mp h]
    rfl
  · rcases List.mem_pair.mp h with rfl | rfl <;> rfl

/-- The item that a new one closes is reached through loose elements. -/
theorem exists_item {tag own : Tag} {es : List OpenElement} (h : itemToClose tag es = some own) :
    ∃ front x rest, es = front ++ x :: rest ∧ (∀ e ∈ front, e.named own = false ∧ e.IsLoose) ∧
      x.named own = true ∧ own ∈ closedBy tag := by
  induction es with
  | nil => cases h
  | cons e es ih =>
    have hcloses : (if tag = .li then e.named .li else e.named .dd || e.named .dt) =
        (closedBy tag).any (e.named ·) := by
      unfold closedBy
      split <;> simp
    rw [itemToClose, hcloses] at h
    split at h
    · rename_i hhit
      obtain ⟨t, ht, hnamed⟩ := List.any_eq_true.mp hhit
      cases h
      obtain rfl := (named_iff.mp hnamed).2
      exact ⟨[], e, es, rfl, List.forall_mem_nil _, hnamed, ht⟩
    · rename_i hmiss
      rw [List.any_eq_true] at hmiss
      split at h
      · cases h
      · rename_i hpass
        obtain ⟨front, x, rest, rfl, hfront, hx, hown⟩ := ih h
        have he : e.named own = false := Bool.eq_false_iff.mpr fun hnamed => hmiss ⟨own, hown, hnamed⟩
        refine ⟨e :: front, x, rest, rfl, List.forall_mem_cons.mpr ⟨⟨he, ?_⟩, hfront⟩, hx, hown⟩
        by_cases hspecial : e.isSpecial = true
        · have hexcept : ¬e.tag = .address → ¬e.tag = .div → e.tag = .p := by simpa [hspecial] using hpass
          have htag : e.tag = .address ∨ e.tag = .div ∨ e.tag = .p := by tauto
          refine isLoose_of_tag ?_
          rcases htag with htag | htag | htag <;> rw [htag] <;> rfl
        · exact isLoose_of_isSpecial (Bool.eq_false_iff.mpr hspecial)

theorem mem_of_body? {body : OpenElement} (h : c.body? = some body) : body ∈ c.opens := by
  unfold body? at h
  split at h
  · rename_i root e rest hreverse
    split at h
    · cases h
      rw [← List.mem_reverse, hreverse]
      exact List.mem_cons_of_mem root List.mem_cons_self
    · cases h
  · cases h

theorem Inside.mergeBody (h : c.Inside old ground m) (t : StartTag) : (c.mergeBody t).Inside old ground m := by
  unfold Construction.mergeBody
  split
  · rename_i body hbody
    split
    · exact h
    · exact h.keep (h.grows.addMissingAttrs (mem_of_body? hbody) (htmlAttrs t)) rfl ⟨rfl, rfl, rfl⟩
  · exact h

/-- Other rules are in force from now on. -/
theorem Inside.withMode (h : c.Inside old ground m) {next : Mode} (hfits : Fits next c.opens) :
    { c with mode := next }.Inside old ground next :=
  ⟨h.1, rfl, hfits⟩

/-- Rules for running text fit everywhere. -/
theorem Inside.withTextMode (h : c.Inside old ground m) {next : Mode}
    (hnext : next.seeks = (fun tag => tag == .body || tag == .template) ∧ next.stops = (· == .html)) :
    { c with mode := next }.Inside old ground next :=
  h.withMode (fits_of_above h.1.2.firm h.1.2.above hnext)

/-- Elements of other vocabularies matter neither to the stack nor to any rules. -/
theorem ignores_of_space {e : OpenElement} (h : e.space ≠ .html) (m : Mode) : e.IsLoose ∧ m.Ignores e :=
  ⟨isLoose_of_space h, has_eq_false_of_space h, has_eq_false_of_space h⟩

theorem Inside.insertIn (h : c.Inside old ground m) (space : Space) (hspace : space ≠ .html) {t : StartTag}
    {tag : Tag} (hbody : tag.toString ≠ "body") : (c.insertIn space t tag).Inside old ground m := by
  have hfree : (CellSort.element space tag).isScaffold = false := by
    have hno : (tag.toString == "body") = false := beq_eq_false_iff_ne.mpr hbody
    cases space <;> first | exact absurd rfl hspace | exact hno
  unfold Construction.insertIn
  dsimp only
  split
  · exact h.keep (h.grows.putElement space hfree _).1 (same_putElement c ..).1 (same_putElement c ..).2
  · exact h.openElement space hfree _ fun _ => ignores_of_space hspace m

namespace Running

theorem popCurrent (h : c.Running old ground m) {p : Tag → Bool} (hp : ∀ tag, p tag = true → tag.isFixture = false)
    (hcurrent : c.currentHas p = true) : c.pop.Running old ground m := by
  unfold currentHas at hcurrent
  split at hcurrent
  · rename_i e rest hopens
    have hdrop := h.dropCurrent hopens (isLoose_of_has hp hcurrent)
    have hrest : c.opens.tail = rest := by rw [hopens, List.tail_cons]
    rw [Construction.pop, hrest]
    exact hdrop
  · cases hcurrent

theorem startForm (h : c.Running old ground m) (hs : s.tag = .form) : (c.startForm s).Running old ground m := by
  have hinner : s.tag.IsInner := by rw [hs]; exact ⟨rfl, rfl⟩
  have hclosed := h.closeOpenParagraph
  obtain ⟨hgrows, hsort⟩ := hclosed.grows.openElement .html hinner.scaffold (htmlAttrs s)
  have hopened := hclosed.insert hinner
  unfold Construction.startForm
  dsimp only
  split
  · exact h
  · split
    · exact hopened
    · exact ⟨hopened.1.keep (hgrows.withForm (hsort.trans (by rw [hs]))) rfl ⟨rfl, rfl, rfl⟩, h.2⟩

theorem startItem (h : c.Running old ground m) (hs : s.tag.IsInner) : (c.startItem s).Running old ground m := by
  unfold Construction.startItem
  dsimp only
  split
  · rename_i own hitem
    obtain ⟨front, x, rest, hopens, hfront, hx, hown⟩ := exists_item hitem
    have hloose := isLoose_of_named hx (isFixture_of_closedBy hown)
    have hkept : x.has (fun t => t.closesImplicitly && t != own) = false := by
      rw [has_of_named hx, bne_self_eq_false, Bool.and_false]
    exact (h.noFrameset.closeFront hopens hfront hx hloose hkept).closeOpenParagraph.insert hs
  · exact h.noFrameset.closeOpenParagraph.insert hs

theorem startButton (h : c.Running old ground m) (hs : s.tag.IsInner) :
    (c.startButton s).Running old ground m := by
  have hclosed : (if c.tagInScope .button then c.popImpliedEnds.popThroughTag .button else c).Running
      old ground m :=
    choose (fun hreach => h.closeTag rfl rfl (fun _ hbound => hbound) hreach) fun _ => h
  exact (hclosed.reconstruct.insert hs).noFrameset

theorem startNobr (h : c.Running old ground m) (hs : s.tag.isReopened = true) :
    (c.startNobr s).Running old ground m := by
  have hclosed : (if c.reconstruct.tagInScope .nobr then (c.reconstruct.closeFormatting .nobr).reconstruct
      else c.reconstruct).Running old ground m :=
    choose (fun _ => (h.reconstruct.closeFormatting rfl).reconstruct) fun _ => h.reconstruct
  exact hclosed.insertFormatting hs

theorem startBodyVoid (h : c.Running old ground m) (hs : s.tag.IsInner) :
    (c.startBodyVoid s).Running old ground m :=
  choose (fun _ => h.reconstruct.insertVoid hs.scaffold) fun _ => (h.reconstruct.insertVoid hs.scaffold).noFrameset

theorem startRuby (h : c.Running old ground m) (hs : s.tag.IsInner) : (c.startRuby s).Running old ground m := by
  have hclosed : (if !c.tagInScope .ruby then c
      else if s.tag = .rb || s.tag = .rtc then c.popImpliedEnds
      else c.popImpliedEndsExcept .rtc).Running old ground m :=
    choose (fun _ => h) fun _ => choose (fun _ => h.popImpliedEnds) fun _ => h.popImpliedEndsExcept .rtc
  exact hclosed.insert hs

theorem startRawInBody (h : c.Running old ground m) (hs : s.tag.IsInner) :
    (c.startRawInBody s).1.Leads old ground := by
  unfold Construction.startRawInBody
  split
  · exact Inside.insertRaw (c := { c.noFrameset with skipsLineFeed := true }) h.1 hs.scaffold _
  · exact h.closeOpenParagraph.reconstruct.noFrameset.1.insertRaw hs.scaffold _
  · exact h.noFrameset.1.insertRaw hs.scaffold _
  · exact h.1.insertRaw hs.scaffold _

/-- A table is opened inside. -/
theorem startTable (h : c.Running old ground m) (hs : s.tag = .table) :
    (c.startTable s).Inside old ground .inTable := by
  have hfree : s.tag.isScaffold = false := by rw [hs]; rfl
  have hclosed : (if c.vintage then c else c.closeOpenParagraph).Running old ground m :=
    choose (fun _ => h) fun _ => h.closeOpenParagraph
  unfold Construction.startTable
  generalize (if c.vintage then c else c.closeOpenParagraph) = closed at hclosed
  obtain ⟨e, hnamed, hopened, -, hmodes, hhead⟩ := exists_insert closed s
  rw [hs] at hnamed
  obtain ⟨⟨hgrows, hstack⟩, -⟩ := hclosed.1
  refine ⟨⟨hgrows.insert hfree, ?_⟩, rfl, ?_⟩
  · have hpushed := hstack.push ((has_of_named hnamed).trans rfl) (hstack.framed.cons (has_of_named hnamed))
      ((has_of_named (p := (· == .template)) hnamed).trans rfl)
    rw [← hopened, ← hmodes, ← hhead] at hpushed
    exact hpushed
  · change Fits .inTable (closed.insert s).opens
    rw [hopened]
    exact fits_of_current ((has_of_named hnamed).trans rfl) _

theorem startSelect (h : c.Running old ground m) (hs : s.tag = .select) :
    (c.startSelect s).Leads old ground := by
  have hinner : s.tag.IsInner := by rw [hs]; exact ⟨rfl, rfl⟩
  have hopened := (h.reconstruct.insert hinner).noFrameset
  obtain ⟨e, hnamed, hopens, -⟩ := exists_insert c.reconstruct s
  rw [hs] at hnamed
  have hfits : Fits .inSelectInTable (c.reconstruct.insert s).opens := by
    rw [hopens]
    exact fits_of_current ((has_of_named hnamed).trans rfl) _
  unfold Construction.startSelect
  dsimp only
  split
  case h_6 => exact .inside (hopened.1.withTextMode ⟨rfl, rfl⟩)
  all_goals exact .inside (hopened.1.withMode hfits)

theorem startInBody (h : c.Running old ground m) (hs : s.tag.IsNamed) : (c.startInBody s).1.Leads old ground := by
  have hclass : (s.tag.isBlock || s.tag.isHeading || s.tag.isFormatting || s.tag.isEmbeddedScope ||
      s.tag.isBodyVoid || s.tag.isMediaVoid) = true → s.tag.IsInner := fun hclass =>
    hs.isInner (Tag.isFixture_of_class hclass)
  unfold Construction.startInBody
  dsimp only
  refine .ofIte (fun _ => .inside (h.1.mergeRoot s)) fun hhtml => ?_
  refine .ofIte (fun hhead => h.1.startHeadContent (Tag.IsNamed.isScaffold hs ?_)) fun hhead => ?_
  · exact Tag.isOuter_of_isHeadContent hhead
  refine .ofIte (fun _ => .inside (h.1.mergeBody s)) fun hbody => ?_
  refine .ofIte (fun hframeset => h.1.startFrameset hframeset) fun hframeset => ?_
  refine .ofIte (fun hblock => (h.closeOpenParagraph.insert (hclass (by simp [hblock]))).leads) fun _ => ?_
  refine .ofIte (fun hheading => ?_) fun _ => ?_
  · have hclosed := h.closeOpenParagraph
    refine (Running.insert (choose (fun hcurrent => ?_) fun _ => hclosed) (hclass (by simp [hheading]))).leads
    exact hclosed.popCurrent (fun tag htag => Tag.isFixture_of_class (by simp [htag])) hcurrent
  refine .ofIte (fun hpre => ?_) fun _ => ?_
  · exact .inside (h.closeOpenParagraph.insert
      (hs.isInner_of_mem [.pre, .listing] rfl (by simpa using hpre))).1
  refine .ofIte (fun hform => (h.startForm hform).leads) fun _ => ?_
  refine .ofIte (fun hitem => ?_) fun _ => ?_
  · exact (h.startItem (hs.isInner_of_mem [.li, .dd, .dt] rfl (by simpa [or_assoc] using hitem))).leads
  refine .ofIte (fun hplain => ?_) fun _ => ?_
  · exact (h.closeOpenParagraph.insert (hs.isInner_of_mem [.plaintext] rfl (by simpa using hplain))).leads
  refine .ofIte (fun hbutton => ?_) fun _ => ?_
  · exact (h.startButton (hs.isInner_of_mem [.button] rfl (by simpa using hbutton))).leads
  refine .ofIte (fun hlink => ?_) fun _ => ?_
  · exact (h.closeNestedLink.reconstruct.insertFormatting (by rw [hlink]; rfl)).leads
  refine .ofIte (fun hformatting => ?_) fun _ => ?_
  · exact (h.reconstruct.insertFormatting (by simp [Tag.isReopened, hformatting])).leads
  refine .ofIte (fun hnobr => (h.startNobr (by rw [hnobr]; rfl)).leads) fun _ => ?_
  refine .ofIte (fun hscope => ?_) fun _ => ?_
  · exact (h.reconstruct.insert (hclass (by simp [hscope]))).pushMarker.noFrameset.leads
  refine .ofIte (fun htable => .inside (h.startTable htable)) fun htable => ?_
  refine .ofIte (fun hvoid => (h.startBodyVoid (hclass (by simp [hvoid]))).leads) fun _ => ?_
  refine .ofIte (fun hvoid => (h.insertVoid (hclass (by simp [hvoid])).scaffold).leads) fun _ => ?_
  refine .ofIte (fun hrule => ?_) fun _ => ?_
  · exact (h.closeOpenParagraph.insertVoid (by rw [hrule]; rfl)).noFrameset.leads
  refine .ofIte (fun _ => (h.startBodyVoid (s := { s with tag := .img }) ⟨rfl, rfl⟩).leads) fun _ => ?_
  refine .ofIte (fun hraw => ?_) fun _ => ?_
  · exact h.startRawInBody (hs.isInner_of_mem [.textarea, .xmp, .iframe, .noembed, .noscript] rfl
      (by simpa [or_assoc] using hraw))
  refine .ofIte (fun hselect => h.startSelect hselect) fun _ => ?_
  refine .ofIte (fun hoption => ?_) fun _ => ?_
  · refine (Running.insert (Running.reconstruct (choose (fun hcurrent => ?_) fun _ => h))
      (hs.isInner_of_mem [.optgroup, .option] rfl (by simpa using hoption))).leads
    exact h.popCurrent (p := (· == .option)) (fun tag htag => by rw [eq_of_beq htag]; rfl) hcurrent
  refine .ofIte (fun hruby => ?_) fun _ => ?_
  · exact (h.startRuby (hs.isInner_of_mem [.rb, .rtc, .rp, .rt] rfl (by simpa [or_assoc] using hruby))).leads
  refine .ofIte (fun hmath => ?_) fun _ => ?_
  · exact .inside (h.1.insertIn .mathml Space.noConfusion (by rw [hmath]; decide))
  refine .ofIte (fun hsvg => ?_) fun _ => ?_
  · exact .inside (h.1.insertIn .svg Space.noConfusion (by rw [hsvg]; decide))
  refine .ofIte (fun _ => h.leads) fun hmisplaced => ?_
  refine (h.reconstruct.insert (hs.isInner (Tag.isFixture_of_other hhead ?_ htable hmisplaced))).leads
  rintro (heq | heq | heq)
  · exact hhtml heq
  · exact hbody heq
  · exact hframeset heq

/-! ### What end tags close -/

theorem endBlock (h : c.Running old ground m) {tag : Tag} (htag : tag.isFixture = false)
    (hclose : tag.closesImplicitly = false) : (c.endBlock tag).Running old ground m :=
  choose (fun hreach => h.closeTag htag hclose (fun _ hbound => hbound) hreach) fun _ => h

theorem endForm (h : c.Running old ground m) : c.endForm.Running old ground m := by
  unfold Construction.endForm
  refine choose (fun _ => h.endBlock rfl rfl) fun _ => ?_
  split
  · exact h
  · rename_i form hform
    have hgrows : { c with form := none }.Grows old :=
      ⟨{ h.grows.1 with form := fun _ hnone => by cases hnone }, h.grows.2⟩
    have hforgot : { c with form := none }.Running old ground m := ⟨h.1.keep hgrows rfl ⟨rfl, rfl, rfl⟩, h.2⟩
    refine choose (fun _ => hforgot.popImpliedEnds.removeOpen ?_) fun _ => hforgot
    exact hforgot.popImpliedEnds.grows.isLoose_of_id (h.grows.1.form form hform) rfl

theorem endItem (h : c.Running old ground m) {tag : Tag} (htag : tag.isFixture = false) :
    (c.endItem tag).Running old ground m := by
  have hkept : (tag.closesImplicitly && tag != tag) = false := by rw [bne_self_eq_false, Bool.and_false]
  unfold Construction.endItem
  dsimp only
  refine choose (fun hreach => ?_) fun _ => h
  split at hreach
  · exact h.closeTag htag hkept (fun _ hbound => by rw [hbound]; rfl) hreach
  · exact h.closeTag htag hkept (fun _ hbound => hbound) hreach

theorem endHeading (h : c.Running old ground m) : c.endHeading.Running old ground m := by
  refine choose (fun hreach => h.closeScoped (fun _ hbound => hbound) (fun e _ he => ?_) hreach) fun _ => h
  refine ⟨isLoose_of_has (fun tag htag => Tag.isFixture_of_class (by simp [htag])) he, ?_⟩
  refine Bool.eq_false_iff.mpr fun hclose => ?_
  exact Tag.not_isHeading_of_closesImplicitly (has_iff.mp hclose).2 (has_iff.mp he).2

/-- The rules behind the body fit where the body is in scope. -/
theorem leads_afterBody (h : c.Running old ground m) (hreach : c.tagInScope .body = true) :
    { c with mode := .afterBody }.Leads old ground := by
  have hfits : Fits .afterBody c.opens := by
    refine reaches_mono (fun e he => ?_) hreach
    obtain ⟨hspace, htag⟩ := has_iff.mp he
    rw [boundsScope, hspace]
    rcases Bool.or_eq_true_iff.mp htag with htag | htag <;> rw [eq_of_beq htag] <;> rfl
  exact .inside (h.1.withMode hfits)

theorem endInBody (h : c.Running old ground m) {tag : Tag}
    (hfree : tag.isGround = true ∨ m.seeks tag = false ∧ m.stops tag = false) :
    (c.endInBody tag).1.Leads old ground := by
  unfold Construction.endInBody
  refine .ofIte (fun _ => h.1.closeTemplate) fun htemplate => ?_
  refine .ofIte (fun _ => ?_) fun hbody => ?_
  · by_cases hreach : c.tagInScope .body = true
    · rw [if_pos hreach]
      exact h.leads_afterBody hreach
    · rw [if_neg hreach]
      exact h.leads
  refine .ofIte (fun _ => ?_) fun hhtml => ?_
  · exact .ofIte (fun hreach => h.leads_afterBody hreach) fun _ => h.leads
  refine .ofIte (fun hblock => ?_) fun _ => ?_
  · exact (h.endBlock (Tag.isFixture_of_isClosableBlock hblock)
      (Tag.closesImplicitly_of_isClosableBlock hblock)).leads
  refine .ofIte (fun _ => h.endForm.leads) fun _ => ?_
  refine .ofIte (fun _ => h.endParagraph.leads) fun _ => ?_
  refine .ofIte (fun hitem => ?_) fun _ => ?_
  · have hmem : tag = .li ∨ tag = .dd ∨ tag = .dt := by simpa [or_assoc] using hitem
    exact (h.endItem (by rcases hmem with rfl | rfl | rfl <;> rfl)).leads
  refine .ofIte (fun _ => h.endHeading.leads) fun _ => ?_
  refine .ofIte (fun hformatting => (h.closeFormatting ?_).leads) fun _ => ?_
  · simpa [Tag.isReopened, or_assoc] using hformatting
  refine .ofIte (fun hscope => ?_) fun _ => ?_
  · refine Running.leads (choose (fun _ => ?_) fun _ => h)
    refine (h.endBlock (Tag.isFixture_of_class (by simp [hscope])) ?_).clearToMarker
    revert hscope
    cases tag <;> intro hscope <;> first | rfl | cases hscope
  refine .ofIte (fun _ => (h.startBodyVoid (s := ⟨.br, [], false⟩) ⟨rfl, rfl⟩).leads) fun _ => ?_
  have hground : tag.isGround = false := by
    refine Bool.eq_false_iff.mpr fun hground => ?_
    rcases Tag.eq_of_isGround hground with heq | heq | heq
    · exact hhtml heq
    · exact hbody heq
    · exact htemplate heq
  rw [hground] at hfree
  have hignored := hfree.resolve_left Bool.false_ne_true
  exact (h.closeAnyTag hground hignored.1 hignored.2).leads

/-- The rules for running text. What the rules in force go with is not closed by an end tag of its own. -/
theorem inBody (h : c.Running old ground m) {t : Token} (ht : t.IsReadable)
    (hfree : ∀ tag, t = .endTag tag → tag.isGround = true ∨ m.seeks tag = false ∧ m.stops tag = false) :
    (c.inBody t).1.Leads old ground := by
  unfold Construction.inBody
  split
  · exact (h.charInBody _).leads
  · exact .inside (h.1.putComment _)
  · exact h.startInBody ht.1
  · exact h.endInBody (hfree _ rfl)
  · exact .ofIte (fun _ => h.leads) fun _ => h.1.finishTemplates
  · exact h.leads

end Running

end Construction

end PageBlocks.Markup
