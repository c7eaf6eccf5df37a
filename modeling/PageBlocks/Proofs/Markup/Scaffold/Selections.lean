import PageBlocks.Proofs.Markup.ReadableTree
import PageBlocks.Proofs.Markup.Scaffold.Tables

/-!
The rules inside selections and templates and behind the body, and those for other vocabularies. With them
the construction stands on its ground whatever rules for what is inside are in force.
-/
namespace PageBlocks.Markup

theorem Mode.seeks_template_of_isTurned {m : Mode} (h : m.isTurned = true) :
    m.seeks .template = true ∧ m ≠ .inSelectInTable := by
  cases m <;> first | exact ⟨rfl, Mode.noConfusion⟩ | cases h

namespace Construction

open OpenElement

variable {old : Arena} {ground : List OpenElement} {m : Mode} {c : Construction} {s : StartTag} {t : Token}

namespace Inside

theorem leads (h : c.Inside old ground m) : c.Leads old ground := .inside h

/-! ### Selections -/

theorem ignores_of_named {e : OpenElement} {tag : Tag} (h : e.named tag = true) (htag : tag.isFixture = false)
    (hselect : tag ≠ .select) (m : Mode) : e.IsLoose ∧ m.Ignores e := by
  have hloose := isLoose_of_named h htag
  refine ⟨hloose, hloose.ignores (Bool.eq_false_iff.mpr fun hnamed => ?_) m⟩
  exact hselect ((named_iff.mp h).2.symm.trans (named_iff.mp hnamed).2)

theorem insert (h : c.Inside old ground m) (htag : s.tag.IsInner) (hselect : s.tag ≠ .select) :
    (c.insert s).Inside old ground m :=
  h.openElement .html htag.scaffold (htmlAttrs s) fun _ =>
    ignores_of_named (named_iff.mpr ⟨rfl, rfl⟩) htag.fixture hselect m

theorem popCurrent (h : c.Inside old ground m) {tag : Tag} (htag : tag.isFixture = false) (hselect : tag ≠ .select)
    (hcurrent : c.currentIs tag = true) : c.pop.Inside old ground m := by
  unfold currentIs at hcurrent
  split at hcurrent
  · rename_i e rest hopens
    have hrest : c.opens.tail = rest := by rw [hopens, List.tail_cons]
    obtain ⟨hloose, hignored⟩ := ignores_of_named hcurrent htag hselect m
    rw [Construction.pop, hrest]
    exact h.dropFront (hopens.trans List.singleton_append.symm)
      (List.forall_mem_singleton.mpr ⟨hloose.not_ground, hignored⟩)
  · cases hcurrent

theorem popIf (h : c.Inside old ground m) {tag : Tag} (htag : tag.isFixture = false) (hselect : tag ≠ .select) :
    (c.popIf tag).Inside old ground m := by
  unfold Construction.popIf
  split
  · exact h.popCurrent htag hselect ‹_›
  · exact h

theorem endOptionGroup (h : c.Inside old ground m) : c.endOptionGroup.Inside old ground m := by
  unfold Construction.endOptionGroup
  dsimp only
  refine Inside.popIf ?_ rfl Tag.noConfusion
  split
  · rename_i e below rest hopens
    split
    · rename_i hgroup
      have hcurrent : c.currentIs .option = true := by
        rw [currentIs, hopens]
        exact (Bool.and_eq_true_iff.mp hgroup).1
      exact h.popCurrent rfl Tag.noConfusion hcurrent
    · exact h
  · exact h

/-- A selection is closed where nothing but options is open in it. -/
theorem endSelect (h : c.Inside old ground m) : c.endSelect.Leads old ground := by
  unfold Construction.endSelect
  split
  · rename_i hreach
    obtain ⟨front, x, rest, hopens, hfront, hx⟩ := exists_of_reaches hreach
    have hcut : c.popThroughTag .select = { c with opens := rest } :=
      popThrough_eq hopens (fun e he => (hfront e he).1) hx
    rw [List.append_cons] at hopens
    rw [hcut]
    refine h.resetMode hopens (List.forall_mem_append.mpr ⟨fun e he => ?_, List.forall_mem_singleton.mpr ?_⟩)
    · have hoption : (e.named .optgroup || e.named .option) = true := by
        rw [← Bool.not_not (e.named .optgroup || e.named .option), (hfront e he).2]
        rfl
      rcases Bool.or_eq_true_iff.mp hoption with hnamed | hnamed <;> exact has_of_named hnamed
    · exact has_of_named hx
  · exact h.leads

/-- A selection in a table is closed with all that is open in it. -/
theorem leaveSelect (h : c.Inside old ground .inSelectInTable) :
    (c.popThroughTag .select).resetMode.Leads old ground := by
  obtain ⟨front, x, rest, hopens, hfront, hx⟩ := h.1.2.above.exists_fit h.1.2.firm h.2.2 (.inr rfl)
  have hcut : c.popThroughTag .select = { c with opens := rest } :=
    popThrough_eq hopens (fun e he => (hfront e he).2.seeks) hx
  rw [List.append_cons] at hopens
  rw [hcut]
  refine h.resetMode hopens (List.forall_mem_append.mpr
    ⟨fun e he => (hfront e he).1, List.forall_mem_singleton.mpr ?_⟩)
  exact has_of_named (show x.named .select = true from hx)

theorem finishInBody (h : c.Inside old ground m) : (c.inBody .eof).1.Leads old ground :=
  .ofIte (fun _ => h.leads) fun _ => h.finishTemplates

theorem inSelect (h : c.Inside old ground m) (t : Token) : (c.inSelect t).1.Leads old ground := by
  have hoption : (c.popIf .option).Inside old ground m := h.popIf rfl Tag.noConfusion
  have hgroup : ((c.popIf .option).popIf .optgroup).Inside old ground m := hoption.popIf rfl Tag.noConfusion
  unfold Construction.inSelect
  split
  · rename_i ch
    by_cases hnul : (ch == '\x00') = true
    · rw [if_pos hnul]
      exact h.leads
    · rw [if_neg hnul]
      exact (h.putChar ch).leads
  · exact (h.putComment _).leads
  · rename_i s
    obtain ⟨tag, attrs, selfClosing⟩ := s
    dsimp only
    split
    · exact (h.mergeRoot _).leads
    · exact (hoption.insert (s := ⟨.option, attrs, selfClosing⟩) ⟨rfl, rfl⟩ Tag.noConfusion).leads
    · exact (hgroup.insert (s := ⟨.optgroup, attrs, selfClosing⟩) ⟨rfl, rfl⟩ Tag.noConfusion).leads
    · exact h.endSelect
    · exact .ofIte (fun _ => h.endSelect) fun _ => h.leads
    · exact .ofIte (fun _ => h.endSelect) fun _ => h.leads
    · exact .ofIte (fun _ => h.endSelect) fun _ => h.leads
    · exact h.startHeadContent rfl
    · exact h.startHeadContent rfl
    · exact h.leads
  · split
    · exact h.endOptionGroup.leads
    · exact hoption.leads
    · exact h.endSelect
    · exact h.closeTemplate
    · exact h.leads
  · exact h.finishInBody
  · exact h.leads

theorem inSelectInTable (h : c.Inside old ground .inSelectInTable) (t : Token) :
    (c.inSelectInTable t).1.Leads old ground := by
  unfold Construction.inSelectInTable
  split
  · exact .ofIte (fun _ => h.leaveSelect) fun _ => h.inSelect _
  · exact .ofIte (fun _ => .ofIte (fun _ => h.leaveSelect) fun _ => h.leads) fun _ => h.inSelect _
  · exact h.inSelect _

end Inside

/-! ### Templates -/

/-- What a template turns out to hold decides its rules. -/
theorem Inside.turnTemplate (h : c.Inside old ground .inTemplate) {next : Mode} (hnext : next.isTurned = true) :
    (c.turnTemplate next).1.Leads old ground := by
  obtain ⟨front, x, rest, hopens, hfront, hx⟩ := h.1.2.above.exists_fit h.1.2.firm h.2.2 (.inl rfl)
  obtain ⟨⟨hgrows, hstack⟩, -⟩ := h
  obtain ⟨hseeks, hne⟩ := Mode.seeks_template_of_isTurned hnext
  have hloose : ∀ e ∈ front, e.IsLoose := by
    intro e he
    refine Bool.eq_false_iff.mpr fun hfixture => ?_
    obtain ⟨hspace, htag⟩ := has_iff.mp hfixture
    by_cases htemplate : e.tag = .template
    · exact Bool.eq_false_iff.mp (hfront e he).2.seeks (has_iff.mpr ⟨hspace, beq_iff_eq.mpr htemplate⟩)
    · refine Bool.eq_false_iff.mp (hfront e he).2.stops (has_iff.mpr ⟨hspace, ?_⟩)
      exact Bool.and_eq_true_iff.mpr ⟨htag, bne_iff_ne.mpr htemplate⟩
  refine .inside (m := next) ⟨⟨hgrows, { hstack with templates := ?_, turned := ?_ }⟩, rfl, ?_⟩
  · refine hstack.templates.trans ?_
    change c.templateModes.length ≤ (next :: c.templateModes.tail).length
    rw [List.length_cons, List.length_tail]
    omega
  · exact List.forall_mem_cons.mpr ⟨hnext, fun m hm => hstack.turned m (List.mem_of_mem_tail hm)⟩
  · change Fits next c.opens
    rw [hopens, fits_append_loose hne hloose]
    exact fits_of_current ((has_of_named (show x.named .template = true from hx)).trans hseeks) rest

theorem Running.inTemplate (h : c.Running old ground .inTemplate) (ht : t.IsReadable) :
    (c.inTemplate t).1.Leads old ground := by
  unfold Construction.inTemplate
  split
  · exact h.inBody ht fun _ heq => Token.noConfusion heq
  · exact h.inBody ht fun _ heq => Token.noConfusion heq
  · refine .ofIte (fun hhead => h.1.startHeadContent (ht.1.isScaffold (Tag.isOuter_of_isHeadContent hhead)))
      fun _ => ?_
    split <;> exact h.1.turnTemplate rfl
  · rename_i tag
    by_cases htemplate : tag = .template
    · rw [if_pos htemplate]
      exact h.1.closeTemplate
    · rw [if_neg htemplate]
      exact h.leads
  · exact h.1.finishTemplates
  · exact h.leads

/-! ### Behind the body -/

theorem Running.inAfterBody (h : c.Running old ground .afterBody) (t : Token) :
    (c.inAfterBody t).1.Leads old ground := by
  have hbody : (c.again .inBody).1.Leads old ground := .inside (h.1.withTextMode ⟨rfl, rfl⟩)
  unfold Construction.inAfterBody
  split
  · exact .ofIte (fun _ => (h.charInBody _).leads) fun _ => hbody
  · split
    · rename_i root hroot
      have hplace : c.arena.IsPlace root.id :=
        Arena.isPlace_of_element (h.grows.1.opens root (List.mem_of_getLast? hroot))
      exact .inside (h.1.keep (h.grows.putCommentIn hplace _) rfl ⟨rfl, rfl, rfl⟩)
    · exact h.leads
  · exact .ofIte (fun _ => (h.1.mergeRoot _).leads) fun _ => hbody
  · refine .ofIte (fun _ => .inside (h.1.withMode ?_)) fun _ => hbody
    exact h.1.2.2
  · exact h.leads

theorem Running.inAfterAfterBody (h : c.Running old ground .afterAfterBody) (t : Token) :
    (c.inAfterAfterBody t).1.Leads old ground := by
  have hbody : (c.again .inBody).1.Leads old ground := .inside (h.1.withTextMode ⟨rfl, rfl⟩)
  unfold Construction.inAfterAfterBody
  split
  · exact .ofIte (fun _ => (h.charInBody _).leads) fun _ => hbody
  · exact .inside (h.1.keep (h.grows.putCommentIn h.grows.sound.isPlace_page _) rfl ⟨rfl, rfl, rfl⟩)
  · exact .ofIte (fun _ => (h.1.mergeRoot _).leads) fun _ => hbody
  · exact hbody
  · exact h.leads

/-! ### All rules -/

/-- Rules that go with nothing on the stack are not in force inside the ground. -/
theorem Inside.seeks_ne (h : c.Inside old ground m) : ∃ tag, m.seeks tag = true := by
  obtain ⟨-, x, -, -, -, hx⟩ := exists_of_reaches h.2.2
  exact ⟨x.tag, (has_iff.mp hx).2⟩

theorem Inside.applyMode (h : c.Inside old ground m) (ht : t.IsReadable) : (c.applyMode t).1.Leads old ground := by
  have hnone : ∀ {own : Mode}, c.Inside old ground own → (∀ tag, own.seeks tag = false) → False := by
    intro own h hnever
    obtain ⟨tag, htag⟩ := h.seeks_ne
    rw [hnever tag] at htag
    cases htag
  unfold Construction.applyMode
  rw [h.2.1]
  cases m with
  | initial | beforeHtml | beforeHead | inHead | afterHead | text | inTableText | inFrameset | afterFrameset
  | afterAfterFrameset => exact (hnone h fun _ => rfl).elim
  | inBody =>
    exact Running.inBody ⟨h, Mode.noConfusion⟩ ht fun tag _ => Mode.ignores_of_text ⟨rfl, rfl⟩ tag
  | inTable => exact Running.inTable ⟨h, Mode.noConfusion⟩ rfl ht fun _ _ => .inl rfl
  | inCaption => exact Running.inCaption ⟨h, Mode.noConfusion⟩ ht
  | inColumnGroup => exact Running.inColumnGroup ⟨h, Mode.noConfusion⟩ ht
  | inTableBody => exact Running.inTableBody ⟨h, Mode.noConfusion⟩ ht
  | inRow => exact Running.inRow ⟨h, Mode.noConfusion⟩ ht
  | inCell => exact Running.inCell ⟨h, Mode.noConfusion⟩ ht
  | inSelect => exact h.inSelect t
  | inSelectInTable => exact h.inSelectInTable t
  | inTemplate => exact Running.inTemplate ⟨h, Mode.noConfusion⟩ ht
  | afterBody => exact Running.inAfterBody ⟨h, Mode.noConfusion⟩ t
  | afterAfterBody => exact Running.inAfterAfterBody ⟨h, Mode.noConfusion⟩ t

/-! ### Other vocabularies -/

theorem Inside.dropIsland (h : c.Inside old ground m) {front rest : List OpenElement} (hopens : c.opens = front ++ rest)
    (hfront : ∀ e ∈ front, e.space ≠ .html) : { c with opens := rest }.Inside old ground m :=
  h.dropFront hopens fun e he => ⟨has_eq_false_of_space (hfront e he), (ignores_of_space (hfront e he) m).2⟩

theorem Inside.leaveIsland (h : c.Inside old ground m) {e : OpenElement} {rest : List OpenElement}
    (hopens : c.opens = e :: rest) (he : e.space ≠ .html) : c.leaveIsland.Inside old ground m := by
  unfold Construction.leaveIsland
  dsimp only
  rw [hopens, List.tail_cons]
  have hsplit := List.takeWhile_append_dropWhile
    (p := fun e : OpenElement => !(e.space == .html || e.isMathTextPoint || e.isSvgHtmlPoint)) (l := rest)
  refine h.dropIsland (hopens.trans ((congrArg (e :: ·) hsplit.symm).trans List.cons_append.symm)) ?_
  refine List.forall_mem_cons.mpr ⟨he, fun x hx => ?_⟩
  have hpass := List.mem_takeWhile_imp hx
  intro hspace
  rw [hspace] at hpass
  cases hpass

/-- An end tag in an island closes elements of other vocabularies only. -/
theorem exists_of_foreignEnd {name : String} {opens rest : List OpenElement}
    (h : foreignEnd name opens = .close rest) (hfirst : ∀ e ∈ opens.head?, e.space ≠ .html) :
    ∃ front, opens = front ++ rest ∧ ∀ e ∈ front, e.space ≠ .html := by
  fun_induction foreignEnd name opens with
  | case1 => cases h
  | case2 => cases h
  | case3 e below _ hsame =>
    cases h
    exact ⟨[e], rfl, List.forall_mem_singleton.mpr (hfirst e rfl)⟩
  | case4 => cases h
  | case5 => cases h
  | case6 e _ next _ _ hspace _ ih =>
    obtain ⟨front, heq, hfront⟩ := ih h fun x hx => by
      cases hx
      simpa using hspace
    exact ⟨e :: front, congrArg (e :: ·) heq, List.forall_mem_cons.mpr ⟨hfirst e rfl, hfront⟩⟩
  | case7 => cases h

/-- No start tag of another vocabulary makes a body. -/
theorem toString_tagIn {tag : Tag} (h : tag.IsNamed) (hbody : tag ≠ .body) (space : Space) :
    (tagIn space tag).toString ≠ "body" := by
  have hplain : tag.toString ≠ "body" := by
    intro heq
    have hknown := h.known
    rw [heq] at hknown
    exact hbody (hknown.symm.trans (by decide +kernel))
  unfold tagIn
  split
  · rename_i name
    unfold withCapitals
    cases hfound : svgTags.find? fun own => Text.lower own == name with
    | none => exact hplain
    | some own =>
      have hmem := List.mem_of_find?_eq_some hfound
      rintro (rfl : own = "body")
      exact absurd hmem (by decide)
  · exact hplain

theorem Inside.inForeign (h : c.Inside old ground m) {e : OpenElement} {rest : List OpenElement}
    (hopens : c.opens = e :: rest) (he : e.space ≠ .html) (ht : t.IsReadable) :
    (c.inForeign t).1.Leads old ground := by
  unfold Construction.inForeign
  split
  · refine .ofIte (fun _ => (h.putChar _).leads) fun _ => ?_
    split
    · exact (h.putChar _).leads
    · exact (Inside.putChar (c := c.noFrameset) h _).leads
  · exact (h.putComment _).leads
  · rename_i s
    refine .ofIte (fun _ => (h.leaveIsland hopens he).leads) fun hstays => ?_
    have hbody : s.tag ≠ .body := by
      intro heq
      rw [leavesIsland, heq] at hstays
      exact hstays rfl
    rw [hopens]
    exact (h.insertIn e.space he (toString_tagIn ht.1 hbody e.space)).leads
  · split
    · rename_i hclose
      obtain ⟨front, heq, hfront⟩ := exists_of_foreignEnd hclose fun x hx => by
        rw [hopens] at hx
        cases hx
        exact he
      exact (h.dropIsland heq hfront).leads
    · exact h.leads
    · exact h.applyMode ht
  · exact h.leads

end Construction

end PageBlocks.Markup
