import PageBlocks.Proofs.Markup.Scaffold.Inside

/-!
Where the rules lead that are in force inside the ground: they stay inside, they have the text of an
element read, or they close the template that is the ground itself; and a frameset can replace the body.
Templates open a place of their own inside and, when they are closed, leave the rules that fit.
-/
namespace PageBlocks.Markup

/-- The rules of framesets. -/
def Mode.isOfFrames : Mode → Bool
  | .inFrameset | .afterFrameset | .afterAfterFrameset => true
  | _ => false

namespace Construction

open OpenElement

variable {a old : Arena} {ground outer opens : List OpenElement} {m : Mode} {c : Construction}

/-! ### Where rules lead -/

/-- The rules in and behind the head. -/
def outerMode (outer : List OpenElement) : Mode := if outer.length = 1 then .afterHead else .inHead

/-- The construction is in the head or behind it. -/
def Outside (old : Arena) (outer : List OpenElement) (c : Construction) : Prop :=
  c.Grows old ∧ IsOuter old outer ∧ c.opens = outer ∧ c.mode = outerMode outer ∧
    (∀ m ∈ c.templateModes, m.isTurned = true) ∧ c.head.isSome = true

/-- The page has framesets instead of a body. -/
def Frames (c : Construction) : Prop :=
  Refers c.arena c.opens c.formatting c.head c.form ∧ (∃ root frame, ShowsFrames c.arena root frame) ∧
    (∀ e ∈ c.opens, e.space = .html ∧ e.tag.isFramework = true) ∧ c.opens ≠ [] ∧ c.mode.isOfFrames = true

/-- Where the rules lead that are in force inside the ground. -/
inductive Leads (old : Arena) (ground : List OpenElement) (c : Construction) : Prop
  | inside {m : Mode} : c.Inside old ground m → Leads old ground c
  /-- The text of an element is read in a mode of its own. -/
  | raw {x : OpenElement} {rest : List OpenElement} {m : Mode} : c.mode = .text → c.opens = x :: rest →
      x.space = .html → c.Grows old → { c with opens := rest, mode := c.returnMode }.Inside old ground m →
      Leads old ground c
  /-- Text in a table is kept back. -/
  | kept {m : Mode} : c.mode = .inTableText → c.currentHas Tag.isTablePart = true →
      { c with mode := c.returnMode }.Inside old ground m → Leads old ground c
  | closed {t : OpenElement} {outer : List OpenElement} : t.named .template = true → ground = t :: outer →
      c.Outside old outer → Leads old ground c
  | frames : c.Frames → Leads old ground c

theorem Leads.ofIte {p : Prop} [Decidable p] {r r' : Outcome} (h : p → r.1.Leads old ground)
    (h' : ¬p → r'.1.Leads old ground) : (if p then r else r').1.Leads old ground := by
  split
  · exact h ‹_›
  · exact h' ‹_›

theorem Running.leads (h : c.Running old ground m) : c.Leads old ground := .inside h.1

/-! ### The rules that fit -/

theorem IsGround.ne_nil (h : IsGround a ground) : ground ≠ [] := by
  cases h <;> exact List.cons_ne_nil _ _

theorem Above.ne_nil (hground : IsGround a ground) (h : Above ground opens) : opens ≠ [] := by
  cases h with
  | ground => exact hground.ne_nil
  | inner => exact List.cons_ne_nil _ _

/-- The rules that were turned to in a template fit there. -/
theorem fits_template (hturned : ∀ m ∈ c.templateModes, m.isTurned = true) {t : OpenElement}
    (ht : t.named .template = true) (rest : List OpenElement) :
    Fits (c.templateModes.headD .inBody) (t :: rest) := by
  have hmode : (c.templateModes.headD .inBody).isTurned = true := by
    cases hmodes : c.templateModes with
    | nil => rfl
    | cons m modes => exact hturned m (hmodes ▸ List.mem_cons_self)
  refine fits_of_current ?_ rest
  rw [has_of_named ht]
  revert hmode
  cases c.templateModes.headD .inBody <;> intro hmode <;> first | rfl | cases hmode

theorem fits_fittingMode_ground (hground : IsGround a ground)
    (hturned : ∀ m ∈ c.templateModes, m.isTurned = true) : Fits (c.fittingMode ground) ground := by
  cases hground with
  | body hb =>
    obtain ⟨hspace, htag⟩ := named_iff.mp hb
    simp only [fittingMode, hspace, htag, ne_eq, not_true_eq_false, if_false]
    exact fits_of_current ((has_of_named hb).trans rfl) _
  | template ht =>
    obtain ⟨hspace, htag⟩ := named_iff.mp ht
    simp only [fittingMode, hspace, htag, ne_eq, not_true_eq_false, if_false]
    exact fits_template hturned ht _

/-- What the stack holds first decides which rules fit. -/
theorem fits_fittingMode (hground : IsGround a ground) (h : Above ground opens)
    (hturned : ∀ m ∈ c.templateModes, m.isTurned = true) : Fits (c.fittingMode opens) opens := by
  induction h with
  | ground => exact fits_fittingMode_ground hground hturned
  | @inner e es houter h ih =>
    have hlast : es.isEmpty = false := List.isEmpty_eq_false_iff.mpr (h.ne_nil hground)
    have hbody : ∀ {m : Mode}, (m.seeks = fun tag => tag == .body || tag == .template) →
        m.stops = (· == .html) → Fits m (e :: es) := fun hseeks hstops =>
      fits_of_above hground (.inner houter h) ⟨hseeks, hstops⟩
    have hskip : IsLoose e → e.named .select = false → Fits (c.fittingMode es) (e :: es) :=
      fun hloose hselect =>
        (fits_cons ⟨(hloose.ignores hselect _).seeks, (hloose.ignores hselect _).stops⟩).mpr ih
    simp only [fittingMode, hlast, Bool.false_eq_true, if_false]
    split
    · rename_i hspace
      exact hskip (isLoose_of_space hspace) (has_eq_false_of_space (p := (· == .select)) hspace)
    · rename_i hspace
      rw [Decidable.not_not] at hspace
      have hcurrent : ∀ {m : Mode}, m.seeks e.tag = true → Fits m (e :: es) := fun hseeks =>
        fits_of_current ((has_of_space hspace).trans hseeks) es
      have hnotOuter : e.tag.isOuter = false := (has_of_space hspace).symm.trans houter
      split <;> rename_i htag
      · split
        · split
          · exact hcurrent (by rw [htag]; rfl)
          · exact hbody rfl rfl
        · exact hbody rfl rfl
      · exact hcurrent (by rw [htag]; rfl)
      · exact hcurrent (by rw [htag]; rfl)
      · exact hcurrent (by rw [htag]; rfl)
      · exact hcurrent (by rw [htag]; rfl)
      · exact hcurrent (by rw [htag]; rfl)
      · exact hcurrent (by rw [htag]; rfl)
      · exact hbody rfl rfl
      · exact hbody rfl rfl
      · exact hcurrent (by rw [htag]; rfl)
      · exact fits_template hturned (named_iff.mpr ⟨hspace, htag⟩) es
      · rw [htag] at hnotOuter; cases hnotOuter
      · rw [htag] at hnotOuter; cases hnotOuter
      · rw [htag] at hnotOuter; cases hnotOuter
      · rw [htag] at hnotOuter; cases hnotOuter
      · refine hskip (isLoose_of_tag ?_) ?_
        · cases hown : e.tag <;> first | rfl | contradiction
        · exact Bool.eq_false_iff.mpr fun hselect => absurd (named_iff.mp hselect).2 ‹_›

theorem fittingMode_outer (h : IsOuter a outer) (hhead : c.head.isSome = true) :
    c.fittingMode outer = outerMode outer := by
  have hsome : c.head.isNone = false := by rw [Option.isNone_eq_false_iff, hhead]
  cases h with
  | inHead hh hr =>
    obtain ⟨hspace, htag⟩ := named_iff.mp hh
    simp [fittingMode, hspace, htag, outerMode]
  | afterHead hr =>
    obtain ⟨hspace, htag⟩ := named_iff.mp hr
    simp [fittingMode, hspace, htag, hsome, outerMode]

/-! ### Templates -/

/-- The innermost template stands inside, or it is the ground itself. -/
theorem Above.exists_template (hground : IsGround a ground) (h : Above ground opens)
    (hopen : opens.any (·.named .template) = true) :
    ∃ front t rest, opens = front ++ t :: rest ∧ (∀ e ∈ front, e.named .template = false) ∧
      t.named .template = true ∧ (Above ground rest ∨ ground = t :: rest) := by
  induction h with
  | ground =>
    cases hground with
    | body hb hr =>
      rw [List.any_cons, List.any_cons, List.any_nil, Bool.or_false] at hopen
      have hbody : ∀ {e : OpenElement}, e.named .template = e.has (· == .template) := rfl
      rw [hbody, hbody, has_of_named hb, has_of_named hr] at hopen
      cases hopen
    | @template t outer ht => exact ⟨[], t, outer, rfl, List.forall_mem_nil _, ht, .inr rfl⟩
  | @inner e es _ h ih =>
    by_cases he : e.named .template = true
    · exact ⟨[], e, es, rfl, List.forall_mem_nil _, he, .inl h⟩
    · rw [Bool.not_eq_true] at he
      rw [List.any_cons, he, Bool.false_or] at hopen
      obtain ⟨front, t, rest, rfl, hfront, ht, hrest⟩ := ih hopen
      exact ⟨e :: front, t, rest, rfl, List.forall_mem_cons.mpr ⟨he, hfront⟩, ht, hrest⟩

/-- What closes a template leads back to where it was opened. -/
theorem Inside.leaveTemplate (h : c.Inside old ground m) (hopen : c.isOpen .template = true) {p : Tag → Bool}
    (hp : p .template = false) :
    let left := ((c.popImplied p).popThroughTag .template).clearToMarker
    let left := { left with templateModes := c.templateModes.tail }.resetMode
    (∃ m, left.Inside old ground m) ∨
      ∃ t outer, t.named .template = true ∧ ground = t :: outer ∧ left.Outside old outer := by
  obtain ⟨⟨hgrows, hstack⟩, -⟩ := h
  obtain ⟨front, t, rest, hopens, hfront, ht, hrest⟩ := hstack.above.exists_template hstack.firm hopen
  intro popped left
  have hleft : popped.opens = rest := opens_popThrough hopens hfront ht ((has_of_named ht).trans hp)
  have hgrowsLeft : popped.Grows old := (hgrows.popThrough p (·.named .template)).clearToMarker
  have hturned : ∀ m ∈ c.templateModes.tail, m.isTurned = true := fun m hm =>
    hstack.turned m (List.mem_of_mem_tail hm)
  have hmode : left.mode = { popped with templateModes := c.templateModes.tail }.fittingMode rest :=
    congrArg _ hleft
  rcases hrest with habove | hground
  · refine .inl ⟨_, ⟨hgrowsLeft, ?_⟩, hmode, ?_⟩
    · rw [hopens] at hstack
      change Stack old ground popped.opens c.templateModes.tail c.head
      rw [hleft]
      exact hstack.drop_template ht habove
    · change Fits _ popped.opens
      rw [hleft]
      exact fits_fittingMode hstack.firm habove hturned
  · have houter : IsOuter old rest := by
      have hfirm := hstack.firm
      rw [hground] at hfirm
      cases hfirm with
      | body hb =>
        have hboth := has_of_named hb (p := (· == .template))
        rw [show t.has (· == .template) = true from ht] at hboth
        cases hboth
      | template _ houter => exact houter
    exact .inr ⟨t, rest, ht, hground, hgrowsLeft, houter, hleft,
      hmode.trans (fittingMode_outer houter hstack.head), hturned, hstack.head⟩

theorem Leads.ofLeft (h : (∃ m, c.Inside old ground m) ∨
    ∃ t outer, t.named .template = true ∧ ground = t :: outer ∧ c.Outside old outer) : c.Leads old ground := by
  obtain ⟨m, h⟩ | ⟨t, outer, ht, hground, h⟩ := h
  · exact .inside h
  · exact .closed ht hground h

theorem Inside.closeTemplate (h : c.Inside old ground m) : c.closeTemplate.Leads old ground := by
  unfold Construction.closeTemplate
  by_cases hopen : c.isOpen .template = true
  · rw [if_pos hopen]
    exact .ofLeft (h.leaveTemplate hopen rfl)
  · rw [if_neg hopen]
    exact .inside h

theorem popImplied_none (c : Construction) : c.popImplied (fun _ => false) = c := by
  have hnone : ∀ e : OpenElement, e.has (fun _ => false) = false := fun e => by simp [has]
  rw [popImplied, List.dropWhile_eq_self_iff.mpr fun _ => by rw [hnone]; exact Bool.false_ne_true]

/-- The end of the text closes a template that is open. -/
theorem Inside.finishTemplates (h : c.Inside old ground m) : c.finishTemplates.1.Leads old ground := by
  refine .ofIte (fun hopen => ?_) fun _ => .inside h
  have hleave := h.leaveTemplate hopen (p := fun _ => false) rfl
  rw [popImplied_none] at hleave
  exact .ofLeft hleave

/-! ### The content of the head -/

/-- What the start tag of an element of the head makes of a stack: the element holds nothing, or its text is
read in a mode of its own, or it is a template. -/
inductive TakesHead (c : Construction) (tag : Tag) (opens : List OpenElement) (c' : Construction) : Prop
  | void : c'.opens = opens → SameRules c c' → TakesHead c tag opens c'
  | raw {x : OpenElement} : x.named tag = true → c'.opens = x :: opens → c'.mode = .text →
      c'.returnMode = c.mode → c'.templateModes = c.templateModes → c'.head = c.head → TakesHead c tag opens c'
  | template {x : OpenElement} : x.named tag = true → tag = .template → c'.opens = x :: opens →
      c'.mode = .inTemplate → c'.templateModes = .inTemplate :: c.templateModes → c'.head = c.head →
      TakesHead c tag opens c'

theorem takesHead_insertRaw (c : Construction) (t : StartTag) (mode : TextMode) :
    TakesHead c t.tag c.opens (c.insertRaw t mode).1 := by
  obtain ⟨x, hnamed, hopens, -, hmodes, hhead⟩ := exists_insert c t
  exact .raw hnamed hopens rfl rfl hmodes hhead

theorem takesHead_startHeadContent (c : Construction) (t : StartTag) :
    TakesHead c t.tag c.opens (c.startHeadContent t).1 := by
  unfold Construction.startHeadContent
  split
  · exact .void (same_putElement c ..).1 (same_putElement c ..).2
  · split
    · exact takesHead_insertRaw c t _
    · exact takesHead_insertRaw c t _
    · rename_i htag
      obtain ⟨x, hnamed, hopens, -, hmodes, hhead⟩ := exists_insert c t
      exact .template hnamed htag hopens rfl (congrArg _ hmodes) hhead
    · exact takesHead_insertRaw c t _

theorem Grows.startHeadContent (h : c.Grows old) {t : StartTag} (hfree : t.tag.isScaffold = false) :
    (c.startHeadContent t).1.Grows old := by
  unfold Construction.startHeadContent
  split
  · exact h.insertVoid hfree
  · split
    · exact h.insert hfree
    · exact h.insert hfree
    · exact (h.insert hfree).pushMarker
    · exact h.insert hfree

/-- An element of the head inside. -/
theorem Inside.takesHead (h : c.Inside old ground m) {c' : Construction} {tag : Tag} (hgrows : c'.Grows old)
    (htakes : TakesHead c tag c.opens c') : c'.Leads old ground := by
  cases htakes with
  | void hopens hrules => exact .inside (h.keep hgrows hopens hrules)
  | @raw x hnamed hopens hmode hreturn hmodes hhead =>
    refine .raw (m := m) hmode hopens (named_iff.mp hnamed).1 hgrows (h.keep ?_ rfl ⟨hreturn, hmodes, hhead⟩)
    refine hgrows.ofSubset fun e he => ?_
    rw [hopens]
    exact List.mem_cons_of_mem x he
  | @template x hnamed htag hopens hmode hmodes hhead =>
    rw [htag] at hnamed
    obtain ⟨⟨-, hstack⟩, -⟩ := h
    refine .inside (m := .inTemplate) ⟨⟨hgrows, ?_⟩, hmode, ?_⟩
    · rw [hopens, hmodes, hhead]
      exact hstack.push_template hnamed
    · rw [hopens]
      exact fits_of_current ((has_of_named hnamed).trans rfl) _

theorem Inside.insertRaw (h : c.Inside old ground m) {t : StartTag} (hfree : t.tag.isScaffold = false)
    (mode : TextMode) : (c.insertRaw t mode).1.Leads old ground :=
  h.takesHead (h.grows.insert hfree) (takesHead_insertRaw c t mode)

theorem Inside.startHeadContent (h : c.Inside old ground m) {t : StartTag} (hfree : t.tag.isScaffold = false) :
    (c.startHeadContent t).1.Leads old ground :=
  h.takesHead (h.grows.startHeadContent hfree) (takesHead_startHeadContent c t)

/-! ### Framesets -/

theorem Above.exists_append (h : Above ground opens) : ∃ front, opens = front ++ ground := by
  induction h with
  | ground => exact ⟨[], rfl⟩
  | @inner e es _ _ ih =>
    obtain ⟨front, rfl⟩ := ih
    exact ⟨e :: front, rfl⟩

/-- A body is second on the stack from below only if it belongs to the ground. -/
theorem exists_of_body? (hground : IsGround a ground) (h : Above ground c.opens) {body : OpenElement}
    (hbody : c.body? = some body) :
    ∃ front r, c.opens = front ++ [body, r] ∧ r.named .html = true ∧ ShowsBody a r.id body.id := by
  have hsecond : ∀ {front below : List OpenElement} {b r : OpenElement}, c.opens = front ++ below →
      below = b :: [r] → b = body ∧ b.named .body = true := by
    rintro front below b r hopens rfl
    rw [body?, hopens, List.reverse_append] at hbody
    have hfound : (if b.named .body = true then some b else none) = some body := hbody
    split at hfound
    · exact ⟨Option.some.inj hfound, ‹_›⟩
    · cases hfound
  obtain ⟨front, hopens⟩ := h.exists_append
  have hother : ∀ {e : OpenElement} {tag : Tag}, e.named tag = true → tag ≠ .body → e.named .body ≠ true := by
    intro e tag he hne hnamed
    exact hne ((named_iff.mp he).2.symm.trans (named_iff.mp hnamed).2)
  cases hground with
  | @body b r hb hr hshows =>
    obtain ⟨rfl, -⟩ := hsecond hopens rfl
    exact ⟨front, r, hopens, hr, hshows⟩
  | @template t outer ht houter =>
    cases houter with
    | @inHead hd r hh hr =>
      have hopens' : c.opens = (front ++ [t]) ++ [hd, r] := by rw [hopens, List.append_cons]
      exact absurd (hsecond hopens' rfl).2 (hother hh Tag.noConfusion)
    | @afterHead r hr => exact absurd (hsecond hopens rfl).2 (hother ht Tag.noConfusion)

/-- A frameset is opened right inside the root element of a page without a body. -/
theorem frames_of_insert (h : Refers c.arena c.opens c.formatting c.head c.form) {r : OpenElement}
    (hopens : c.opens = [r]) (hr : r.named .html = true) (hshows : ShowsNoBody c.arena r.id) {s : StartTag}
    (hs : s.tag = .frameset) : { c.insert s with mode := .inFrameset }.Frames := by
  obtain ⟨hspace, htag⟩ := named_iff.mp hr
  have hsort : c.arena.sort r.id = .element .html r.tag := htag ▸ hshows.sort
  obtain ⟨a, id, heq, hnew⟩ := inserted_openElement h.sound hopens hsort (by rw [htag]; rfl)
    (by rw [htag]; exact Tag.noConfusion) s.tag (htmlAttrs s)
  rw [insert, heq]
  rw [hs] at hnew ⊢
  refine ⟨h.inserted hnew, ⟨r.id, id, hshows.frames hnew⟩, List.forall_mem_cons.mpr ⟨⟨rfl, rfl⟩, ?_⟩,
    List.cons_ne_nil _ _, rfl⟩
  rw [hopens]
  exact List.forall_mem_singleton.mpr ⟨hspace, by rw [htag]; rfl⟩

/-- A frameset replaces the body. -/
theorem Inside.startFrameset (h : c.Inside old ground m) {s : StartTag} (hs : s.tag = .frameset) :
    (c.startFrameset s).Leads old ground := by
  unfold Construction.startFrameset
  split
  · rename_i body _ hbody
    obtain ⟨⟨hgrows, hstack⟩, -⟩ := h
    obtain ⟨front, r, hopens, hr, hshows⟩ := exists_of_body? hstack.firm hstack.above hbody
    have hlast : c.opens.getLast?.toList = [r] := by
      rw [hopens, List.getLast?_append]
      rfl
    have hkept : ∀ e ∈ [r], e ∈ c.opens := by
      rw [hopens]
      simp
    have hrelinks := hgrows.sound.linked.relinks_detach body.id
    have hrefers : Refers (c.arena.detach body.id) [r] c.formatting c.head c.form :=
      (hgrows.ofSubset hkept).1.ofSorts (hgrows.sound.sound_detach body.id) fun id _ => hrelinks.sort_eq id
    rw [hlast]
    exact .frames (frames_of_insert (c := { c with arena := c.arena.detach body.id, opens := [r] }) hrefers rfl hr
      ((hshows.grown hgrows.2).detach hgrows.sound) hs)
  · exact .inside h

end Construction

end PageBlocks.Markup
