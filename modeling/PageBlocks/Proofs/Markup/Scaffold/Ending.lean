import PageBlocks.Proofs.Markup.Reading
import PageBlocks.Proofs.Markup.Scaffold.Course

/-!
The end of the text. It closes what is read in a mode of its own and the templates that are open, and opens
the root element, the head and the body where they are missing. So in the end a page has a body or framesets.
-/
namespace PageBlocks.Markup

namespace Construction

open OpenElement

variable {a old : Arena} {ground outer opens : List OpenElement} {m : Mode} {n : Nat} {b : Bool}
  {c c' : Construction} {t : Token}

/-- The end of the text brings the page to a body or framesets if it is considered that often. -/
def Ends (c : Construction) (n : Nat) : Prop := ∀ k, n ≤ k → (consider k c .eof).1.Stage true

theorem Stage.ends (h : c.Stage true) (n : Nat) : c.Ends n := by
  intro k _
  obtain ⟨b, hstage, hb⟩ := h.consider k (t := .eof) trivial
  rwa [hb rfl] at hstage

theorem Ends.mono (h : c.Ends n) {n' : Nat} (hn : n ≤ n') : c.Ends n' := fun k hk => h k (hn.trans hk)

theorem isForeign_eof (c : Construction) : c.isForeign .eof = false := by
  unfold Construction.isForeign
  split
  · rfl
  · split <;> first | rfl | contradiction

/-- The end of the text is considered again. -/
theorem Ends.ofAgain (hagain : c.applyMode .eof = (c', .again)) (h : c'.Ends n) : c.Ends (n + 1) := by
  intro k hk
  obtain ⟨k, rfl⟩ : ∃ k', k = k' + 1 := ⟨k - 1, by omega⟩
  rw [consider, isForeign_eof, if_neg Bool.false_ne_true, hagain]
  exact h k (by omega)

/-! ### In and behind the head -/

theorem Outside.ends_afterHead {r : OpenElement} (h : c.Outside old [r]) : c.Ends 1 := by
  obtain ⟨body, hinside, hbody⟩ := h.openBody [] (c.insertBare .body).framesetAllowed
  have hstands : standsOnBody [body, r] = true := by simp [standsOnBody, hbody]
  have hagain : c.applyMode .eof = ({ c.insertBare .body with mode := .inBody }, .again) := by
    unfold Construction.applyMode
    rw [show c.mode = .afterHead from h.2.2.2.1]
    rfl
  refine .ofAgain hagain (Stage.ends ?_ 0)
  rw [← hstands]
  exact .fitted (.inside hinside)

theorem Outside.ends (h : c.Outside old outer) : c.Ends 2 := by
  obtain ⟨-, houter, -, hmode, -⟩ := id h
  cases houter with
  | afterHead => exact h.ends_afterHead.mono (by omega)
  | inHead =>
    have hown : c.mode = .inHead := hmode
    obtain ⟨r, hleft⟩ := h.leaveHead hown
    refine .ofAgain ?_ hleft.ends_afterHead
    unfold Construction.applyMode
    rw [hown]
    rfl

/-! ### Templates -/

/-- Inside a template the rules behind the body are not in force. -/
theorem Above.not_fits {x : OpenElement} (hx : x.named .template = true) (h : Above (x :: outer) opens)
    (hm : m.seeks = (· == .body) ∧ m.stops = fun tag => tag == .template || tag == .html) : ¬Fits m opens := by
  rw [Fits, hm.1, hm.2]
  induction h with
  | ground =>
    rw [reaches, has_of_named hx, has_of_named hx]
    exact Bool.false_ne_true
  | @inner e es houter _ ih =>
    have hbody : e.has (· == .body) = false := by
      refine has_eq_false_mono (fun tag htag => ?_) houter
      rw [eq_of_beq htag]
      rfl
    rw [reaches, hbody, if_neg Bool.false_ne_true]
    split
    · exact Bool.false_ne_true
    · exact ih

namespace Inside

variable {x : OpenElement}

theorem isOpen_template (h : c.Inside old (x :: outer) m) (hx : x.named .template = true) :
    c.isOpen .template = true := by
  obtain ⟨front, hopens⟩ := h.1.2.above.exists_append
  rw [isOpen, hopens, List.any_append, List.any_cons, hx, Bool.true_or, Bool.or_true]

theorem templateModes_ne_nil (h : c.Inside old (x :: outer) m) (hx : x.named .template = true) :
    c.templateModes ≠ [] := by
  have hopen := h.isOpen_template hx
  obtain ⟨⟨-, hstack⟩, -⟩ := h
  have hcount := List.countP_pos_iff.mpr (List.any_eq_true.mp hopen)
  exact List.length_pos_iff.mp (hcount.trans_le hstack.templates)

/-- All rules inside a template leave the end of the text to the template. -/
theorem applyMode_eof (h : c.Inside old (x :: outer) m) (hx : x.named .template = true) :
    c.applyMode .eof = c.finishTemplates := by
  have hbody : c.inBody .eof = c.finishTemplates := by
    rw [Construction.inBody, List.isEmpty_eq_false_iff.mpr (h.templateModes_ne_nil hx), if_neg Bool.false_ne_true]
  obtain ⟨tag, htag⟩ := h.seeks_ne
  obtain ⟨⟨-, hstack⟩, hmode, hfits⟩ := h
  unfold Construction.applyMode
  rw [hmode]
  cases m with
  | initial | beforeHtml | beforeHead | inHead | afterHead | text | inTableText | inFrameset | afterFrameset
  | afterAfterFrameset => cases htag
  | inBody | inTable | inCaption | inColumnGroup | inTableBody | inRow | inCell | inSelect | inSelectInTable =>
    exact hbody
  | inTemplate => rfl
  | afterBody | afterAfterBody => exact absurd hfits (hstack.above.not_fits hx ⟨rfl, rfl⟩)

/-- The templates that are open are closed one after the other. -/
theorem ends (h : c.Inside old (x :: outer) m) (hx : x.named .template = true)
    (hn : c.templateModes.length ≤ n) : c.Ends (n + 2) := by
  induction n generalizing c m with
  | zero => exact absurd (List.length_eq_zero_iff.mp (Nat.le_zero.mp hn)) (h.templateModes_ne_nil hx)
  | succ n ih =>
    have hopen := h.isOpen_template hx
    have hagain := (h.applyMode_eof hx).trans (if_pos hopen)
    have hleft := h.leaveTemplate hopen (p := fun _ => false) rfl
    rw [popImplied_none] at hleft
    refine .ofAgain hagain ?_
    obtain ⟨m', hinside⟩ | ⟨t, outer', -, -, houtside⟩ := hleft
    · refine ih hinside ?_
      change c.templateModes.tail.length ≤ n
      rw [List.length_tail]
      omega
    · exact houtside.ends.mono (by omega)

end Inside

/-! ### All stages -/

theorem Fitted.ends (h : c.Fitted b) (hn : c.templateModes.length ≤ n) : c.Ends (n + 2) := by
  cases h with
  | outside h => exact h.ends.mono (by omega)
  | frames h => exact Stage.ends (.fitted (.frames h)) _
  | inside h =>
    cases h.1.2.firm with
    | template hx => exact h.ends hx hn
    | @body body r hbody =>
      have hstands : standsOnBody [body, r] = true := by simp [standsOnBody, hbody]
      refine Stage.ends ?_ _
      rw [← hstands]
      exact .fitted (.inside h)

theorem Rooted.ends (h : c.Rooted) : c.Ends 3 := by
  obtain ⟨hd, r, houtside⟩ := h.insertHead ⟨.head, [], false⟩
  refine .ofAgain ?_ houtside.ends
  unfold Construction.applyMode
  rw [h.2.2.2]
  rfl

theorem Unrooted.ends (h : c.Unrooted) : c.Ends 5 := by
  have hbefore : ∀ {c : Construction}, c.Unrooted → c.mode = .beforeHtml → c.Ends 4 := by
    intro c h hmode
    refine .ofAgain ?_ (h.insertRoot []).ends
    unfold Construction.applyMode
    rw [hmode]
    rfl
  obtain ⟨hrefers, hnone, hopens, hmodes, hmode⟩ := id h
  rcases hmode with hmode | hmode
  · have hnext : { c with vintage := true, mode := .beforeHtml }.Unrooted :=
      ⟨hrefers, hnone, hopens, hmodes, .inr rfl⟩
    refine .ofAgain ?_ (hbefore hnext rfl)
    unfold Construction.applyMode
    rw [hmode]
    rfl
  · exact (hbefore h hmode).mono (by omega)

/-- The end of the text is considered more often than it needs to be. -/
theorem Stage.ends_templates (h : c.Stage b) : c.Ends (c.templateModes.length + 5) := by
  cases h with
  | unrooted h => exact h.ends.mono (by omega)
  | rooted h => exact h.ends.mono (by omega)
  | fitted h => exact (h.ends le_rfl).mono (by omega)
  | @raw _ x rest hmode hopens _ _ h =>
    have hback : { c.pop with mode := c.returnMode }.Fitted b := by
      rw [Construction.pop, hopens, List.tail_cons]
      exact h
    refine (Ends.ofAgain (n := c.templateModes.length + 2) ?_ (hback.ends le_rfl)).mono (by omega)
    unfold Construction.applyMode
    rw [hmode]
    rfl
  | kept hmode _ h =>
    have hflushed : { c.flushTableText with mode := c.returnMode }.Fitted _ := .inside h.flushTableText.rebase
    have hsame : c.flushTableText.templateModes = c.templateModes :=
      (Grows.flushTableText (c := c) h.grows).rules.2.1
    refine (Ends.ofAgain (n := c.templateModes.length + 2) ?_ (hflushed.ends (by rw [hsame]))).mono (by omega)
    unfold Construction.applyMode
    rw [hmode]
    rfl

theorem Stage.accept_eof (h : c.Stage b) : (c.accept .eof).1.Stage true := by
  refine (h.withSkipping false).ends_templates _ ?_
  change c.templateModes.length + 5 ≤ 64 + 4 * c.templateModes.length
  omega

/-! ### What the page shows in the end -/

theorem Fitted.shows (h : c.Fitted true) : c.arena.Sound ∧
    ((∃ root body, ShowsBody c.arena root body) ∨ ∃ root frame, ShowsFrames c.arena root frame) := by
  generalize hb : true = b at h
  cases h with
  | outside => cases hb
  | frames h => exact ⟨h.1.sound, .inr h.2.1⟩
  | inside h =>
    refine ⟨h.grows.sound, ?_⟩
    cases h.1.2.firm with
    | body _ _ hshows => exact .inl ⟨_, _, hshows⟩
    | template hx houter =>
      rw [standsOnBody_template hx houter] at hb
      cases hb

theorem Stage.shows (h : c.Stage true) : c.arena.Sound ∧
    ((∃ root body, ShowsBody c.arena root body) ∨ ∃ root frame, ShowsFrames c.arena root frame) := by
  generalize hb : true = b at h
  cases h with
  | unrooted => cases hb
  | rooted => cases hb
  | fitted h =>
    rw [← hb] at h
    exact h.shows
  | raw _ _ _ _ h =>
    rw [← hb] at h
    exact h.shows
  | kept _ _ h =>
    have hfitted : { c with mode := c.returnMode }.Fitted true := by
      rw [hb]
      exact .inside h
    exact hfitted.shows

theorem unrooted_start : start.Unrooted := by
  have hcell : ∀ id, Arena.empty.parent? id = none ∧ Arena.empty.contents? id = none ∧
      Arena.empty.sort id = .root := by
    intro id
    cases id <;> exact ⟨rfl, rfl, rfl⟩
  have hsound : Arena.empty.Sound := by
    refine ⟨Arena.linked_empty, Nat.one_pos, (hcell _).2.2, fun id parent hparent => ?_, fun id inner hinner => ?_⟩
    · rw [(hcell id).1] at hparent
      cases hparent
    · rw [(hcell id).2.1] at hinner
      cases hinner
  refine ⟨⟨hsound, List.forall_mem_nil _, ?_, ?_, ?_⟩, fun id => ?_, rfl, rfl, .inl rfl⟩
  · intro id tag attrs hmem
    cases hmem
  · intro id hid
    cases hid
  · intro id hid
    cases hid
  · change (Arena.empty.sort id).isScaffold = false
    rw [(hcell id).2.2]
    rfl

end Construction

namespace Parser

open Construction

variable {p : Parser}

/-- The parser reads readable tokens, and its construction is at one of the stages. -/
def Builds (p : Parser) : Prop := p.IsReadable ∧ p.construction.Passes false

theorem Builds.accept (h : p.Builds) {t : Token} (ht : t.IsReadable) : (p.accept t).Builds := by
  refine ⟨h.1.accept ht, ?_⟩
  rw [construction_accept]
  exact h.2.trans fun _ hstage => hstage.accept ht

theorem Builds.acceptAll (h : p.Builds) {ts : List Token} (hts : ∀ t ∈ ts, t.IsReadable) :
    (ts.foldl Parser.accept p).Builds :=
  List.foldlRecOn ts _ h fun _ h t ht => h.accept (hts t ht)

theorem Builds.step (h : p.Builds) (ch : Char) : (p.step ch).Builds := by
  unfold Parser.step
  split
  · exact h
  · have hstep := h.1.1.step p.construction.isInIsland ch
    exact Builds.acceptAll (p := { p with lexer := _, isFresh := false }) ⟨⟨hstep.lexer, h.1.2⟩, h.2⟩
      hstep.tokens

end Parser

/-- In the end a page has a body or framesets in its root element. -/
theorem Document.exists_ofText (text : String) : ∃ a : Arena, Document.ofText text = a.toDocument ∧ a.Sound ∧
    ((∃ root body, ShowsBody a root body) ∨ ∃ root frame, ShowsFrames a root frame) := by
  have hstart : Parser.start.Builds :=
    ⟨Parser.isReadable_start, (Construction.Stage.unrooted Construction.unrooted_start).passes⟩
  have hread : (text.toList.foldl Parser.step Parser.start).Builds :=
    List.foldlRecOn _ _ hstart fun _ h ch _ => h.step ch
  generalize hp : text.toList.foldl Parser.step Parser.start = p at hread
  -- the end of the text comes behind the last tokens
  obtain ⟨last, hlast⟩ : ∃ last, p.lexer.finish = last ++ [.eof] := ⟨_, rfl⟩
  have hfinish := hread.1.1.finish
  rw [hlast] at hfinish
  have hbuilt := hread.acceptAll (List.forall_mem_append.mp hfinish).1
  obtain ⟨b, hstage, -⟩ := hbuilt.2
  refine ⟨((last.foldl Parser.accept p).construction.accept .eof).1.arena, ?_, hstage.accept_eof.shows⟩
  rw [Document.ofText, hp, Parser.finish, hlast, List.foldl_append, List.foldl_cons, List.foldl_nil,
    Parser.construction_accept]

end PageBlocks.Markup
