import PageBlocks.Proofs.Markup.Numbered
import PageBlocks.Proofs.Markup.Reading

/-!
What a text shows where it is read as markup: the start tags in it, by name. A text is read here without a
construction that could change how it is read on, as a reader of fragments does. In running text and in a
quoted attribute value, character references may be open at any place; whatever is read there, the one
character that ends the text or the value ends it in the middle of a reference as well.
-/

namespace PageBlocks.Markup

/-- The name of a start tag. -/
def Token.started? : Token → Option Tag
  | .startTag t => some t.tag
  | _ => none

/-- The names of the start tags among tokens. -/
def startedBy (ts : List Token) : List Tag := ts.filterMap Token.started?

theorem startedBy_append (ts us : List Token) : startedBy (ts ++ us) = startedBy ts ++ startedBy us :=
  List.filterMap_append

@[simp]
theorem startedBy_nil : startedBy [] = [] := rfl

@[simp]
theorem startedBy_chars (cs : List Char) : startedBy (cs.map Token.char) = [] := by
  induction cs with
  | nil => rfl
  | cons c cs ih => exact ih

namespace Lexer

/-- Read a text as markup, without a construction that has a say in it. -/
def run (lx : Lexer) : List Char → Result
  | [] => (lx, [])
  | c :: cs =>
    let (mid, ts) := lx.step false c
    let (last, us) := mid.run cs
    (last, ts ++ us)

theorem isEndTag_finishAttr (lx : Lexer) : lx.finishAttr.isEndTag = lx.isEndTag := by
  rw [finishAttr_eq]

theorem tagName_finishAttr (lx : Lexer) : lx.finishAttr.tagName = lx.tagName := by
  rw [finishAttr_eq]

theorem afterReturn_finishAttr (lx : Lexer) : lx.finishAttr.afterReturn = lx.afterReturn := by
  rw [finishAttr_eq]

/-- A result that shows no start tag, with this tag in the making. -/
structure Still (isEndTag : Bool) (tagName : List Char) (r : Result) : Prop where
  isEndTag : r.1.isEndTag = isEndTag
  tagName : r.1.tagName = tagName
  started : startedBy r.2 = []

/-- The lexer stands where references count, maybe inside of one. -/
def Within (target : ReferenceTarget) (s : LexState) : Prop :=
  s = home target ∨ ∃ phase, s = .reference target phase

/-- A character that ends all that is read for a target, and where it leads. -/
structure Ends (target : ReferenceTarget) (stop : Char) (behind : LexState) : Prop where
  stops : ∀ lx : Lexer, lx.inTarget target stop = lx.goto behind
  goes_on : ∀ (lx : Lexer) (c : Char), c ≠ stop →
    Within target (lx.inTarget target c).1.state ∧ Still lx.isEndTag lx.tagName (lx.inTarget target c)
  resolves : ∀ (lx : Lexer) (cs : List Char),
    Within target (lx.resolve target cs).1.state ∧ Still lx.isEndTag lx.tagName (lx.resolve target cs)
  ends_reference : endsReference target stop = true
  no_name : ¬ Entity.IsNameNumber stop.toNat
  no_word : stop.isAlphanum = false
  no_digit : ∀ base, Text.digitValue? base stop = none
  no_mark : stop ≠ '#' ∧ stop ≠ 'x' ∧ stop ≠ 'X' ∧ stop ≠ ';'
  no_break : stop ≠ '\n' ∧ stop ≠ '\r'

variable {isEndTag : Bool} {tagName : List Char} {r r' : Result}

theorem Still.trans (h : Still isEndTag tagName r) (h' : Still r.1.isEndTag r.1.tagName r') :
    Still isEndTag tagName (r'.1, r.2 ++ r'.2) where
  isEndTag := h'.isEndTag.trans h.isEndTag
  tagName := h'.tagName.trans h.tagName
  started := by rw [startedBy_append, h.started, h'.started, List.append_nil]

theorem Still.withFault (h : Still isEndTag tagName r) (faulty : Bool) :
    Still isEndTag tagName (withFault faulty r) := by
  cases faulty with
  | false => exact h
  | true => exact ⟨h.isEndTag, h.tagName, h.started⟩

theorem state_withFault (faulty : Bool) (r : Result) : (withFault faulty r).1 = r.1 := by
  cases faulty <;> rfl

theorem ends_data : Ends .data '<' .tagOpen where
  stops lx := rfl
  goes_on lx c hc := by
    simp only [inTarget, inData, beq_iff_eq, hc, if_false]
    split
    · exact ⟨.inr ⟨_, rfl⟩, rfl, rfl, rfl⟩
    · exact ⟨.inl rfl, rfl, rfl, rfl⟩
  resolves lx cs := ⟨.inl rfl, rfl, rfl, startedBy_chars cs⟩
  ends_reference := rfl
  no_name := by
    rw [Entity.IsNameNumber]
    decide
  no_word := by decide
  no_digit base := by simp [Text.digitValue?]
  no_mark := by decide
  no_break := by decide

theorem ends_value : Ends (.value .double) '"' .afterAttrValue where
  stops lx := rfl
  goes_on lx c hc := by
    simp only [inTarget, inAttrValue, beq_iff_eq, hc, if_false]
    split
    · exact ⟨.inr ⟨_, rfl⟩, rfl, rfl, rfl⟩
    · exact ⟨.inl rfl, rfl, rfl, rfl⟩
  resolves lx cs := ⟨.inl rfl, rfl, rfl, rfl⟩
  ends_reference := rfl
  no_name := by
    rw [Entity.IsNameNumber]
    decide
  no_word := by decide
  no_digit base := by simp [Text.digitValue?]
  no_mark := by decide
  no_break := by decide

section

variable {target : ReferenceTarget} {stop : Char} {behind : LexState} {lx : Lexer} {foreign : Bool}

/-- A character behind what a reference comes to. -/
theorem Ends.resolveThen (h : Ends target stop behind) (lx : Lexer) (cs : List Char) :
    (lx.resolveThen target cs stop).1.state = behind ∧
      Still lx.isEndTag lx.tagName (lx.resolveThen target cs stop) ∧
      (lx.resolveThen target cs stop).1.afterReturn = lx.afterReturn := by
  have hresolve := (h.resolves lx cs).2
  have hstop : lx.resolveThen target cs stop =
      (((lx.resolve target cs).1.goto behind).1, (lx.resolve target cs).2 ++ []) := by
    rw [Lexer.resolveThen]
    dsimp only
    rw [h.stops]
    rfl
  have hgoto : Still (lx.resolve target cs).1.isEndTag (lx.resolve target cs).1.tagName
      ((lx.resolve target cs).1.goto behind) := ⟨rfl, rfl, rfl⟩
  rw [hstop]
  exact ⟨rfl, hresolve.trans hgoto, afterReturn_resolve lx target cs⟩

theorem Ends.resolveThen_other (h : Ends target stop behind) (lx : Lexer) (cs : List Char) {c : Char}
    (hc : c ≠ stop) : Within target (lx.resolveThen target cs c).1.state ∧
      Still lx.isEndTag lx.tagName (lx.resolveThen target cs c) := by
  have hresolve := (h.resolves lx cs).2
  obtain ⟨hwithin, hstill⟩ := h.goes_on (lx.resolve target cs).1 c hc
  exact ⟨hwithin, hresolve.trans hstill⟩

/-- What ends a target ends a reference by number in it. -/
theorem Ends.inNumber (h : Ends target stop behind) (hlx : lx.afterReturn = false) (base : Nat)
    (marker : List Char) (value : Nat) (hasDigits : Bool) :
    (lx.inNumber target base marker value hasDigits stop).1.state = behind ∧
      Still lx.isEndTag lx.tagName (lx.inNumber target base marker value hasDigits stop) ∧
      (lx.inNumber target base marker value hasDigits stop).1.afterReturn = false := by
  have hthen : ∀ cs, (lx.resolveThen target cs stop).1.state = behind ∧
      Still lx.isEndTag lx.tagName (lx.resolveThen target cs stop) ∧
      (lx.resolveThen target cs stop).1.afterReturn = false := fun cs => hlx ▸ h.resolveThen lx cs
  rw [Lexer.inNumber, h.no_digit]
  dsimp only
  rw [beq_false_of_ne h.no_mark.2.2.2, if_neg Bool.false_ne_true]
  split
  · exact hthen _
  · rw [state_withFault]
    exact ⟨(hthen _).1, (hthen _).2.1.withFault true, (hthen _).2.2⟩

/-- What ends a target ends each reference in it. -/
theorem Ends.inReference (h : Ends target stop behind) (hlx : lx.afterReturn = false)
    (phase : ReferencePhase) :
    (lx.inReference target phase stop).1.state = behind ∧
      Still lx.isEndTag lx.tagName (lx.inReference target phase stop) ∧
      (lx.inReference target phase stop).1.afterReturn = false := by
  have hthen : ∀ cs, (lx.resolveThen target cs stop).1.state = behind ∧
      Still lx.isEndTag lx.tagName (lx.resolveThen target cs stop) ∧
      (lx.resolveThen target cs stop).1.afterReturn = false := fun cs => hlx ▸ h.resolveThen lx cs
  cases phase with
  | ampersand =>
    rw [Lexer.inReference, h.ends_reference, hlx, if_pos (by rfl)]
    exact hthen _
  | named seen =>
    rw [Lexer.inReference, inNamed, Entity.isBeginning_of_not_isNameNumber h.no_name,
      if_neg Bool.false_ne_true]
    split
    · rw [readAgain_eq hlx, state_withFault]
      exact ⟨(hthen _).1, (hthen _).2.1.withFault _, (hthen _).2.2⟩
    · rw [h.no_word, if_neg Bool.false_ne_true, readAgain_eq hlx]
      exact hthen _
  | unknown =>
    rw [Lexer.inReference, inUnknown, h.no_word, if_neg Bool.false_ne_true, clear_afterReturn hlx, h.stops]
    exact ⟨rfl, ⟨rfl, rfl, rfl⟩, hlx⟩
  | numberSign =>
    rw [Lexer.inReference, beq_false_of_ne h.no_mark.2.1, beq_false_of_ne h.no_mark.2.2.1, Bool.false_or,
      if_neg Bool.false_ne_true]
    exact h.inNumber hlx ..
  | number base marker value hasDigits => exact h.inNumber hlx ..

/-! Any other character leaves the lexer within the target, in each phase of a reference. -/

theorem Ends.readAgain_other (h : Ends target stop behind) (lx : Lexer) (r : Reading) {c : Char}
    (hc : c ≠ stop) :
    Within target (lx.readAgain target r c).1.state ∧
      Still lx.isEndTag lx.tagName (lx.readAgain target r c) := by
  rw [readAgain]
  split
  · exact h.resolves { lx with afterReturn := false } r.value
  · exact h.resolveThen_other { lx with afterReturn := false } r.chars hc

theorem Ends.inUnknown_other (h : Ends target stop behind) (lx : Lexer) {c : Char} (hc : c ≠ stop) :
    Within target (lx.inUnknown target c).1.state ∧
      Still lx.isEndTag lx.tagName (lx.inUnknown target c) := by
  rw [inUnknown]
  split
  · have hresolve := (h.resolves lx [c]).2
    exact ⟨.inr ⟨_, rfl⟩, hresolve.isEndTag, hresolve.tagName, hresolve.started⟩
  · exact h.goes_on { lx with afterReturn := false } c hc

theorem Ends.inNamed_other (h : Ends target stop behind) (lx : Lexer) (seen : List Char) {c : Char}
    (hc : c ≠ stop) :
    Within target (lx.inNamed target seen c).1.state ∧
      Still lx.isEndTag lx.tagName (lx.inNamed target seen c) := by
  rw [inNamed]
  split
  · exact ⟨.inr ⟨_, rfl⟩, rfl, rfl, rfl⟩
  · split
    · rw [state_withFault]
      exact ⟨(h.readAgain_other lx _ hc).1, (h.readAgain_other lx _ hc).2.withFault _⟩
    · split
      · have hresolve := (h.resolves lx (Reading.literal seen.reverse).chars).2
        have hunknown := h.inUnknown_other (lx.resolve target (Reading.literal seen.reverse).chars).1 hc
        exact ⟨hunknown.1, hresolve.trans hunknown.2⟩
      · exact h.readAgain_other lx _ hc

theorem Ends.inNumber_other (h : Ends target stop behind) (lx : Lexer) (base : Nat)
    (marker : List Char) (value : Nat) (hasDigits : Bool) {c : Char} (hc : c ≠ stop) :
    Within target (lx.inNumber target base marker value hasDigits c).1.state ∧
      Still lx.isEndTag lx.tagName (lx.inNumber target base marker value hasDigits c) := by
  rw [Lexer.inNumber]
  split
  · exact ⟨.inr ⟨_, rfl⟩, rfl, rfl, rfl⟩
  · split
    · exact h.resolveThen_other lx _ hc
    · split
      · exact h.resolves lx _
      · rw [state_withFault]
        exact ⟨(h.resolveThen_other lx _ hc).1, (h.resolveThen_other lx _ hc).2.withFault _⟩

/-- What does not end a target leaves the lexer within it. -/
theorem Ends.inReference_other (h : Ends target stop behind) (lx : Lexer) (phase : ReferencePhase)
    {c : Char} (hc : c ≠ stop) :
    Within target (lx.inReference target phase c).1.state ∧
      Still lx.isEndTag lx.tagName (lx.inReference target phase c) := by
  cases phase with
  | ampersand =>
    rw [Lexer.inReference]
    split
    · exact h.resolveThen_other lx _ hc
    · split
      · exact ⟨.inr ⟨_, rfl⟩, rfl, rfl, rfl⟩
      · exact h.inNamed_other lx [] hc
  | named seen => exact h.inNamed_other lx seen hc
  | unknown => exact h.inUnknown_other lx hc
  | numberSign =>
    rw [Lexer.inReference]
    split
    · exact ⟨.inr ⟨_, rfl⟩, rfl, rfl, rfl⟩
    · exact h.inNumber_other lx _ _ _ _ hc
  | number base marker value hasDigits => exact h.inNumber_other lx _ _ _ _ hc

/-- Where references count, a character is read there or inside of one. -/
theorem dispatch_within (lx : Lexer) (h : Within target lx.state) (c : Char) :
    lx.dispatch foreign c = lx.inTarget target c ∨
      ∃ phase, lx.dispatch foreign c = lx.inReference target phase c := by
  rcases h with h | ⟨phase, h⟩
  · left
    cases target <;> rw [dispatch, h, home] <;> rfl
  · right
    exact ⟨phase, by rw [dispatch, h]⟩

theorem behindBreak_within {state : LexState} (h : Within target state) : behindBreak state = state := by
  rcases h with rfl | ⟨phase, rfl⟩
  · cases target <;> rfl
  · rfl

/-- What ends a target is read as such. -/
theorem Ends.step (h : Ends target stop behind) (foreign : Bool) (hlx : Within target lx.state) :
    (lx.step foreign stop).1.state = behind ∧ Still lx.isEndTag lx.tagName (lx.step foreign stop) ∧
      (lx.step foreign stop).1.afterReturn = false := by
  have hstep : lx.step foreign stop = { lx with afterReturn := false }.dispatch foreign stop := by
    rw [Lexer.step, beq_false_of_ne h.no_break.1, Bool.and_false, if_neg Bool.false_ne_true,
      if_neg (by simpa using h.no_break.2)]
  rw [hstep]
  rcases dispatch_within { lx with afterReturn := false } hlx stop with hread | ⟨phase, hread⟩
  · rw [hread, h.stops]
    exact ⟨rfl, ⟨rfl, rfl, rfl⟩, rfl⟩
  · rw [hread]
    exact h.inReference rfl phase

/-- Any other character leaves the lexer where references count. -/
theorem Ends.step_other (h : Ends target stop behind) (foreign : Bool)
    (hlx : Within target lx.state) {c : Char} (hc : c ≠ stop) :
    Within target (lx.step foreign c).1.state ∧
      Still lx.isEndTag lx.tagName (lx.step foreign c) := by
  have hdispatch : ∀ (afterReturn : Bool) (d : Char), d ≠ stop →
      Within target ({ lx with afterReturn := afterReturn }.dispatch foreign d).1.state ∧
      Still lx.isEndTag lx.tagName ({ lx with afterReturn := afterReturn }.dispatch foreign d) := by
    intro afterReturn d hd
    rcases dispatch_within { lx with afterReturn := afterReturn } hlx d with hread | ⟨phase, hread⟩
    · rw [hread]
      exact h.goes_on { lx with afterReturn := afterReturn } d hd
    · rw [hread]
      exact h.inReference_other { lx with afterReturn := afterReturn } phase hd
  rw [Lexer.step]
  split
  · exact ⟨(behindBreak_within hlx).symm ▸ hlx, rfl, rfl, rfl⟩
  · split
    · exact hdispatch true '\n' (Ne.symm h.no_break.1)
    · exact hdispatch false c hc

/-! ### Texts -/

theorem run_cons (lx : Lexer) (c : Char) (cs : List Char) :
    lx.run (c :: cs) = (((lx.step false c).1.run cs).1,
      (lx.step false c).2 ++ ((lx.step false c).1.run cs).2) := rfl

theorem run_append (lx : Lexer) (cs ds : List Char) :
    lx.run (cs ++ ds) = (((lx.run cs).1.run ds).1, (lx.run cs).2 ++ ((lx.run cs).1.run ds).2) := by
  induction cs generalizing lx with
  | nil => rfl
  | cons c cs ih => rw [List.cons_append, run_cons, ih, run_cons, List.append_assoc]

theorem Ends.run (h : Ends target stop behind) {lx : Lexer} (hlx : Within target lx.state) {cs : List Char}
    (hcs : stop ∉ cs) :
    Within target (lx.run cs).1.state ∧ Still lx.isEndTag lx.tagName (lx.run cs) := by
  induction cs generalizing lx with
  | nil => exact ⟨hlx, rfl, rfl, rfl⟩
  | cons c cs ih =>
    rw [List.mem_cons, not_or] at hcs
    obtain ⟨hwithin, hstill⟩ := h.step_other false hlx (Ne.symm hcs.1)
    obtain ⟨hend, hrest⟩ := ih hwithin hcs.2
    rw [run_cons]
    exact ⟨hend, hstill.trans hrest⟩

end

/-- A piece of a text shows start tags, wherever in running text it stands, and running text goes on
behind it. -/
def Shows (cs : List Char) (tags : List Tag) : Prop :=
  ∀ lx : Lexer, Within .data lx.state →
    Within .data (lx.run cs).1.state ∧ startedBy (lx.run cs).2 = tags

variable {cs ds : List Char} {tags more : List Tag}

theorem Shows.nil : Shows [] [] := fun _ hlx => ⟨hlx, rfl⟩

theorem Shows.append (h : Shows cs tags) (h' : Shows ds more) : Shows (cs ++ ds) (tags ++ more) := by
  intro lx hlx
  obtain ⟨hmid, htags⟩ := h lx hlx
  obtain ⟨hend, hmore⟩ := h' _ hmid
  rw [run_append]
  exact ⟨hend, by rw [startedBy_append, htags, hmore]⟩

/-- Text without brackets that open shows nothing. -/
theorem shows_text (h : '<' ∉ cs) : Shows cs [] := fun _ hlx =>
  ⟨(ends_data.run hlx h).1, (ends_data.run hlx h).2.started⟩

end Lexer

end PageBlocks.Markup
