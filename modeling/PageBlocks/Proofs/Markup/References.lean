import PageBlocks.Markup.Lexer

/-!
Reading the references that escaping leaves. The lexer learns that such a reference is complete only from
the character behind it, so for one step it holds the character that the reference stands for back.
-/
namespace PageBlocks.Markup

open Lexer

/-- A name that stands for one character wherever it is met, and that no other name goes on from. -/
structure Entity.Settles (name : List Char) (value : Char) : Prop where
  opens : ∃ first tail, name = first :: tail ∧ first ≠ '#' ∧
    ∀ target, endsReference target first = false
  no_break : '\r' ∉ name
  beginning : ∀ k < name.length, isBeginning (name.take (k + 1)) = true
  no_further : ∀ c, isBeginning (name ++ [c]) = false
  reading : ∀ target next, reading? target name next = some ⟨[value], [], false⟩

namespace Entity

/-- What has to be looked up about a name, as a computation. -/
def settles (name : List Char) (value : Char) : Bool :=
  name.all (fun c => c.isAlphanum || c == ';') && name.head?.any Char.isAlpha &&
    name.getLast? == some ';' &&
    (List.range name.length).all (fun k => isBeginning (name.take (k + 1))) &&
    (candidates name).all (fun e => !name.isPrefixOf e.name || e.name == name) &&
    (longest? name).any fun e => e.name == name && e.value == [value]

theorem endsReference_of_isAlpha {c : Char} (h : c.isAlpha = true) (target : ReferenceTarget) :
    endsReference target c = false := by
  have hne : ∀ d : Char, d.isAlpha = false → c ≠ d := by
    rintro d hd rfl
    rw [h] at hd
    cases hd
  have hspace : isSpace c = false := by
    simp [isSpace, hne '\t' rfl, hne '\n' rfl, hne '\x0c' rfl, hne ' ' rfl]
  unfold endsReference
  rw [hspace, beq_false_of_ne (hne '<' rfl), beq_false_of_ne (hne '&' rfl)]
  split
  · simp [hne '"' rfl]
  · simp [hne '\'' rfl]
  · simp [hne '>' rfl]
  · rfl

theorem settles_of {name : List Char} {value : Char} (h : settles name value = true) :
    Settles name value := by
  simp only [settles, Bool.and_eq_true, List.all_eq_true, beq_iff_eq] at h
  obtain ⟨⟨⟨⟨⟨hchars, hhead⟩, hlast⟩, hbeginning⟩, hfurther⟩, hlongest⟩ := h
  obtain ⟨first, tail, rfl⟩ : ∃ first tail, name = first :: tail := by
    cases name with
    | nil => cases hlast
    | cons first tail => exact ⟨first, tail, rfl⟩
  have halpha : first.isAlpha = true := hhead
  constructor
  · refine ⟨first, tail, rfl, ?_, endsReference_of_isAlpha halpha⟩
    rintro rfl
    cases halpha
  · intro hmem
    exact absurd (hchars _ hmem) (by decide)
  · intro k hk
    exact hbeginning k (List.mem_range.mpr hk)
  · intro c
    rw [isBeginning, List.any_eq_false]
    intro e he hlonger
    -- a longer name would begin with this one, and no other name does
    have hbegins : first :: tail <+: e.name :=
      (List.prefix_append _ _).trans (List.isPrefixOf_iff_prefix.mp hlonger)
    have hname : e.name = first :: tail := by
      simpa [List.isPrefixOf_iff_prefix.mpr hbegins] using hfurther e he
    have hlength := (List.isPrefixOf_iff_prefix.mp hlonger).length_le
    rw [hname, List.length_append, List.length_singleton] at hlength
    omega
  · intro target next
    cases hfound : longest? (first :: tail) with
    | none =>
      rw [hfound] at hlongest
      cases hlongest
    | some e =>
      rw [hfound] at hlongest
      obtain ⟨hname, hvalue⟩ : e.name = first :: tail ∧ e.value = [value] := by
        simpa using hlongest
      simp [reading?, hfound, hname, hvalue, hlast]

theorem settles_amp : Settles "amp;".toList '&' := settles_of (by decide +kernel)

theorem settles_lt : Settles "lt;".toList '<' := settles_of (by decide +kernel)

theorem settles_gt : Settles "gt;".toList '>' := settles_of (by decide +kernel)

theorem settles_quot : Settles "quot;".toList '"' := settles_of (by decide +kernel)

theorem settles_nbsp : Settles "nbsp;".toList '\u00a0' := settles_of (by decide +kernel)

end Entity

namespace Lexer

/-- Reading a text completes no token and leads from one lexer to another. -/
def Passes (foreign : Bool) (lx : Lexer) : List Char → Lexer → Prop
  | [], lx' => lx = lx'
  | c :: cs, lx' => ∃ mid, lx.step foreign c = (mid, []) ∧ Passes foreign mid cs lx'

variable {foreign : Bool} {lx mid lx' : Lexer}

theorem Passes.append {cs ds : List Char} (h : Passes foreign lx cs mid)
    (h' : Passes foreign mid ds lx') : Passes foreign lx (cs ++ ds) lx' := by
  induction cs generalizing lx with
  | nil =>
    obtain rfl : lx = mid := h
    exact h'
  | cons c cs ih =>
    obtain ⟨next, hstep, hrest⟩ := h
    exact ⟨next, hstep, ih hrest⟩

theorem passes_one {c : Char} (h : lx.step foreign c = (lx', [])) : Passes foreign lx [c] lx' :=
  ⟨lx', h, rfl⟩

/-- A character that is no line break is read as it stands. -/
theorem step_eq (h : lx.afterReturn = false) {c : Char} (hc : c ≠ '\r') :
    lx.step foreign c = lx.dispatch foreign c := by
  have hlx : { lx with afterReturn := false } = lx := by
    cases lx
    cases h
    rfl
  rw [step, h, Bool.false_and, if_neg Bool.false_ne_true, if_neg (by simpa using hc), hlx]

/-! ### References -/

/-- Where a text stands in which references count. -/
def home : ReferenceTarget → LexState
  | .data => .data
  | .escapable => .raw .escapable
  | .value quoting => .attrValue quoting

theorem dispatch_ampersand {target : ReferenceTarget} (h : lx.state = home target) :
    lx.dispatch foreign '&' = ({ lx with state := .reference target .ampersand }, []) := by
  cases target with
  | data => simp [dispatch, h, home, inData, goto]
  | escapable => simp [dispatch, h, home, inRaw, goto]
  | value quoting => cases quoting <;> simp [dispatch, h, home, inAttrValue, goto, isSpace]

/-- The lexer holds back the character that a complete reference stands for. -/
def holding (lx : Lexer) (target : ReferenceTarget) (name : List Char) : Lexer :=
  { lx with state := .reference target (.named name.reverse) }

theorem passes_name {target : ReferenceTarget} {name : List Char} {value : Char}
    (h : lx.afterReturn = false) (hname : Entity.Settles name value) {k : Nat}
    (hpos : 0 < k) (hk : k ≤ name.length) :
    Passes foreign { lx with state := .reference target .ampersand } (name.take k)
      (lx.holding target (name.take k)) := by
  induction k with
  | zero => omega
  | succ k ih =>
    have hbeginning := hname.beginning k (by omega)
    have hchar : name[k] ≠ '\r' := by
      intro heq
      exact hname.no_break (heq ▸ List.getElem_mem _)
    have htake : name.take (k + 1) = name.take k ++ [name[k]] := List.take_succ_eq_append_getElem hk
    by_cases hzero : k = 0
    · subst hzero
      obtain ⟨first, tail, rfl, hsign, hends⟩ := hname.opens
      have hfirstChar : first ≠ '\r' := hchar
      refine passes_one ?_
      rw [step_eq (by exact h) hfirstChar]
      have hfirst : Entity.isBeginning [first] = true := by simpa using hbeginning
      simp [dispatch, inReference, hends target, hsign, inNamed, hfirst, holding, goto]
    · have hseen : name[k] :: (name.take k).reverse = (name.take (k + 1)).reverse := by
        rw [htake, List.reverse_append]
        rfl
      have hstep : (lx.holding target (name.take k)).step foreign name[k] =
          (lx.holding target (name.take (k + 1)), []) := by
        rw [step_eq (by exact h) hchar]
        change inNamed _ target (name.take k).reverse name[k] = _
        rw [inNamed, hseen, List.reverse_reverse, hbeginning, if_pos rfl]
        rfl
      rw [htake] at hstep ⊢
      exact (ih (by omega) (by omega)).append (passes_one hstep)

/-- A reference is read up to its end. -/
theorem passes_reference {target : ReferenceTarget} {name : List Char} {value : Char}
    (h : lx.afterReturn = false) (hstate : lx.state = home target)
    (hname : Entity.Settles name value) :
    Passes foreign lx ('&' :: name) (lx.holding target name) := by
  have hpos : 0 < name.length := by
    obtain ⟨first, tail, rfl, -⟩ := hname.opens
    exact Nat.succ_pos _
  have hpasses : Passes foreign { lx with state := .reference target .ampersand }
      (name.take name.length) (lx.holding target (name.take name.length)) :=
    passes_name h hname hpos (Nat.le_refl _)
  rw [List.take_length] at hpasses
  exact ⟨_, (step_eq h (by decide)).trans (dispatch_ampersand hstate), hpasses⟩

/-- The character behind a reference settles it. -/
theorem step_holding {target : ReferenceTarget} {name : List Char} {value : Char}
    (h : lx.afterReturn = false) (hname : Entity.Settles name value) {c : Char} (hc : c ≠ '\r') :
    (lx.holding target name).step foreign c = lx.resolveThen target [value] c := by
  rw [step_eq (by exact h) hc]
  change inNamed _ target name.reverse c = _
  rw [inNamed, List.reverse_cons, List.reverse_reverse, hname.no_further c,
    if_neg Bool.false_ne_true, hname.reading target (some c)]
  -- what is resolved does not depend on the state that has been reached
  cases lx
  cases h
  cases target <;> rfl

end Lexer

end PageBlocks.Markup
