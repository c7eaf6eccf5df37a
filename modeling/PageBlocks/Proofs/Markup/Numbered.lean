import PageBlocks.Proofs.Json.Numbers
import PageBlocks.Proofs.Markup.References

/-!
Reading references by number. Where the lexer stands in running text or in an attribute value, or may do
so once the next character has been seen, a reference to a character outside of ASCII or to a square
bracket leads to the same place as the character itself, with the same tokens on the way.
-/
namespace PageBlocks.Markup

/-- A character that is part of no name, number or tag: an ampersand, a square bracket, or one outside of
ASCII. -/
def Aloof (c : Char) : Prop := c = '&' ∨ c = '[' ∨ c = ']' ∨ Text.isAscii c = false

namespace Aloof

variable {c : Char}

theorem val_cases (h : Aloof c) :
    c.val.toNat = 38 ∨ c.val.toNat = 91 ∨ c.val.toNat = 93 ∨ 128 ≤ c.val.toNat := by
  rcases h with rfl | rfl | rfl | h
  · exact .inl rfl
  · exact .inr (.inl rfl)
  · exact .inr (.inr (.inl rfl))
  · exact .inr (.inr (.inr (by simpa [Text.isAscii] using h)))

theorem ne (h : Aloof c) {d : Char} (hd : (!(['&', '[', ']'].contains d) && Text.isAscii d) = true) :
    c ≠ d := by
  rintro rfl
  rcases h with rfl | rfl | rfl | h
  · cases hd
  · cases hd
  · cases hd
  · rw [h, Bool.and_false] at hd
    cases hd

theorem beq (h : Aloof c) {d : Char}
    (hd : (!(['&', '[', ']'].contains d) && Text.isAscii d) = true) : (c == d) = false :=
  beq_false_of_ne (h.ne hd)

/-- Letters and digits lie inside of ASCII, in ranges above the ampersand and on either side of the
brackets. -/
theorem not_between (h : Aloof c) {a b : Char} (ha : 38 < a.val.toNat) (hb : b.val.toNat < 128)
    (hside : b.val.toNat < 91 ∨ 93 < a.val.toNat) : ¬ (a.val ≤ c.val ∧ c.val ≤ b.val) := by
  have hval := h.val_cases
  rw [UInt32.le_iff_toNat_le, UInt32.le_iff_toNat_le]
  omega

theorem isAlphanum (h : Aloof c) : c.isAlphanum = false := by
  rw [Bool.eq_false_iff]
  intro hc
  rcases (Bool.or_eq_true _ _).mp hc with halpha | hdigit
  · rcases (Bool.or_eq_true _ _).mp halpha with hupper | hlower
    · have hrange : 'A'.val ≤ c.val ∧ c.val ≤ 'Z'.val := of_decide_eq_true hupper
      exact h.not_between (by decide) (by decide) (by decide) hrange
    · obtain ⟨hlow, hhigh⟩ := (Bool.and_eq_true _ _).mp hlower
      exact h.not_between (by decide) (by decide) (by decide) ⟨of_decide_eq_true hlow, of_decide_eq_true hhigh⟩
  · obtain ⟨hlow, hhigh⟩ := (Bool.and_eq_true _ _).mp hdigit
    exact h.not_between (by decide) (by decide) (by decide) ⟨of_decide_eq_true hlow, of_decide_eq_true hhigh⟩

theorem isAlpha (h : Aloof c) : c.isAlpha = false := (Bool.or_eq_false_iff.mp h.isAlphanum).1

theorem isSpace (h : Aloof c) : Lexer.isSpace c = false := by
  rw [Lexer.isSpace, h.beq rfl, h.beq rfl, h.beq rfl, h.beq rfl]
  rfl

theorem digitValue? (h : Aloof c) (base : Nat) : Text.digitValue? base c = none := by
  have hdigit : c.isDigit = false := (Bool.or_eq_false_iff.mp h.isAlphanum).2
  have hsmall : ¬ ('a' ≤ c ∧ c ≤ 'f') := h.not_between (by decide) (by decide) (by decide)
  have hcapital : ¬ ('A' ≤ c ∧ c ≤ 'F') := h.not_between (by decide) (by decide) (by decide)
  simp [Text.digitValue?, hdigit, hsmall, hcapital]

end Aloof

namespace Entity

/-- A byte of a letter, a digit or a semicolon, among others, but not that of an ampersand, of a bracket
that opens a tag or of a square bracket. -/
def isNameByte (b : UInt8) : Bool :=
  Nat.blt 38 b.toNat && Nat.blt b.toNat 128 &&
    !(Nat.beq b.toNat 60 || Nat.beq b.toNat 91 || Nat.beq b.toNat 93)

/-- The bytes of the names are looked up, since decoding all the names takes much longer. -/
theorem startingWith_rows (first : Char) :
    ∃ rows : List (String × String),
      startingWith first = rows.map (fun r => ⟨r.1.toList, r.2.toList⟩) ∧
      rows.all (fun r => r.1.toByteArray.data.toList.all isNameByte) = true := by
  unfold startingWith
  split
  case h_53 => exact ⟨[], rfl, rfl⟩
  all_goals
    refine ⟨_, rfl, ?_⟩
    decide +kernel

/-- Whether a character can be in a name, as far as its number tells. -/
def IsNameNumber (n : Nat) : Prop := 38 < n ∧ n < 128 ∧ n ≠ 60 ∧ n ≠ 91 ∧ n ≠ 93

theorem isNameByte_iff (b : UInt8) : isNameByte b = true ↔ IsNameNumber b.toNat := by
  simp only [isNameByte, IsNameNumber, Bool.and_eq_true, Nat.blt_eq, Bool.not_eq_true',
    ← Bool.not_eq_true, Bool.or_eq_true, Nat.beq_eq, not_or, and_assoc, ne_eq]

theorem toNat_of_bytes {s : String} (h : s.toByteArray.data.toList.all isNameByte = true)
    {c : Char} (hc : c ∈ s.toList) : IsNameNumber c.toNat := by
  rw [← String.utf8Encode_toList, List.utf8Encode, List.data_toByteArray, List.all_eq_true] at h
  have hbytes : ∀ b ∈ String.utf8EncodeChar c, IsNameNumber b.toNat := by
    intro b hb
    exact (isNameByte_iff b).mp (h b (List.mem_flatMap.mpr ⟨c, hc, hb⟩))
  have hfirst : ∀ (n : Nat) (bs : List UInt8),
      (∀ b ∈ UInt8.ofNat n :: bs, IsNameNumber b.toNat) → IsNameNumber (n % 256) := by
    intro n bs hbs
    have hn := hbs _ List.mem_cons_self
    rwa [UInt8.toNat_ofNat'] at hn
  have hval : c.toNat = c.val.toNat := rfl
  unfold String.utf8EncodeChar at hbytes
  dsimp only at hbytes
  unfold IsNameNumber at hfirst ⊢
  -- the first of several bytes is no byte of a name
  repeat' split at hbytes
  all_goals
    have := hfirst _ _ hbytes
    omega

/-- A character whose number is out of the question is in no name. -/
theorem not_mem_name {first c : Char} {e : Entity} (he : e ∈ startingWith first)
    (hc : ¬ IsNameNumber c.toNat) : c ∉ e.name := by
  intro hmem
  obtain ⟨rows, hrows, hall⟩ := startingWith_rows first
  rw [hrows] at he
  obtain ⟨r, hr, rfl⟩ := List.mem_map.mp he
  exact hc (toNat_of_bytes (List.all_eq_true.mp hall r hr) hmem)

theorem isBeginning_of_not_isNameNumber {c : Char} (hc : ¬ IsNameNumber c.toNat)
    (seen : List Char) : isBeginning (c :: seen).reverse = false := by
  rw [isBeginning, List.any_eq_false]
  intro e he hbegins
  have hmem : c ∈ e.name := by
    refine (List.isPrefixOf_iff_prefix.mp hbegins).subset ?_
    simp
  revert he
  cases (c :: seen).reverse with
  | nil =>
    intro he
    cases he
  | cons first _ =>
    intro he
    exact not_mem_name he hc hmem

theorem isBeginning_of_aloof {c : Char} (hc : Aloof c) (seen : List Char) :
    isBeginning (c :: seen).reverse = false := by
  apply isBeginning_of_not_isNameNumber
  have hval : c.toNat = c.val.toNat := rfl
  have := hc.val_cases
  rw [IsNameNumber]
  omega

end Entity

namespace Lexer

/-- Where the text goes on if the next character is aloof, if references count there. -/
def referenceTarget? : LexState → Option ReferenceTarget
  | .data | .tagOpen => some .data
  | .raw .escapable | .rawLess .escapable | .rawEndTagOpen .escapable | .rawEndTagName .escapable =>
    some .escapable
  | .attrValue quoting => some (.value quoting)
  | .beforeAttrValue => some (.value .none)
  | .reference target _ => some target
  | _ => none

/-- A token that is no tag, comment or declaration. -/
def IsTextual (t : Token) : Prop := t = .fault ∨ ∃ c, t = .char c

variable {foreign : Bool} {lx mid : Lexer} {target : ReferenceTarget} {c : Char}

/-- Characters that are aloof are read where the text goes on, behind some tokens of text. -/
def GoesOn (lx : Lexer) (foreign : Bool) (target : ReferenceTarget) (mid : Lexer)
    (pre : List Token) : Prop :=
  mid.afterReturn = false ∧ (∀ t ∈ pre, IsTextual t) ∧
    ∀ c, Aloof c → lx.dispatch foreign c =
      ((mid.inTarget target c).1, pre ++ (mid.inTarget target c).2)

theorem isTextual_chars (cs : List Char) : ∀ t ∈ cs.map Token.char, IsTextual t := by
  intro t ht
  obtain ⟨c, -, rfl⟩ := List.mem_map.mp ht
  exact .inr ⟨c, rfl⟩

theorem isTextual_resolve (lx : Lexer) (target : ReferenceTarget) (cs : List Char) :
    ∀ t ∈ (lx.resolve target cs).2, IsTextual t := by
  cases target with
  | data | escapable => exact isTextual_chars cs
  | value quoting => exact fun t ht => nomatch ht

theorem afterReturn_resolve (lx : Lexer) (target : ReferenceTarget) (cs : List Char) :
    (lx.resolve target cs).1.afterReturn = lx.afterReturn := by
  cases target <;> rfl

theorem clear_afterReturn (h : lx.afterReturn = false) : { lx with afterReturn := false } = lx := by
  cases lx
  cases h
  rfl

/-- The text goes on behind characters that a reference comes to. -/
theorem goesOn_resolve (h : lx.afterReturn = false) (cs : List Char) (faulty : Bool)
    (hread : ∀ c, Aloof c → lx.dispatch foreign c = withFault faulty (lx.resolveThen target cs c)) :
    ∃ mid pre, GoesOn lx foreign target mid pre := by
  have hafter := (afterReturn_resolve lx target cs).trans h
  have htextual := isTextual_resolve lx target cs
  cases faulty with
  | false => exact ⟨_, _, hafter, htextual, hread⟩
  | true =>
    refine ⟨_, .fault :: (lx.resolve target cs).2, hafter, ?_, hread⟩
    intro t ht
    rcases List.mem_cons.mp ht with rfl | ht
    · exact .inl rfl
    · exact htextual t ht

/-- Of what follows a name it only counts whether a word goes on. -/
theorem reading?_of_aloof (hc : Aloof c) (name : List Char) :
    reading? target name (some c) = reading? target name (some '&') := by
  have hword : ∀ rest : List Char,
      (rest.head?.or (some c)).any (fun d => d == '=' || d.isAlphanum) =
        (rest.head?.or (some '&')).any (fun d => d == '=' || d.isAlphanum) := by
    intro rest
    cases rest with
    | nil => simp [hc.beq (d := '=') rfl, hc.isAlphanum]
    | cons d rest => rfl
  unfold reading?
  simp only [hword]

theorem readAgain_eq (h : lx.afterReturn = false) (r : Reading) (c : Char) :
    lx.readAgain target r c = lx.resolveThen target r.chars c := by
  rw [readAgain, h, Bool.false_and, if_neg Bool.false_ne_true, clear_afterReturn h]

/-- A name ends before a character that is aloof. -/
theorem inNamed_aloof (h : lx.afterReturn = false) (hc : Aloof c) (seen : List Char) :
    lx.inNamed target seen c =
      let r := (reading? target seen.reverse (some '&')).getD (.literal seen.reverse)
      withFault r.isFaulty (lx.resolveThen target r.chars c) := by
  rw [inNamed, Entity.isBeginning_of_aloof hc, if_neg Bool.false_ne_true, reading?_of_aloof hc]
  cases reading? target seen.reverse (some '&') with
  | some r =>
    dsimp only [Option.getD_some]
    rw [readAgain_eq h]
  | none =>
    dsimp only [Option.getD_none]
    rw [hc.isAlphanum, if_neg Bool.false_ne_true, readAgain_eq h]
    rfl

/-- What may have been the beginning of a tag. -/
def heldBack (lx : Lexer) : List Char :=
  match lx.state with
  | .tagOpen | .rawLess _ => ['<']
  | .rawEndTagOpen _ => ['<', '/']
  | .rawEndTagName _ => '<' :: '/' :: lx.pending.reverse
  | _ => []

/-- Outside of references, what may have been a tag turns out to be text. -/
theorem dispatch_aloof (htarget : referenceTarget? lx.state = some target)
    (hoff : ∀ target phase, lx.state ≠ .reference target phase) (hc : Aloof c) :
    lx.dispatch foreign c = after lx.heldBack (lx.inTarget target c) := by
  rw [dispatch, heldBack]
  have hslash : c ≠ '/' := hc.ne rfl
  cases hstate : lx.state with
  | data | attrValue quoting =>
    rw [hstate] at htarget
    cases htarget
    rfl
  | tagOpen =>
    rw [hstate] at htarget
    cases htarget
    dsimp only
    rw [inTagOpen, hc.beq rfl, hc.beq rfl, hc.beq rfl, hc.isAlpha]
    rfl
  | beforeAttrValue =>
    rw [hstate] at htarget
    cases htarget
    dsimp only
    rw [inBeforeAttrValue, hc.isSpace, hc.beq rfl, hc.beq rfl, hc.beq rfl]
    rfl
  | raw kind | rawLess kind | rawEndTagOpen kind | rawEndTagName kind =>
    rw [hstate] at htarget
    cases kind with
    | escapable =>
      cases htarget
      simp [inRawLess, inRawEndTagOpen, inRawEndTagName, inTarget, hslash, hc.isAlpha, hc.isSpace,
        hc.beq (d := '>') rfl, after]
    | _ => cases htarget
  | reference target phase => exact absurd hstate (hoff target phase)
  | _ =>
    rw [hstate] at htarget
    cases htarget

theorem goesOn_reference (h : lx.afterReturn = false) {phase : ReferencePhase}
    (hstate : lx.state = .reference target phase) :
    ∃ mid pre, GoesOn lx foreign target mid pre := by
  have hdispatch : ∀ c, lx.dispatch foreign c = lx.inReference target phase c := by
    intro c
    rw [dispatch, hstate]
  cases phase with
  | ampersand =>
    refine goesOn_resolve h ['&'] false ?_
    intro c hc
    rw [hdispatch, inReference]
    split
    · rfl
    · rw [if_neg (by simpa using hc.ne rfl), inNamed_aloof h hc]
      rfl
  | named seen =>
    let r := (reading? target seen.reverse (some '&')).getD (.literal seen.reverse)
    refine goesOn_resolve h r.chars r.isFaulty ?_
    intro c hc
    rw [hdispatch, inReference, inNamed_aloof h hc]
  | unknown =>
    refine ⟨lx, [], h, isTextual_chars [], ?_⟩
    intro c hc
    rw [hdispatch, inReference, inUnknown, hc.isAlphanum, if_neg Bool.false_ne_true, clear_afterReturn h]
    rfl
  | numberSign =>
    refine goesOn_resolve h ['&', '#'] false ?_
    intro c hc
    simp [hdispatch, inReference, hc.beq (d := 'x') rfl, hc.beq (d := 'X') rfl, inNumber,
      hc.digitValue?, withFault]
  | number base marker value hasDigits =>
    cases hasDigits with
    | false =>
      refine goesOn_resolve h ('&' :: '#' :: marker) false ?_
      intro c hc
      simp [hdispatch, inReference, inNumber, hc.digitValue?, withFault]
    | true =>
      refine goesOn_resolve h [numbered value] true ?_
      intro c hc
      simp [hdispatch, inReference, inNumber, hc.digitValue?, hc.beq (d := ';') rfl]

/-- Where references count, the text goes on with whatever character is aloof. -/
theorem exists_goesOn (h : lx.afterReturn = false)
    (htarget : referenceTarget? lx.state = some target) :
    ∃ mid pre, GoesOn lx foreign target mid pre := by
  by_cases hoff : ∀ target phase, lx.state ≠ .reference target phase
  · exact ⟨lx, lx.heldBack.map Token.char, h, isTextual_chars _,
      fun c hc => dispatch_aloof htarget hoff hc⟩
  · push Not at hoff
    obtain ⟨other, phase, hstate⟩ := hoff
    rw [hstate] at htarget
    cases htarget
    exact goesOn_reference h hstate

/-! ### Numbers -/

theorem inTarget_ampersand (lx : Lexer) (target : ReferenceTarget) :
    lx.inTarget target '&' = ({ lx with state := .reference target .ampersand }, []) := by
  cases target with
  | value quoting => cases quoting <;> rfl
  | _ => rfl

/-- A character that is aloof stands for itself where references count, unless it is an ampersand. -/
theorem inTarget_of_aloof (lx : Lexer) (target : ReferenceTarget) (hc : Aloof c) (hne : c ≠ '&') :
    lx.inTarget target c = lx.resolve target [c] := by
  have hamp : (c == '&') = false := beq_false_of_ne hne
  have hmended : mended c = c := by rw [mended, hc.beq rfl, if_neg Bool.false_ne_true]
  cases target with
  | data => simp [inTarget, inData, hamp, hc.beq (d := '<') rfl, resolve]
  | escapable => simp [inTarget, inRaw, hamp, hc.beq (d := '<') rfl, hmended, resolve]
  | value quoting =>
    cases quoting <;>
      simp [inTarget, inAttrValue, hamp, hc.beq (d := '"') rfl, hc.beq (d := '\'') rfl,
        hc.beq (d := '>') rfl, hc.isSpace, hmended, resolve]

theorem toNat_of_isDigit {d : Char} (hd : d.isDigit = true) : 48 ≤ d.toNat ∧ d.toNat ≤ 57 := by
  rw [Char.isDigit, Bool.and_eq_true, decide_eq_true_eq, decide_eq_true_eq] at hd
  exact ⟨UInt32.le_iff_toNat_le.mp hd.1, UInt32.le_iff_toNat_le.mp hd.2⟩

theorem digitValue?_digit {d : Char} (hd : d.isDigit = true) :
    Text.digitValue? 10 d = some (d.toNat - '0'.toNat) := by
  have hbounds := toNat_of_isDigit hd
  have hzero : '0'.toNat = 48 := rfl
  simp only [Text.digitValue?, hd, if_true]
  rw [if_pos (by omega)]

/-- The lexer in the digits of a reference by number. -/
def counting (lx : Lexer) (target : ReferenceTarget) (value : Nat) : Lexer :=
  { lx with state := .reference target (.number 10 [] value true) }

theorem ne_return_of_isDigit {d : Char} (hd : d.isDigit = true) : d ≠ '\r' := by
  rintro rfl
  cases hd

/-- A digit adds to a number that does not exceed that of the last character. -/
theorem inNumber_digit (lx : Lexer) (target : ReferenceTarget) {value : Nat} {d : Char}
    (hd : d.isDigit = true) (hvalue : value ≤ 0x10FFFF) (hasDigits : Bool) :
    lx.inNumber target 10 [] value hasDigits d =
      (lx.counting target (10 * value + (d.toNat - '0'.toNat)), []) := by
  rw [inNumber, digitValue?_digit hd]
  dsimp only
  rw [addDigit, if_neg (by omega), Nat.mul_comm]
  rfl

theorem le_ofDigitChars (digits : List Char) (value : Nat) :
    value ≤ Nat.ofDigitChars 10 digits value := by
  induction digits generalizing value with
  | nil => exact Nat.le_refl value
  | cons d digits ih =>
    rw [Nat.ofDigitChars_cons]
    have := ih (10 * value + (d.toNat - '0'.toNat))
    omega

/-- Digits make the number longer, as long as it does not exceed that of the last character. -/
theorem passes_digits (h : lx.afterReturn = false) {digits : List Char}
    (hdigits : ∀ d ∈ digits, d.isDigit = true) {value : Nat}
    (hvalue : Nat.ofDigitChars 10 digits value ≤ 0x10FFFF) :
    Passes foreign (lx.counting target value) digits
      (lx.counting target (Nat.ofDigitChars 10 digits value)) := by
  induction digits generalizing value with
  | nil => rfl
  | cons d digits ih =>
    have hd := hdigits d List.mem_cons_self
    have hsmall : value ≤ 0x10FFFF := Nat.le_trans (le_ofDigitChars (d :: digits) value) hvalue
    rw [Nat.ofDigitChars_cons] at hvalue ⊢
    refine ⟨_, ?_, ih (fun e he => hdigits e (List.mem_cons_of_mem d he)) hvalue⟩
    rw [step_eq (by exact h) (ne_return_of_isDigit hd)]
    exact inNumber_digit _ target hd hsmall true

/-- A reference by number is read up to its last digit. -/
theorem passes_number (h : lx.afterReturn = false) {n : Nat} (hn : n ≤ 0x10FFFF) :
    Passes foreign { lx with state := .reference target .ampersand } ('#' :: Nat.toDigits 10 n)
      (lx.counting target n) := by
  obtain ⟨d, digits, htext, hd⟩ := Json.digits_cons n
  have hvalue : Nat.ofDigitChars 10 digits (10 * 0 + (d.toNat - '0'.toNat)) = n := by
    have := Nat.ofDigitChars_ten_toDigits (n := n)
    rwa [htext, Nat.ofDigitChars_cons] at this
  have hrest : ∀ e ∈ digits, e.isDigit = true := by
    intro e he
    apply Json.isDigit_of_mem_digits (n := n)
    rw [htext]
    exact List.mem_cons_of_mem d he
  have hmarker : (d == 'x' || d == 'X') = false := by
    rw [Bool.or_eq_false_iff]
    constructor
    all_goals
      apply beq_false_of_ne
      rintro rfl
      cases hd
  have hsign : ({ lx with state := .reference target .ampersand } : Lexer).step foreign '#' =
      ({ lx with state := .reference target .numberSign }, []) := by
    rw [step_eq (by exact h) (by decide)]
    cases target with
    | value quoting => cases quoting <;> rfl
    | _ => rfl
  have hfirst : ({ lx with state := .reference target .numberSign } : Lexer).step foreign d =
      (lx.counting target (10 * 0 + (d.toNat - '0'.toNat)), []) := by
    rw [step_eq (by exact h) (ne_return_of_isDigit hd)]
    change inReference _ target .numberSign d = _
    rw [inReference, hmarker, if_neg Bool.false_ne_true, inNumber_digit _ _ hd (by omega)]
    rfl
  rw [htext]
  refine ⟨_, hsign, _, hfirst, ?_⟩
  rw [← hvalue] at hn
  rw [← hvalue]
  exact passes_digits h hrest hn

/-- The semicolon behind a number settles it. -/
theorem step_counting (h : lx.afterReturn = false) (n : Nat) :
    (lx.counting target n).step foreign ';' = lx.resolve target [numbered n] := by
  rw [step_eq (by exact h) (by decide)]
  cases target <;> rfl

/-- Where references count, the text goes on in one place, in which an ampersand begins a reference and
any other character that is aloof stands for itself. -/
theorem exists_step (foreign : Bool) (htarget : referenceTarget? lx.state = some target) :
    ∃ (mid : Lexer) (pre : List Token), mid.afterReturn = false ∧ (∀ t ∈ pre, IsTextual t) ∧
      lx.step foreign '&' = ({ mid with state := .reference target .ampersand }, pre) ∧
      ∀ c, Aloof c → c ≠ '&' →
        lx.step foreign c =
          ((mid.resolve target [c]).1, pre ++ (mid.resolve target [c]).2) := by
  have hgoes : ∃ mid pre, GoesOn { lx with afterReturn := false } foreign target mid pre :=
    exists_goesOn rfl htarget
  obtain ⟨mid, pre, hmid, hpre, hread⟩ := hgoes
  have hstep : ∀ c, Aloof c → lx.step foreign c = { lx with afterReturn := false }.dispatch foreign c := by
    intro c hc
    rw [step, hc.beq (d := '\n') rfl, Bool.and_false, if_neg Bool.false_ne_true, hc.beq (d := '\r') rfl,
      if_neg Bool.false_ne_true]
  refine ⟨mid, pre, hmid, hpre, ?_, ?_⟩
  · rw [hstep _ (.inl rfl), hread _ (.inl rfl), inTarget_ampersand, List.append_nil]
  · intro c hc hne
    rw [hstep _ hc, hread _ hc, inTarget_of_aloof _ _ hc hne]

end Lexer

end PageBlocks.Markup
