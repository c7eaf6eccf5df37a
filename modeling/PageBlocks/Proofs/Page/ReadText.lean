import PageBlocks.Proofs.Gutenberg.Kinds
import PageBlocks.Proofs.Page.Preparation

/-!
What is read of a text that has been escaped and prepared. The characters come back one by one, but where
references by number are written, those with the numbers 128 to 159 come back as what old pages mean by
these numbers. A text that has been read once is read as it is from then on.
-/
namespace PageBlocks

open Markup

namespace Markup.Lexer

/-- A character outside of ASCII is the one with its number, unless old pages mean another one by it. -/
theorem numbered_toNat {c : Char} (h : Text.isAscii c = false) :
    numbered c.toNat = c ∨ ∃ n ∈ oldNumbers, numbered c.toNat = Char.ofNat n := by
  have hvalid : c.toNat < 0xD800 ∨ 0xDFFF < c.toNat ∧ c.toNat < 0x110000 := c.valid
  rw [Text.isAscii, decide_eq_false_iff_not] at h
  have hfirst : (c.toNat == 0 || c.toNat > 0x10FFFF || (0xD800 ≤ c.toNat && c.toNat ≤ 0xDFFF)) = false := by
    simp only [Bool.or_eq_false_iff, Bool.and_eq_false_iff, decide_eq_false_iff_not, beq_eq_false_iff_ne]
    omega
  rw [numbered, hfirst, if_neg Bool.false_ne_true]
  split
  · rename_i hold
    right
    rw [Bool.and_eq_true, decide_eq_true_eq, decide_eq_true_eq] at hold
    have hlt : c.toNat - 0x80 < oldNumbers.length := by
      change c.toNat - 0x80 < 32
      omega
    refine ⟨_, List.getElem_mem hlt, ?_⟩
    rw [List.getD_eq_getElem?_getD, List.getElem?_eq_getElem hlt, Option.getD_some]
  · exact .inl (Char.ofNat_toNat c)

/-- What old pages mean by a number is never blank, and has a number that means nothing else. -/
theorem of_mem_oldNumbers {n : Nat} (h : n ∈ oldNumbers) :
    Text.isAscii (Char.ofNat n) = false ∧ numbered (Char.ofNat n).toNat = Char.ofNat n ∧
      isKept (Char.ofNat n) = true ∧ Text.isBlank (Char.ofNat n) = false := by
  have hall : ∀ n ∈ oldNumbers, Text.isAscii (Char.ofNat n) = false ∧
      numbered (Char.ofNat n).toNat = Char.ofNat n ∧ isKept (Char.ofNat n) = true ∧
      Text.isBlank (Char.ofNat n) = false := by decide +kernel
  exact hall n h

end Markup.Lexer

namespace Preparation

variable (p : Preparation)

/-- A character as it is prepared. -/
def prepareChar : Preparation → Char → List Char
  | asIs, c => [c]
  | numericReferences, c => referenceChar c

/-- The character that is read where a text has one. -/
def readChar : Preparation → Char → Char
  | asIs, c => c
  | numericReferences, c => if Text.isAscii c then c else Lexer.numbered c.toNat

/-- The text that is read where there is one. -/
def readText (text : String) : String := String.ofList (text.toList.map p.readChar)

theorem toList_prepare (text : String) : (p.prepare text).toList = text.toList.flatMap p.prepareChar := by
  cases p with
  | asIs => exact (List.flatMap_singleton' _).symm
  | numericReferences => exact String.toList_ofList

theorem prepareChar_of_isAscii {c : Char} (h : Text.isAscii c = true) : p.prepareChar c = [c] := by
  cases p with
  | asIs => rfl
  | numericReferences => rw [prepareChar, referenceChar, if_pos h]

theorem readChar_of_isAscii {c : Char} (h : Text.isAscii c = true) : p.readChar c = c := by
  cases p with
  | asIs => rfl
  | numericReferences => rw [readChar, if_pos h]

/-- Text in ASCII needs no preparation. -/
theorem flatMap_prepareChar {cs : List Char} (h : cs.all Text.isAscii = true) :
    cs.flatMap p.prepareChar = cs := by
  induction cs with
  | nil => rfl
  | cons c cs ih =>
    rw [List.all_cons, Bool.and_eq_true] at h
    rw [List.flatMap_cons, p.prepareChar_of_isAscii h.1, ih h.2]
    rfl

/-! ### Characters that are read -/

/-- Either a character is read as itself, or as what old pages mean by its number. -/
theorem readChar_cases (c : Char) :
    p.readChar c = c ∨ ∃ n ∈ Lexer.oldNumbers, p.readChar c = Char.ofNat n := by
  cases p with
  | asIs => exact .inl rfl
  | numericReferences =>
    cases hascii : Text.isAscii c with
    | true => exact .inl (readChar_of_isAscii _ hascii)
    | false =>
      rw [readChar, hascii, if_neg Bool.false_ne_true]
      exact Lexer.numbered_toNat hascii

theorem readChar_readChar (c : Char) : p.readChar (p.readChar c) = p.readChar c := by
  rcases p.readChar_cases c with hself | ⟨n, hn, hread⟩
  · rw [hself, hself]
  · obtain ⟨hascii, hnumber, -, -⟩ := Lexer.of_mem_oldNumbers hn
    rw [hread]
    cases p with
    | asIs => rfl
    | numericReferences => rw [readChar, hascii, if_neg Bool.false_ne_true, hnumber]

theorem isKept_readChar {c : Char} (h : isKept c = true) : isKept (p.readChar c) = true := by
  rcases p.readChar_cases c with hself | ⟨n, hn, hread⟩
  · rwa [hself]
  · rw [hread]
    exact (Lexer.of_mem_oldNumbers hn).2.2.1

theorem not_isBlank_readChar {c : Char} (h : Text.isBlank c = false) :
    Text.isBlank (p.readChar c) = false := by
  rcases p.readChar_cases c with hself | ⟨n, hn, hread⟩
  · rwa [hself]
  · rw [hread]
    exact (Lexer.of_mem_oldNumbers hn).2.2.2

/-! ### Texts that are read -/

theorem isKeptText_readText {text : String} (h : isKeptText text = true) :
    isKeptText (p.readText text) = true := by
  rw [isKeptText, List.all_eq_true] at h
  rw [isKeptText, readText, String.toList_ofList, List.all_map, List.all_eq_true]
  exact fun c hc => p.isKept_readChar (h c hc)

theorem not_isAllBlank_readText {text : String} (h : Text.isAllBlank text = false) :
    Text.isAllBlank (p.readText text) = false := by
  rw [Text.isAllBlank, List.all_eq_false] at h ⊢
  obtain ⟨c, hc, hblank⟩ := h
  rw [Bool.not_eq_true] at hblank
  refine ⟨p.readChar c, ?_, by simp [p.not_isBlank_readChar hblank]⟩
  rw [readText, String.toList_ofList]
  exact List.mem_map_of_mem hc

theorem toList_readText (text : String) : (p.readText text).toList = text.toList.map p.readChar :=
  String.toList_ofList

theorem readText_readText (text : String) : p.readText (p.readText text) = p.readText text := by
  have hchars : (p.readChar ∘ p.readChar) = p.readChar := funext p.readChar_readChar
  rw [readText, readText, String.toList_ofList, List.map_map, hchars]

/-! ### Escaped text that is prepared -/

/-- A way of escaping leaves a character as it is, or writes it in ASCII; then it is one that is read as
itself. -/
def WritesAscii (escape : Char → List Char) : Prop :=
  ∀ c, escape c = [c] ∨ (escape c).all Text.isAscii = true ∧ ∀ p : Preparation, p.readChar c = c

/-- A character that is escaped and prepared stands for the one that is read. -/
theorem writes_prepared {misread : Char → Prop} {escape : Char → List Char}
    (hescape : Escapes misread escape) (hascii : WritesAscii escape) (c : Char) :
    Writes misread ((escape c).flatMap p.prepareChar) (p.readChar c) := by
  rcases hascii c with hself | ⟨hwritten, hread⟩
  · rw [hself, List.flatMap_singleton]
    by_cases hc : Text.isAscii c = true
    · rw [p.prepareChar_of_isAscii hc, p.readChar_of_isAscii hc, ← hself]
      exact hescape c
    · rw [Bool.not_eq_true] at hc
      cases p with
      | asIs =>
        rw [prepareChar, readChar, ← hself]
        exact hescape c
      | numericReferences =>
        rw [prepareChar, readChar, referenceChar_of_not_ascii hc, hc, if_neg Bool.false_ne_true]
        exact .inr (.inr ⟨c.toNat, Parser.toNat_le c, rfl, rfl⟩)
  · rw [p.flatMap_prepareChar hwritten, hread]
    exact hescape c

theorem writesAll_prepared {misread : Char → Prop} {escape : Char → List Char}
    (hescape : Escapes misread escape) (hascii : WritesAscii escape) (text : List Char) :
    WritesAll misread ((text.flatMap escape).flatMap p.prepareChar) (text.map p.readChar) := by
  induction text with
  | nil => exact .nil
  | cons c text ih =>
    rw [List.flatMap_cons, List.flatMap_append, List.map_cons]
    exact .cons (p.writes_prepared hescape hascii c) ih

theorem writesAscii_escapeValueChar : WritesAscii Emit.escapeValueChar := by
  intro c
  unfold Emit.escapeValueChar
  split
  · exact .inr ⟨by decide, fun p => p.readChar_of_isAscii rfl⟩
  · unfold Emit.escapeTextChar
    split
    · exact .inr ⟨by decide, fun p => p.readChar_of_isAscii rfl⟩
    · exact .inr ⟨by decide, fun p => p.readChar_of_isAscii rfl⟩
    · exact .inr ⟨by decide, fun p => p.readChar_of_isAscii rfl⟩
    · exact .inl rfl

/-- The no-break space has a name in ASCII; it is read as itself all the same. -/
theorem writesAscii_escapeTextChar : WritesAscii Markup.escapeTextChar := by
  intro c
  unfold Markup.escapeTextChar
  split
  · exact .inr ⟨by decide, fun p => p.readChar_of_isAscii rfl⟩
  · exact .inr ⟨by decide, fun p => by cases p <;> decide⟩
  · exact .inr ⟨by decide, fun p => p.readChar_of_isAscii rfl⟩
  · exact .inr ⟨by decide, fun p => p.readChar_of_isAscii rfl⟩
  · exact .inl rfl

end Preparation

end PageBlocks
