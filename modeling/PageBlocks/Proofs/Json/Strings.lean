import PageBlocks.Json.Reader
import PageBlocks.Proofs.Json.Spelling

/-!
Ways to write a string. JSON leaves a choice for almost every character: it stands for itself, or an
escape with a letter or with a number stands for it. `Spells text cs` says that `text` is one way to
write `cs`. The reader takes every one of them, and the escapes that a value is written with are one.
-/
namespace PageBlocks.Json

open Reader

/-- A character that may stand for itself in a string. -/
def IsPlain (c : Char) : Prop := c ≠ '"' ∧ c ≠ '\\' ∧ 32 ≤ c.toNat

/-- A code unit that is a character by itself. -/
def IsWhole (n : Nat) : Prop := isHighSurrogate n = false ∧ isLowSurrogate n = false

inductive Spells : List Char → List Char → Prop where
  | nil : Spells [] []
  | plain {c : Char} {text cs : List Char} (hc : IsPlain c) (h : Spells text cs) :
      Spells (c :: text) (c :: cs)
  | short {e c : Char} {text cs : List Char} (hc : unescape? e = some c) (h : Spells text cs) :
      Spells ('\\' :: e :: text) (c :: cs)
  | numbered {a b c d : Char} {n : Nat} {text cs : List Char} (hn : hex4? a b c d = some n)
      (hwhole : IsWhole n) (h : Spells text cs) :
      Spells ('\\' :: 'u' :: a :: b :: c :: d :: text) (Char.ofNat n :: cs)

/-! ### The reader takes every spelling -/

namespace Reader

theorem string?_plain {c : Char} (hc : IsPlain c) (p : Partial) (rest : List Char) :
    string? p (c :: rest) = string? (p.push c) rest := by
  obtain ⟨hquote, hback, hcode⟩ := hc
  have hlow : ¬ c.toNat < 32 := by omega
  rw [string?]
  · simp [hback, hlow]
  · exact hquote
  · intro a b c d rest h
    exact absurd h hback
  · intro e rest h
    exact absurd h hback

theorem string?_short {e c : Char} (hc : unescape? e = some c) (p : Partial) (rest : List Char) :
    string? p ('\\' :: e :: rest) = string? (p.push c) rest := by
  have hu : e ≠ 'u' := by
    rintro rfl
    simp [unescape?] at hc
  rw [string?]
  · simp [hc]
  · intro a b c d rest h
    exact absurd h hu

theorem string?_numbered {a b c d : Char} {n : Nat} (hn : hex4? a b c d = some n)
    (hwhole : IsWhole n) (cs rest : List Char) :
    string? ⟨cs, false, none⟩ ('\\' :: 'u' :: a :: b :: c :: d :: rest) =
      string? ⟨Char.ofNat n :: cs, false, none⟩ rest := by
  rw [string?, hn]
  simp [Partial.pushUnit, Partial.push, Partial.settle, hwhole.1, hwhole.2]

/-- Behind any spelling of a string stands its closing quote. -/
theorem string?_spells {text cs : List Char} (h : Spells text cs) (done rest : List Char) :
    string? ⟨done, false, none⟩ (text ++ '"' :: rest) =
      some (some (String.ofList (done.reverse ++ cs)), rest) := by
  induction h generalizing done with
  | nil => simp [string?, Partial.text?, Partial.settle]
  | plain hc h ih =>
    rw [List.cons_append, string?_plain hc]
    simpa [Partial.push, Partial.settle] using ih (_ :: done)
  | short hc h ih =>
    rw [List.cons_append, List.cons_append, string?_short hc]
    simpa [Partial.push, Partial.settle] using ih (_ :: done)
  | numbered hn hwhole h ih =>
    simp only [List.cons_append]
    rw [string?_numbered hn hwhole]
    simpa using ih (_ :: done)

/-- What has been read behind the opening quote of a string that is written in some way. -/
theorem string?_empty {spell : List Char → List Char} {s : String}
    (h : Spells (spell s.toList) s.toList) (rest : List Char) :
    string? .empty (spell s.toList ++ '"' :: rest) = some (some s, rest) := by
  simpa [Partial.empty] using string?_spells h [] rest

end Reader

/-! ### Escapes spell -/

theorem hex4?_hexDigits {n : Nat} (h : n < 65536) :
    hex4? (Text.hexDigit (n / 4096 % 16)) (Text.hexDigit (n / 256 % 16))
      (Text.hexDigit (n / 16 % 16)) (Text.hexDigit (n % 16)) = some n := by
  have hdigit (m : Nat) : Text.digitValue? 16 (Text.hexDigit (m % 16)) = some (m % 16) :=
    Text.digitValue?_hexDigit (Nat.mod_lt m (by omega))
  simp only [hex4?, hdigit, Option.bind_eq_bind, Option.bind_some, Option.pure_def,
    Option.some.injEq]
  omega

theorem digit_of_hex4? {a b c d : Char} {n : Nat} (h : hex4? a b c d = some n) {x : Char}
    (hx : x ∈ [a, b, c, d]) : ∃ m, Text.digitValue? 16 x = some m := by
  simp only [hex4?, Option.bind_eq_bind, Option.bind_eq_some_iff] at h
  obtain ⟨na, ha, nb, hb, nc, hc, nd, hd, -⟩ := h
  simp only [List.mem_cons, List.not_mem_nil, or_false] at hx
  rcases hx with rfl | rfl | rfl | rfl
  · exact ⟨na, ha⟩
  · exact ⟨nb, hb⟩
  · exact ⟨nc, hc⟩
  · exact ⟨nd, hd⟩

theorem hexDigits_four (n : Nat) :
    Text.hexDigits 4 n = [Text.hexDigit (n / 4096 % 16), Text.hexDigit (n / 256 % 16),
      Text.hexDigit (n / 16 % 16), Text.hexDigit (n % 16)] := by
  simp [Text.hexDigits, Nat.div_div_eq_div_mul]

/-- Every character below the surrogates can be written by its number. -/
theorem Spells.hexDigits {c : Char} (hc : c.toNat < 0xD800) {text cs : List Char}
    (h : Spells text cs) : Spells ('\\' :: 'u' :: (Text.hexDigits 4 c.toNat ++ text)) (c :: cs) := by
  have hhigh : isHighSurrogate c.toNat = false := by
    simp [isHighSurrogate]
    omega
  have hlow : isLowSurrogate c.toNat = false := by
    simp [isLowSurrogate]
    omega
  have hn := hex4?_hexDigits (n := c.toNat) (by omega)
  rw [hexDigits_four]
  have hspells := Spells.numbered hn ⟨hhigh, hlow⟩ h
  rwa [Char.ofNat_toNat] at hspells

theorem Spells.escapeChar (c : Char) {text cs : List Char} (h : Spells text cs) :
    Spells (escapeChar c ++ text) (c :: cs) := by
  unfold Json.escapeChar
  split
  · exact .short rfl h
  · exact .short rfl h
  · exact .short rfl h
  · exact .short rfl h
  · exact .short rfl h
  · exact .short rfl h
  · exact .short rfl h
  · next hquote hback _ _ _ _ _ =>
    split
    · next hlow => exact .hexDigits (by omega) h
    · next hlow => exact .plain ⟨hquote, hback, by omega⟩ h

theorem spells_escape (cs : List Char) : Spells (escape cs) cs := by
  induction cs with
  | nil => exact .nil
  | cons c cs ih => exact .escapeChar c ih

end PageBlocks.Json
