import PageBlocks.Text.Ascii
import Mathlib.Data.List.TakeDrop

/-!
Texts as octets. In UTF-8 a character of ASCII is a single octet, and no octet of another character is one
of ASCII. A text can be cut at the octets between two of its characters, and nowhere else.
-/
namespace PageBlocks.Text

/-- The octets of a text in UTF-8. -/
def octets (cs : List Char) : List UInt8 := cs.flatMap String.utf8EncodeChar

/-- How many octets of a text stand before a place. -/
def offset (cs : List Char) (place : Nat) : Nat := (octets (cs.take place)).length

/-- The text before a number of octets and the text behind them, if so many octets are there and do not
end inside a character. -/
def cut? : List Char → Nat → Option (List Char × List Char)
  | cs, 0 => some ([], cs)
  | [], _ + 1 => none
  | c :: cs, count + 1 =>
    if c.utf8Size ≤ count + 1 then
      (cut? cs (count + 1 - c.utf8Size)).map fun (front, back) => (c :: front, back)
    else none

/-- The text between two numbers of octets, if they are in order and the text can be cut at both. -/
def between? (cs : List Char) (first stop : Nat) : Option (List Char) :=
  if first ≤ stop then do
    let (front, _) ← cut? cs stop
    let (_, part) ← cut? front first
    return part
  else none

/-! ### Octets of a character -/

theorem octets_nil : octets [] = [] := rfl

theorem octets_cons (c : Char) (cs : List Char) : octets (c :: cs) = String.utf8EncodeChar c ++ octets cs :=
  List.flatMap_cons ..

theorem octets_append (cs ds : List Char) : octets (cs ++ ds) = octets cs ++ octets ds :=
  List.flatMap_append

theorem utf8EncodeChar_of_isAscii {c : Char} (h : isAscii c = true) :
    String.utf8EncodeChar c = [c.toUInt8] := by
  apply String.utf8EncodeChar_eq_singleton
  rw [Char.utf8Size_eq_one_iff, UInt32.le_iff_toNat_le]
  exact Nat.le_of_lt_succ (by simpa [isAscii] using h)

theorem toNat_toUInt8 {c : Char} (h : isAscii c = true) : c.toUInt8.toNat = c.toNat := by
  have hlt : c.toNat < 128 := by simpa [isAscii] using h
  rw [Char.toUInt8, UInt32.toNat_toUInt8]
  exact Nat.mod_eq_of_lt (Nat.lt_trans hlt (by decide))

/-- Characters of ASCII are told apart by their octets. -/
theorem toUInt8_inj {c d : Char} (hc : isAscii c = true) (hd : isAscii d = true) :
    c.toUInt8 = d.toUInt8 ↔ c = d := by
  refine ⟨fun h => ?_, fun h => by rw [h]⟩
  have hnat := congrArg UInt8.toNat h
  rw [toNat_toUInt8 hc, toNat_toUInt8 hd] at hnat
  exact Char.toNat_inj.mp hnat

/-- The octets of a character outside ASCII are outside ASCII too. -/
theorem le_of_mem_utf8EncodeChar {c : Char} (h : isAscii c = false) {b : UInt8}
    (hb : b ∈ String.utf8EncodeChar c) : 128 ≤ b.toNat := by
  have hge : ¬ c.val.toNat ≤ 127 := fun hle => by
    have hlt : c.toNat < 128 := Nat.lt_succ_of_le hle
    simp [isAscii, hlt] at h
  have hmod : ∀ n : Nat, 128 ≤ n → n < 256 → 128 ≤ (UInt8.ofNat n).toNat := by
    intro n hn hlt
    rwa [UInt8.toNat_ofNat', Nat.mod_eq_of_lt hlt]
  simp only [String.utf8EncodeChar, if_neg hge] at hb
  split at hb
  · simp only [List.mem_cons, List.not_mem_nil, or_false] at hb
    rcases hb with rfl | rfl <;> exact hmod _ (by omega) (by omega)
  · split at hb
    · simp only [List.mem_cons, List.not_mem_nil, or_false] at hb
      rcases hb with rfl | rfl | rfl <;> exact hmod _ (by omega) (by omega)
    · simp only [List.mem_cons, List.not_mem_nil, or_false] at hb
      rcases hb with rfl | rfl | rfl | rfl <;> exact hmod _ (by omega) (by omega)

theorem ne_of_mem_utf8EncodeChar {c d : Char} (hc : isAscii c = false) (hd : isAscii d = true) {b : UInt8}
    (hb : b ∈ String.utf8EncodeChar c) : b ≠ d.toUInt8 := by
  rintro rfl
  have hge := le_of_mem_utf8EncodeChar hc hb
  rw [toNat_toUInt8 hd] at hge
  have hlt : d.toNat < 128 := by simpa [isAscii] using hd
  omega

/-! ### Places -/

theorem offset_length (cs : List Char) : offset cs cs.length = (octets cs).length := by
  rw [offset, List.take_length]

theorem offset_take (cs : List Char) {place stop : Nat} (h : place ≤ stop) :
    offset (cs.take stop) place = offset cs place := by
  rw [offset, List.take_take, Nat.min_eq_left h, offset]

theorem offset_mono (cs : List Char) {place stop : Nat} (h : place ≤ stop) :
    offset cs place ≤ offset cs stop := by
  have hprefix : cs.take place <+: cs.take stop := List.take_prefix_take_left h
  obtain ⟨rest, hrest⟩ := hprefix
  rw [offset, offset, ← hrest, octets_append, List.length_append]
  exact Nat.le_add_right ..

/-- Behind a character of ASCII the next octet begins the next character. -/
theorem offset_succ {cs : List Char} {place : Nat} {c : Char} (h : cs[place]? = some c)
    (hc : isAscii c = true) : offset cs (place + 1) = offset cs place + 1 := by
  rw [offset, List.take_add_one, h, octets_append, List.length_append, offset]
  change _ + (octets [c]).length = _
  rw [octets_cons, utf8EncodeChar_of_isAscii hc]
  rfl

theorem offset_lt {cs : List Char} {place stop : Nat} {c : Char} (hget : cs[place]? = some c)
    (hc : isAscii c = true) (h : place < stop) : offset cs place < offset cs stop := by
  rw [← Nat.succ_le_iff, Nat.succ_eq_add_one, ← offset_succ hget hc]
  exact offset_mono cs h

/-- What is left of a text when something is taken off its front has fewer octets. -/
theorem length_octets_lt {cs rest : List Char} (hsuffix : rest <:+ cs) (hlt : rest.length < cs.length) :
    (octets rest).length < (octets cs).length := by
  obtain ⟨front, rfl⟩ := hsuffix
  cases front with
  | nil => exact absurd hlt (Nat.lt_irrefl _)
  | cons c front =>
    rw [List.cons_append, octets_cons, octets_append, List.length_append, List.length_append,
      String.length_utf8EncodeChar]
    have := c.utf8Size_pos
    omega

/-! ### Cuts -/

/-- A text is cut where the octets of its front end. -/
theorem cut?_append (front back : List Char) :
    cut? (front ++ back) (octets front).length = some (front, back) := by
  induction front with
  | nil => cases back <;> rfl
  | cons c front ih =>
    have hlength : (octets (c :: front)).length = c.utf8Size + (octets front).length := by
      rw [octets_cons, List.length_append, String.length_utf8EncodeChar]
    obtain ⟨count, hcount⟩ := Nat.exists_eq_succ_of_ne_zero (Nat.ne_of_gt c.utf8Size_pos)
    rw [hlength, hcount, Nat.succ_add, List.cons_append, cut?, if_pos (by omega),
      show count + (octets front).length + 1 - c.utf8Size = (octets front).length by omega, ih]
    rfl

/-- A text that is cut consists of its two parts, and the octets before the cut are those of the first. -/
theorem cut?_eq_some_iff {cs front back : List Char} {count : Nat} :
    cut? cs count = some (front, back) ↔ cs = front ++ back ∧ (octets front).length = count := by
  constructor
  · intro h
    induction cs generalizing front count with
    | nil =>
      cases count with
      | zero =>
        cases h
        exact ⟨rfl, rfl⟩
      | succ count => cases h
    | cons c cs ih =>
      cases count with
      | zero =>
        cases h
        exact ⟨rfl, rfl⟩
      | succ count =>
        rw [cut?] at h
        split at h
        · rename_i hle
          obtain ⟨⟨front', back'⟩, hcut, hparts⟩ := Option.map_eq_some_iff.mp h
          cases hparts
          obtain ⟨rfl, hlength⟩ := ih hcut
          refine ⟨rfl, ?_⟩
          rw [octets_cons, List.length_append, String.length_utf8EncodeChar, hlength]
          omega
        · cases h
  · rintro ⟨rfl, rfl⟩
    exact cut?_append front back

theorem cut?_offset (cs : List Char) (place : Nat) :
    cut? cs (offset cs place) = some (cs.take place, cs.drop place) :=
  cut?_eq_some_iff.mpr ⟨(List.take_append_drop place cs).symm, rfl⟩

theorem between?_offset (cs : List Char) {first stop : Nat} (h : first ≤ stop) :
    between? cs (offset cs first) (offset cs stop) = some ((cs.take stop).drop first) := by
  have hfront := cut?_offset (cs.take stop) first
  rw [offset_take cs h] at hfront
  rw [between?, if_pos (offset_mono cs h), cut?_offset]
  change (cut? (cs.take stop) (offset cs first)).bind _ = _
  rw [hfront]
  rfl

end PageBlocks.Text
