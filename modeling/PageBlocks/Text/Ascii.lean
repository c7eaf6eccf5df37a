/-!
Letters and digits of ASCII. Names of elements, charset labels and builder names compare without
regard to the case of ASCII letters; every other character is left as it is.
-/
namespace PageBlocks.Text

/-- Capitals of ASCII become small letters. -/
def lower (s : String) : String := String.ofList (s.toList.map Char.toLower)

/-- Equality up to the case of ASCII letters. -/
def sameIgnoringCase (a b : String) : Bool := lower a == lower b

/-- The value of a digit in a base up to sixteen. -/
def digitValue? (base : Nat) (c : Char) : Option Nat :=
  let value :=
    if c.isDigit then c.toNat - '0'.toNat
    else if 'a' ≤ c && c ≤ 'f' then c.toNat - 'a'.toNat + 10
    else if 'A' ≤ c && c ≤ 'F' then c.toNat - 'A'.toNat + 10
    else base
  if value < base then some value else none

def isHexDigit (c : Char) : Bool := (digitValue? 16 c).isSome

/-- The digits `0` to `9` and `a` to `f`. -/
def hexDigit (n : Nat) : Char :=
  if n < 10 then Char.ofNat ('0'.toNat + n) else Char.ofNat ('a'.toNat + n - 10)

/-- The last `width` hexadecimal digits of a number. -/
def hexDigits : Nat → Nat → List Char
  | 0, _ => []
  | width + 1, n => hexDigits width (n / 16) ++ [hexDigit (n % 16)]

def isAscii (c : Char) : Bool := c.toNat < 128

theorem lower_toList (s : String) : (lower s).toList = s.toList.map Char.toLower := by
  simp [lower]

theorem length_hexDigits (width n : Nat) : (hexDigits width n).length = width := by
  induction width generalizing n with
  | zero => rfl
  | succ width ih => simp [hexDigits, ih]

theorem digitValue?_hexDigit {n : Nat} (h : n < 16) : digitValue? 16 (hexDigit n) = some n := by
  have all : ∀ m ∈ List.range 16, digitValue? 16 (hexDigit m) = some m := by decide
  exact all n (List.mem_range.mpr h)

end PageBlocks.Text
