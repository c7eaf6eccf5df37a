/-!
Decoders that read one octet after the other, and the tables of the large sets of characters in which they
look up pairs and fours of octets. A pair that means nothing counts as one replacement character; if its
second octet is ASCII, that one is read by itself.
-/
namespace PageBlocks.Charset

structure Decoder (σ : Type) where
  start : σ
  /-- The state after an octet, and the characters that this one completes. -/
  step : σ → UInt8 → σ × List Char
  /-- The characters for what is not complete at the end. -/
  finish : σ → List Char

namespace Decoder

variable {σ : Type} (d : Decoder σ)

/-- The text of octets from a state on. -/
def decodeFrom (s : σ) : List UInt8 → List Char
  | [] => d.finish s
  | b :: rest =>
    let (s, cs) := d.step s b
    cs ++ decodeFrom s rest

def decode (bytes : List UInt8) : List Char := d.decodeFrom d.start bytes

@[simp]
theorem decodeFrom_nil (s : σ) : d.decodeFrom s [] = d.finish s := rfl

@[simp]
theorem decodeFrom_cons (s : σ) (b : UInt8) (rest : List UInt8) :
    d.decodeFrom s (b :: rest) = (d.step s b).2 ++ d.decodeFrom (d.step s b).1 rest := rfl

end Decoder

/-- The character of an octet of ASCII. -/
def asciiChar (b : UInt8) : Char := Char.ofNat b.toNat

/-- The half-width katakana of a single octet, which Japanese encodings have in the same place. -/
def katakana? (b : UInt8) : Option Char :=
  if 0xA1 ≤ b && b ≤ 0xDF then some (Char.ofNat (0xFF61 + (b.toNat - 0xA1))) else none

/-! ### Pairs of octets -/

/-- Runs of octets, each from its first to its last one. -/
abbrev Runs := List (UInt8 × UInt8)

namespace Runs

/-- The number of octets in runs. -/
def size : Runs → Nat
  | [] => 0
  | (first, last) :: runs => (last.toNat + 1 - first.toNat) + size runs

/-- The place of an octet in runs, counted from zero. -/
def place? : Runs → UInt8 → Option Nat
  | [], _ => none
  | (first, last) :: runs, b =>
    if first ≤ b && b ≤ last then some (b.toNat - first.toNat)
    else (place? runs b).map (· + (last.toNat + 1 - first.toNat))

end Runs

/-- The pairs of octets of an encoding: a row of a table for each first octet, a cell of it for each second
one. -/
structure Grid where
  leads : Runs
  trails : Runs

namespace Grid

def isLead (g : Grid) (b : UInt8) : Bool := (g.leads.place? b).isSome

/-- The number of a pair, row after row. -/
def number? (g : Grid) (lead trail : UInt8) : Option Nat := do
  return (← g.leads.place? lead) * g.trails.size + (← g.trails.place? trail)

end Grid

/-- What a pair of octets is read as, with its characters, if it has any. -/
def pairText (cs : List Char) (trail : UInt8) : List Char :=
  if cs.isEmpty then '\ufffd' :: if trail < 0x80 then [asciiChar trail] else [] else cs

/-! ### Tables -/

/-- The characters of the large sets, from the number of a character in its set. The set of JIS X 0208 has
a table of its own. -/
structure Indexes where
  /-- The pairs of octets of GB 18030. -/
  gb18030 : Nat → Option Char
  /-- The fours of octets of GB 18030, in ranges with one character behind the other: the number and the
  code of the first one. -/
  gb18030Ranges : List (Nat × Nat)
  big5 : Nat → Option Char
  jis0212 : Nat → Option Char
  eucKr : Nat → Option Char

namespace Indexes

/-- No tables. -/
def absent : Indexes := ⟨fun _ => none, [], fun _ => none, fun _ => none, fun _ => none⟩

/-- The character of four octets of GB 18030. Two stretches of numbers are empty, and one character stands
outside of its range. -/
def fourOctetChar? (i : Indexes) (n : Nat) : Option Char :=
  if (39419 < n && n < 189000) || 1237575 < n then none
  else if n == 7457 then some '\ue7c7'
  else
    (i.gb18030Ranges.takeWhile fun range => range.1 ≤ n).getLast?.map fun (first, code) =>
      Char.ofNat (code + (n - first))

end Indexes

end PageBlocks.Charset
