import PageBlocks.Charset.Decoder
import PageBlocks.Charset.Jis0208

/-!
Encodings in which one or two octets make a character: Big5, EUC-KR and Shift_JIS. The octets of ASCII stand
for themselves unless they are the second of a pair.
-/
namespace PageBlocks.Charset

structure DoubleByte where
  /-- The character of a single octet that is not ASCII. -/
  single? : UInt8 → Option Char
  grid : Grid
  /-- The characters of a pair. -/
  chars : Nat → List Char

namespace DoubleByte

variable (e : DoubleByte)

/-- Read an octet that is not the second of a pair. -/
def begin (b : UInt8) : Option UInt8 × List Char :=
  if b < 0x80 then (none, [asciiChar b])
  else
    match e.single? b with
    | some c => (none, [c])
    | none => if e.grid.isLead b then (some b, []) else (none, ['\ufffd'])

def step : Option UInt8 → UInt8 → Option UInt8 × List Char
  | none, b => e.begin b
  | some lead, b => (none, pairText (((e.grid.number? lead b).map e.chars).getD []) b)

def decoder : Decoder (Option UInt8) where
  start := none
  step := e.step
  finish lead := if lead.isSome then ['\ufffd'] else []

/-- Four pairs are a letter with a mark above it. -/
def big5 (i : Indexes) : DoubleByte where
  single? _ := none
  grid := ⟨[(0x81, 0xFE)], [(0x40, 0x7E), (0xA1, 0xFE)]⟩
  chars
    | 1133 => ['\u00ca', '\u0304']
    | 1135 => ['\u00ca', '\u030c']
    | 1164 => ['\u00ea', '\u0304']
    | 1166 => ['\u00ea', '\u030c']
    | n => (i.big5 n).toList

def eucKr (i : Indexes) : DoubleByte where
  single? _ := none
  grid := ⟨[(0x81, 0xFE)], [(0x41, 0xFE)]⟩
  chars n := (i.eucKr n).toList

/-- Some rows are for private use. -/
def shiftJis : DoubleByte where
  single? b := if b == 0x80 then some '\u0080' else katakana? b
  grid := ⟨[(0x81, 0x9F), (0xE0, 0xFC)], [(0x40, 0x7E), (0x80, 0xFC)]⟩
  chars n :=
    if 8836 ≤ n && n ≤ 10715 then [Char.ofNat (0xE000 + (n - 8836))] else (Jis0208.char? n).toList

end DoubleByte

end PageBlocks.Charset
