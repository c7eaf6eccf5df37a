import PageBlocks.Charset.Decoder
import PageBlocks.Charset.Jis0208

/-!
EUC-JP. A pair of octets is a character of JIS X 0208; behind one octet that shifts it is one of
JIS X 0212, and behind another one a single octet is a half-width katakana.
-/
namespace PageBlocks.Charset.EucJp

/-- What has been begun and is not complete yet. -/
inductive State where
  | nothing
  /-- The first octet of a pair, or one that shifts. -/
  | one (first : UInt8)
  /-- The first octet of a pair of JIS X 0212. -/
  | supplement (lead : UInt8)

def grid : Grid := ⟨[(0xA1, 0xFE)], [(0xA1, 0xFE)]⟩

def shiftToKatakana : UInt8 := 0x8E

def shiftToSupplement : UInt8 := 0x8F

/-- Read a pair of octets in a set of characters. -/
def readPair (chars : Nat → Option Char) (lead b : UInt8) : List Char :=
  pairText ((grid.number? lead b).bind chars).toList b

/-- Read the octet behind the first one. -/
def readSecond (first b : UInt8) : State × List Char :=
  match (katakana? b).filter fun _ => first == shiftToKatakana with
  | some c => (.nothing, [c])
  | none =>
    if first == shiftToSupplement && grid.isLead b then (.supplement b, [])
    else (.nothing, readPair Jis0208.char? first b)

def step (i : Indexes) : State → UInt8 → State × List Char
  | .nothing, b =>
    if b < 0x80 then (.nothing, [asciiChar b])
    else if b == shiftToKatakana || b == shiftToSupplement || grid.isLead b then (.one b, [])
    else (.nothing, ['\ufffd'])
  | .one first, b => readSecond first b
  | .supplement lead, b => (.nothing, readPair i.jis0212 lead b)

def decoder (i : Indexes) : Decoder State where
  start := .nothing
  step := step i
  finish
    | .nothing => []
    | _ => ['\ufffd']

end PageBlocks.Charset.EucJp
