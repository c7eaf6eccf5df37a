/-!
UTF-16. A unit is two octets; a character outside the first plane is a pair of units, the surrogates.
Half a pair and half a unit are broken.
-/
namespace PageBlocks.Charset.Utf16

/-- The units of a text, in the order of octets that `unit` reads, and whether half a unit is left. -/
def units (unit : UInt8 → UInt8 → Nat) : List UInt8 → List Nat × Bool
  | a :: b :: rest =>
    let (us, half) := units unit rest
    (unit a b :: us, half)
  | [_] => ([], true)
  | [] => ([], false)

def isHigh (u : Nat) : Bool := 0xD800 ≤ u && u < 0xDC00

def isLow (u : Nat) : Bool := 0xDC00 ≤ u && u < 0xE000

/-- The characters of units; `half` tells that half a unit follows them. -/
def charsOf (half : Bool) : List Nat → List Char
  | [] => if half then ['\ufffd'] else []
  | [u] =>
    if isHigh u then ['\ufffd']
    else (if isLow u then '\ufffd' else Char.ofNat u) :: if half then ['\ufffd'] else []
  | u :: v :: rest =>
    if isHigh u then
      if isLow v then Char.ofNat (0x10000 + (u - 0xD800) * 0x400 + (v - 0xDC00)) :: charsOf half rest
      else '\ufffd' :: charsOf half (v :: rest)
    else (if isLow u then '\ufffd' else Char.ofNat u) :: charsOf half (v :: rest)

def decode (unit : UInt8 → UInt8 → Nat) (bytes : List UInt8) : List Char :=
  let (us, half) := units unit bytes
  charsOf half us

/-- The order in which the larger part of a unit comes first. -/
def bigEndian (a b : UInt8) : Nat := 256 * a.toNat + b.toNat

/-- The order in which the smaller part of a unit comes first. -/
def littleEndian (a b : UInt8) : Nat := bigEndian b a

end PageBlocks.Charset.Utf16
