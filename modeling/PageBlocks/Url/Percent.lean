import PageBlocks.Text.Ascii

/-!
Percent encoding. Which characters of a part of an address are written as octets depends on the part;
characters outside ASCII always are.
-/
namespace PageBlocks.Url

/-- The octets of a character in UTF-8. -/
def octets (c : Char) : List UInt8 := String.utf8EncodeChar c

/-- An octet as `%` and two digits, with capitals. -/
def writtenOctet (b : UInt8) : List Char :=
  '%' :: (Text.hexDigits 2 b.toNat).map Char.toUpper

/-- Whether a character is a control character or outside ASCII. -/
def isControl (c : Char) : Bool := c.toNat < 0x20 || 0x7E < c.toNat

def isFragmentEscaped (c : Char) : Bool := isControl c || [' ', '"', '<', '>', '\x60'].contains c

def isPathEscaped (c : Char) : Bool :=
  isFragmentEscaped c || ['#', '?', '\x7b', '\x7d'].contains c

def isUserEscaped (c : Char) : Bool :=
  isPathEscaped c || ['/', ':', ';', '=', '@', '[', '\\', ']', '^', '|'].contains c

def isQueryEscaped (c : Char) : Bool := isControl c || [' ', '"', '#', '<', '>'].contains c

def isSpecialQueryEscaped (c : Char) : Bool := isQueryEscaped c || c == '\''

/-- A text with some characters written as octets. -/
def percentEncode (isEscaped : Char → Bool) (cs : List Char) : List Char :=
  cs.flatMap fun c => if isEscaped c then (octets c).flatMap writtenOctet else [c]

/-- The octets that a text stands for. -/
def percentDecode : List Char → List UInt8
  | '%' :: a :: b :: rest =>
    match Text.digitValue? 16 a, Text.digitValue? 16 b with
    | some a, some b => UInt8.ofNat (16 * a + b) :: percentDecode rest
    | _, _ => octets '%' ++ percentDecode (a :: b :: rest)
  | c :: rest => octets c ++ percentDecode rest
  | [] => []
termination_by cs => cs.length

end PageBlocks.Url
