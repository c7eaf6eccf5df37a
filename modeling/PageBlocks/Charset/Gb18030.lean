import PageBlocks.Charset.Decoder

/-!
GB 18030, with two or four octets a character. The second and the fourth of four octets are digits. Where
four octets are broken, those behind the first one are read afresh.
-/
namespace PageBlocks.Charset.Gb18030

/-- What has been begun and is not complete yet. -/
inductive State where
  | nothing
  | one (first : UInt8)
  | two (first second : UInt8)
  | three (first second third : UInt8)

def grid : Grid := ⟨[(0x81, 0xFE)], [(0x40, 0x7E), (0x80, 0xFE)]⟩

def isDigit (b : UInt8) : Bool := 0x30 ≤ b && b ≤ 0x39

/-- The number of four octets. -/
def number (first second third fourth : UInt8) : Nat :=
  (((first.toNat - 0x81) * 10 + (second.toNat - 0x30)) * 126 + (third.toNat - 0x81)) * 10 +
    (fourth.toNat - 0x30)

/-- Read an octet with which something begins. -/
def begin (b : UInt8) : State × List Char :=
  if b < 0x80 then (.nothing, [asciiChar b])
  else if b == 0x80 then (.nothing, ['€'])
  else if grid.isLead b then (.one b, [])
  else (.nothing, ['\ufffd'])

/-- Read the octet behind the first one. -/
def readSecond (i : Indexes) (first b : UInt8) : State × List Char :=
  if isDigit b then (.two first b, [])
  else (.nothing, pairText ((grid.number? first b).bind i.gb18030).toList b)

/-- The first octet of four counts as a replacement character, and the digit behind it for itself. -/
def giveUp (second : UInt8) (next : State × List Char) : State × List Char :=
  (next.1, '\ufffd' :: asciiChar second :: next.2)

def step (i : Indexes) : State → UInt8 → State × List Char
  | .nothing, b => begin b
  | .one first, b => readSecond i first b
  | .two first second, b =>
    if grid.isLead b then (.three first second b, []) else giveUp second (begin b)
  | .three first second third, b =>
    if isDigit b then (.nothing, [(i.fourOctetChar? (number first second third b)).getD '\ufffd'])
    else giveUp second (readSecond i third b)

def decoder (i : Indexes) : Decoder State where
  start := .nothing
  step := step i
  finish
    | .nothing => []
    | _ => ['\ufffd']

end PageBlocks.Charset.Gb18030
