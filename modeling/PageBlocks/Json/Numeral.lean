/-!
Numbers as they are written in JSON. A number that is not an integer is kept as it is written, digit by
digit, since its value need not be the same for everyone who reads it.
-/
namespace PageBlocks.Json

/-- A row of digits with at least one digit. -/
structure Digits where
  first : Fin 10
  more : List (Fin 10)
  deriving DecidableEq

def digitChar (d : Fin 10) : Char := Nat.digitChar d

def Digits.chars (ds : Digits) : List Char := digitChar ds.first :: ds.more.map digitChar

/-- The sign of an exponent, which need not be written. -/
inductive Sign where
  | unwritten
  | plus
  | minus
  deriving DecidableEq

def Sign.chars : Sign → List Char
  | unwritten => []
  | plus => ['+']
  | minus => ['-']

structure Exponent where
  isCapital : Bool
  sign : Sign
  digits : Digits
  deriving DecidableEq

def Exponent.chars (e : Exponent) : List Char :=
  (if e.isCapital then 'E' else 'e') :: (e.sign.chars ++ e.digits.chars)

/-- A number with all its parts. -/
structure Numeral where
  isNegative : Bool
  whole : Nat
  /-- The digits behind the point, if there is one. -/
  fraction : Option Digits
  exponent : Option Exponent
  deriving DecidableEq

namespace Numeral

/-- The fraction behind its point. -/
def fractionChars : Option Digits → List Char
  | some ds => '.' :: ds.chars
  | none => []

def exponentChars : Option Exponent → List Char
  | some e => e.chars
  | none => []

/-- The number without the minus in front. -/
def bareChars (n : Numeral) : List Char :=
  Nat.toDigits 10 n.whole ++ (fractionChars n.fraction ++ exponentChars n.exponent)

def chars (n : Numeral) : List Char := if n.isNegative then '-' :: n.bareChars else n.bareChars

/-- The number is written as an integer. Minus zero is none. -/
def isInteger (n : Numeral) : Bool :=
  n.fraction.isNone && n.exponent.isNone && !(n.isNegative && n.whole == 0)

/-- The integer that is written if the number has neither a fraction nor an exponent. -/
def toInt (n : Numeral) : Int := if n.isNegative then -n.whole else n.whole

def ofInt (value : Int) : Numeral := ⟨value < 0, value.natAbs, none, none⟩

end Numeral

/-- A number with a fraction or an exponent, or minus zero. -/
structure NonInteger where
  numeral : Numeral
  isNonInteger : numeral.isInteger = false
  deriving DecidableEq

end PageBlocks.Json
