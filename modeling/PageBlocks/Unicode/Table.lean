import PageBlocks.Text.Ascii

/-!
Tables of characters that are written as text. A row begins with the hexadecimal number of a character,
`61`, or with a range of them, `61-7a`, or with every second one of a range, `61-7a/2`. Behind an equals
sign stand the values that belong to it, numbers too, parted by full stops: `df=73.73`.
-/
namespace PageBlocks.Unicode

structure Row where
  first : Nat
  last : Nat
  step : Nat
  values : List Nat
  deriving DecidableEq

abbrev Table := List Row

/-- The number that hexadecimal digits write. -/
def hexValue (cs : List Char) : Nat :=
  cs.foldl (fun n c => 16 * n + (Text.digitValue? 16 c).getD 0) 0

namespace Row

/-- The row that a text writes. -/
def ofChars (cs : List Char) : Row :=
  let (place, values) := cs.span (· != '=')
  let (range, step) := place.span (· != '/')
  let (first, last) := range.span (· != '-')
  { first := hexValue first
    last := hexValue (if last.isEmpty then first else last.tail)
    step := if step.isEmpty then 1 else hexValue step.tail
    values := if values.length < 2 then [] else (values.tail.splitOn '.').map hexValue }

/-- Whether a row speaks of a character. -/
def covers (r : Row) (n : Nat) : Bool :=
  r.first ≤ n && n ≤ r.last && (n - r.first) % r.step == 0

/-- The values for a character of the range, where a single value is that of the first one and the
following ones follow it. -/
def shifted (r : Row) (n : Nat) : List Nat :=
  match r.values with
  | [value] => [value + (n - r.first)]
  | values => values

end Row

namespace Table

/-- The table that lines of rows write. -/
def ofLines (lines : List String) : Table :=
  lines.flatMap fun line => (line.toList.splitOn ' ').map Row.ofChars

/-- The row that speaks of a character. -/
def row? (t : Table) (n : Nat) : Option Row := t.find? (·.covers n)

def contains (t : Table) (n : Nat) : Bool := t.any (·.covers n)

end Table

end PageBlocks.Unicode
