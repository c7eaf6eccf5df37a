import PageBlocks.Text.Ascii

/-!
Numeric hosts. Version 4 addresses are read leniently: one to four numbers in any of three bases, of
which the last one fills the places that are left. Version 6 addresses are eight pieces, of which a
run of zeros may be left out, and whose last two may be written as a version 4 address.
-/
namespace PageBlocks.Url

/-! ### Version 4 -/

/-- The digits of a number and its base. -/
def numberBase : List Char → Nat × List Char
  | '0' :: 'x' :: rest => (16, rest)
  | '0' :: 'X' :: rest => (16, rest)
  | '0' :: c :: rest => (8, c :: rest)
  | cs => (10, cs)

/-- The number that digits of a base write. -/
def numberOf? (base : Nat) (cs : List Char) : Option Nat :=
  cs.foldlM (fun acc c => (Text.digitValue? base c).map (base * acc + ·)) 0

/-- A number of a version 4 address. -/
def part4? (cs : List Char) : Option Nat :=
  if cs.isEmpty then none
  else
    let (base, digits) := numberBase cs
    numberOf? base digits

/-- The labels of a host; an empty last one does not count. -/
def labels4 (host : List Char) : List (List Char) :=
  let labels := host.splitOn '.'
  if 1 < labels.length && labels.getLast? == some [] then labels.dropLast else labels

/-- Whether a host must be a version 4 address. -/
def endsInNumber (host : List Char) : Bool :=
  match (labels4 host).getLast? with
  | some last => !last.isEmpty && (last.all Char.isDigit || (part4? last).isSome)
  | none => false

/-- The weight of a place of a version 4 address, from the right. -/
def weight4 (place : Nat) : Nat := Nat.pow 256 place

/-- The value of a version 4 address. -/
def address4? (host : List Char) : Option Nat := do
  let numbers ← (labels4 host).mapM part4?
  let first := numbers.dropLast
  let last ← numbers.getLast?
  if 4 < numbers.length || first.any (255 < ·) || weight4 (4 - first.length) ≤ last then none
  else return first.foldl (256 * · + ·) 0 * weight4 (4 - first.length) + last

def writtenAddress4 (n : Nat) : List Char :=
  let octet i := toString (n / weight4 i % 256)
  (octet 3 ++ "." ++ octet 2 ++ "." ++ octet 1 ++ "." ++ octet 0).toList

/-! ### Version 6 -/

/-- The hexadecimal number of one to four digits. -/
def piece? (cs : List Char) : Option Nat :=
  if cs.isEmpty || 4 < cs.length then none else numberOf? 16 cs

/-- A decimal number below 256 without needless zeros. -/
def octet? (cs : List Char) : Option Nat :=
  if cs.isEmpty || 3 < cs.length || (1 < cs.length && cs.head? == some '0') then none
  else (numberOf? 10 cs).filter (· < 256)

/-- The two pieces of a version 4 address in a version 6 address. -/
def tail4? (cs : List Char) : Option (List Nat) := do
  let [a, b, c, d] ← (cs.splitOn '.').mapM octet? | none
  return [256 * a + b, 256 * c + d]

/-- The pieces between colons; only the last one may be a version 4 address. -/
def pieces? (cs : List Char) : Option (List Nat) :=
  if cs.isEmpty then some []
  else do
    let parts := cs.splitOn ':'
    let last ← parts.getLast?
    let front ← parts.dropLast.mapM piece?
    if last.contains '.' then return front ++ (← tail4? last) else return front ++ [← piece? last]

/-- A text around the first `::` in it. -/
def aroundGap : List Char → Option (List Char × List Char)
  | ':' :: ':' :: rest => some ([], rest)
  | c :: rest => (aroundGap rest).map fun (before, after) => (c :: before, after)
  | [] => none

/-- The eight pieces of a version 6 address. -/
def address6? (cs : List Char) : Option (List Nat) := do
  match aroundGap cs with
  | none =>
    let pieces ← pieces? cs
    if pieces.length = 8 then some pieces else none
  | some (before, after) =>
    if before.contains '.' || after.head? == some ':' then none
    else
      let front ← pieces? before
      let back ← pieces? after
      let count := front.length + back.length
      if count < 8 then return front ++ List.replicate (8 - count) 0 ++ back else none

/-- The length of the run of zeros at the beginning. -/
def zeros (pieces : List Nat) : Nat := (pieces.takeWhile (· == 0)).length

/-- The first longest run of zeros, as its place and its length. -/
def longestZeros (pieces : List Nat) : Nat × Nat :=
  (List.range pieces.length).foldl (fun best i =>
    let length := zeros (pieces.drop i)
    if best.2 < length then (i, length) else best) (0, 0)

def hexText (n : Nat) : List Char := Nat.toDigits 16 n

def writtenPieces (pieces : List Nat) : List Char :=
  List.intercalate [':'] (pieces.map hexText)

def writtenAddress6 (pieces : List Nat) : List Char :=
  let (start, length) := longestZeros pieces
  if length < 2 then writtenPieces pieces
  else writtenPieces (pieces.take start) ++ [':', ':'] ++ writtenPieces (pieces.drop (start + length))

end PageBlocks.Url
