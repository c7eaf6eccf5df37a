import PageBlocks.Text.Ascii

/-!
Punycode writes a label with characters outside ASCII in ASCII: first the ASCII characters of the
label, then, as numbers with digits of varying weight, which characters are to be put in where.
-/
namespace PageBlocks.Url.Punycode

def base : Nat := 36

/-- The digits `a` to `z` and `0` to `9`. -/
def digit (n : Nat) : Char :=
  if n < 26 then Char.ofNat ('a'.toNat + n) else Char.ofNat ('0'.toNat + n - 26)

def digitValue? (c : Char) : Option Nat :=
  if c.isDigit then some (c.toNat - '0'.toNat + 26)
  else if c.isAlpha then some (c.toLower.toNat - 'a'.toNat)
  else none

/-- The largest digit that ends a number, by the place of the digit. -/
def threshold (bias place : Nat) : Nat := min 26 (max 1 (base * place - bias))

/-- How often a number has to be divided until it is small. -/
def divisions : Nat → Nat → Nat → Nat × Nat
  | 0, count, delta => (count, delta)
  | fuel + 1, count, delta =>
    if 455 < delta then divisions fuel (count + 1) (delta / 35) else (count, delta)

/-- The bias for the number that follows. -/
def adapt (delta count : Nat) (isFirst : Bool) : Nat :=
  let delta := if isFirst then delta / 700 else delta / 2
  let delta := delta + delta / count
  let (k, delta) := divisions delta 0 delta
  base * k + base * delta / (delta + 38)

/-- Write a number with the digits from a place on. The first argument bounds their count. -/
def writeNumber : Nat → Nat → Nat → Nat → List Char
  | 0, _, _, _ => []
  | fuel + 1, bias, place, q =>
    let t := threshold bias place
    if q < t then [digit q]
    else digit (t + (q - t) % (base - t)) :: writeNumber fuel bias (place + 1) ((q - t) / (base - t))

/-- What is remembered between two numbers. -/
structure Coding where
  delta : Nat
  bias : Nat
  /-- How many characters are written already. -/
  done : Nat
  written : List Char

/-- Write the places at which a character stands. -/
def writeChar (basic : Nat) (n : Nat) (s : Coding) (c : Char) : Coding :=
  if c.toNat < n then { s with delta := s.delta + 1 }
  else if c.toNat = n then
    { delta := 0
      bias := adapt s.delta (s.done + 1) (s.done == basic)
      done := s.done + 1
      written := s.written ++ writeNumber (s.delta + 2) s.bias 1 s.delta }
  else s

/-- Write the characters from `n` on; the first argument bounds how many different ones there are. -/
def writeFrom (label : List Char) (basic : Nat) : Nat → Nat → Coding → Coding
  | 0, _, s => s
  | fuel + 1, n, s =>
    match ((label.map Char.toNat).filter (n ≤ ·)).min? with
    | none => s
    | some m =>
      let s := { s with delta := s.delta + (m - n) * (s.done + 1) }
      let s := label.foldl (writeChar basic m) s
      writeFrom label basic fuel (m + 1) { s with delta := s.delta + 1 }

/-- A label in ASCII. -/
def encode (label : List Char) : List Char :=
  let basic := label.filter Text.isAscii
  let lead := if basic.isEmpty then [] else basic ++ ['-']
  let start : Coding := ⟨0, 72, basic.length, []⟩
  lead ++ (writeFrom label basic.length label.length 128 start).written

/-- Read a number that begins at a place, and yield it with the rest of the text. -/
def readNumber (bias : Nat) : Nat → Nat → Nat → List Char → Option (Nat × List Char)
  | _, _, _, [] => none
  | place, weight, acc, c :: rest =>
    match digitValue? c with
    | none => none
    | some d =>
      let t := threshold bias place
      let acc := acc + d * weight
      if d < t then some (acc, rest)
      else readNumber bias (place + 1) (weight * (base - t)) acc rest

/-- Put a character in at a place. -/
def insertAt (i : Nat) (c : Char) (cs : List Char) : List Char := cs.take i ++ c :: cs.drop i

/-- Put in the characters that the numbers tell. The first argument bounds their count. -/
def readFrom : Nat → Nat → Nat → Nat → List Char → List Char → Option (List Char)
  | 0, _, _, _, _, _ => none
  | fuel + 1, n, i, bias, done, text =>
    if text.isEmpty then some done
    else
      match readNumber bias 1 1 0 text with
      | none => none
      | some (delta, rest) =>
        let count := done.length + 1
        let total := i + delta
        let n := n + total / count
        if h : n.isValidChar then
          let bias := adapt delta count (i == 0)
          let place := total % count
          readFrom fuel n (place + 1) bias (insertAt place (Char.ofNatAux n h) done) rest
        else none

/-- The label that a text in ASCII stands for. Its last hyphen ends the characters of ASCII, which are
not none. -/
def decode? (text : List Char) : Option (List Char) :=
  let tail := (text.reverse.takeWhile (· != '-')).reverse
  let lead := text.dropLast.take (text.length - tail.length - 1)
  if text.head? == some '-' && lead.isEmpty || lead.any fun c => !Text.isAscii c then none
  else readFrom (tail.length + 1) 128 0 72 lead tail

end PageBlocks.Url.Punycode
