/-!
The ChaCha key stream with twelve rounds, as a source of words of 32 bits. A block is a table of four
rows of four words; the rounds mix the columns and the diagonals of the table in turn.
-/
namespace PageBlocks.ChaCha

/-- A row of a block. -/
structure Row where
  a : UInt32
  b : UInt32
  c : UInt32
  d : UInt32
  deriving DecidableEq, Inhabited

namespace Row

def zip (f : UInt32 → UInt32 → UInt32) (x y : Row) : Row :=
  ⟨f x.a y.a, f x.b y.b, f x.c y.c, f x.d y.d⟩

def add (x y : Row) : Row := zip (· + ·) x y

def xor (x y : Row) : Row := zip (· ^^^ ·) x y

/-- Rotate a word to the left. -/
def rotate (n : UInt32) (w : UInt32) : UInt32 := (w <<< n) ||| (w >>> (32 - n))

def rotateEach (n : UInt32) (x : Row) : Row :=
  ⟨rotate n x.a, rotate n x.b, rotate n x.c, rotate n x.d⟩

/-- Move the words by one place to the left. -/
def turn (x : Row) : Row := ⟨x.b, x.c, x.d, x.a⟩

def toList (x : Row) : List UInt32 := [x.a, x.b, x.c, x.d]

end Row

structure Block where
  first : Row
  second : Row
  third : Row
  fourth : Row
  deriving DecidableEq, Inhabited

namespace Block

/-- Mix the four columns. -/
def mixColumns (s : Block) : Block :=
  let a := s.first.add s.second
  let d := (s.fourth.xor a).rotateEach 16
  let c := s.third.add d
  let b := (s.second.xor c).rotateEach 12
  let a := a.add b
  let d := (d.xor a).rotateEach 8
  let c := c.add d
  let b := (b.xor c).rotateEach 7
  ⟨a, b, c, d⟩

/-- Turn the rows so that the diagonals become columns. -/
def slant (s : Block) : Block := ⟨s.first, s.second.turn, s.third.turn.turn, s.fourth.turn.turn.turn⟩

/-- Turn the rows back. -/
def straighten (s : Block) : Block :=
  ⟨s.first, s.second.turn.turn.turn, s.third.turn.turn, s.fourth.turn⟩

/-- A round on the columns and a round on the diagonals. -/
def doubleRound (s : Block) : Block := s.mixColumns.slant.mixColumns.straighten

def add (s t : Block) : Block :=
  ⟨s.first.add t.first, s.second.add t.second, s.third.add t.third, s.fourth.add t.fourth⟩

/-- The twelve rounds, added to what they began with. -/
def scramble (s : Block) : Block := (Nat.repeat doubleRound 6 s).add s

def toList (s : Block) : List UInt32 :=
  s.first.toList ++ s.second.toList ++ s.third.toList ++ s.fourth.toList

end Block

/-- A key stream: the key, the number of the next block, and the words that are left of the last. -/
structure Stream where
  low : Row
  high : Row
  counter : UInt64
  left : List UInt32
  deriving DecidableEq, Inhabited

namespace Stream

/-- The words `expand 32-byte k` with which each block begins. -/
def constants : Row := ⟨0x61707865, 0x3320646e, 0x79622d32, 0x6b206574⟩

/-- The block with a number. -/
def blockAt (s : Stream) (n : UInt64) : Block :=
  Block.scramble ⟨constants, s.low, s.high, ⟨n.toUInt32, (n >>> 32).toUInt32, 0, 0⟩⟩

/-- The next word and the stream behind it. -/
def next (s : Stream) : UInt32 × Stream :=
  match s.left with
  | w :: rest => (w, { s with left := rest })
  | [] =>
    let block := s.blockAt s.counter
    let rest := (block.toList).tail
    (block.first.a, { s with counter := s.counter + 1, left := rest })

/-- One step of the generator that expands a seed to a key. -/
def stretch (state : UInt64) : UInt32 × UInt64 :=
  let state := state * 6364136223846793005 + 11634580027462260723
  let mixed := (((state >>> 18) ^^^ state) >>> 27).toUInt32
  let turns := (state >>> 59).toUInt32
  (Row.rotate ((32 - turns) % 32) mixed, state)

def stretchRow (state : UInt64) : Row × UInt64 :=
  let (a, state) := stretch state
  let (b, state) := stretch state
  let (c, state) := stretch state
  let (d, state) := stretch state
  (⟨a, b, c, d⟩, state)

/-- The key stream of a seed. -/
def ofSeed (seed : UInt64) : Stream :=
  let (low, state) := stretchRow seed
  let (high, _) := stretchRow state
  ⟨low, high, 0, []⟩

end Stream

end PageBlocks.ChaCha
