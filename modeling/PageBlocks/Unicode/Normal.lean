import PageBlocks.Unicode.Composition

/-!
The normal form of a text: characters that can be written in several ways are written in the same one.
A text is taken apart into base characters and marks, the marks of each character are brought into the
order of their ranks, and what can be written as a single character then is.
-/
namespace PageBlocks.Unicode.Normal

open Unicode.Composition

/-- A character taken apart. No character needs more than a few steps, whose count the first argument
bounds. -/
def takenApart : Nat → Nat → List Nat
  | 0, n => [n]
  | fuel + 1, n =>
    match parts? n with
    | some (a, b) => takenApart fuel a ++ takenApart fuel b
    | none => [n]

/-- Put a mark behind a text, which is kept in reverse, but before marks of greater rank. -/
def insertMark (n : Nat) : List Nat → List Nat
  | m :: done => if rank n < rank m then m :: insertMark n done else n :: m :: done
  | [] => [n]

/-- A text with the marks of each character in order. -/
def ordered (text : List Nat) : List Nat :=
  (text.foldl (fun done n => if rank n = 0 then n :: done else insertMark n done) []).reverse

/-- A text put together up to some place. -/
structure Assembly where
  /-- What no longer changes, in reverse. -/
  done : List Nat
  /-- The last character that is no mark. -/
  base : Option Nat
  /-- The marks of this character that could not be put together with it, in reverse. -/
  marks : List Nat

namespace Assembly

/-- Put a character in behind the others. -/
def push (s : Assembly) (n : Nat) : Assembly :=
  if rank n = 0 then ⟨s.marks ++ s.base.toList ++ s.done, some n, []⟩
  else { s with marks := n :: s.marks }

/-- Put a character together with the last base character, unless a mark of no smaller rank is
between them. -/
def add (s : Assembly) (n : Nat) : Assembly :=
  let reaches := s.marks.head?.all fun m => rank m < rank n
  match (if reaches then s.base else none).bind fun base => whole? base n with
  | some whole => { s with base := some whole }
  | none => s.push n

def text (s : Assembly) : List Nat := (s.marks ++ s.base.toList ++ s.done).reverse

end Assembly

/-- The normal form of a text. -/
def form (text : List Char) : List Char :=
  let parts := ordered (text.flatMap fun c => takenApart 4 c.toNat)
  (parts.foldl Assembly.add ⟨[], none, []⟩).text.map Char.ofNat

end PageBlocks.Unicode.Normal
