import PageBlocks.Id.ChaCha
import PageBlocks.Text.Ascii
import Std.Data.HashSet

/-!
Element ids: seven hexadecimal digits, drawn from a source of words and never issued twice. A draw
that repeats an earlier one is thrown away.
-/
namespace PageBlocks

/-- A source of words of 32 bits. -/
abbrev WordSource (ρ : Type) := ρ → UInt32 × ρ

namespace ElementId

/-- The number of digits of an id. -/
def width : Nat := 7

/-- The id that a word draws: its upper bits. -/
def ofWord (w : UInt32) : Nat := (w >>> 4).toNat

def toString (id : Nat) : String := String.ofList (Text.hexDigits width id)

end ElementId

/-- What issues ids: the state of the source, and the ids issued so far. -/
structure IdIssuer (ρ : Type) where
  source : ρ
  issued : Std.HashSet Nat

namespace IdIssuer

variable {ρ : Type}

def start (source : ρ) : IdIssuer ρ := ⟨source, ∅⟩

/-- The number of ids issued so far. -/
def size (s : IdIssuer ρ) : Nat := s.issued.size

section

variable (words : WordSource ρ) (issued : Std.HashSet Nat)

/-- Draw ids until one has not been issued. A source that draws issued ids for ever gives no result. -/
def draw? : StateT ρ Option Nat := fun source =>
  let (w, source) := words source
  let id := ElementId.ofWord w
  if issued.contains id then draw?.run source else some (id, source)
partial_fixpoint

end

/-- The next id. Nothing is issued where drawing has no result, which no run comes to see. -/
def next (words : WordSource ρ) (s : IdIssuer ρ) : String × IdIssuer ρ :=
  match draw? words s.issued s.source with
  | some (id, source) => (ElementId.toString id, ⟨source, s.issued.insert id⟩)
  | none => ("", s)

/-- The next ids in order, behind those that are kept in reverse. -/
def takeFrom (words : WordSource ρ) (done : List String) : Nat → IdIssuer ρ →
    List String × IdIssuer ρ
  | 0, s => (done.reverse, s)
  | n + 1, s =>
    let (id, s) := next words s
    takeFrom words (id :: done) n s

/-- The next ids in order. -/
def take (words : WordSource ρ) (n : Nat) (s : IdIssuer ρ) : List String × IdIssuer ρ :=
  takeFrom words [] n s

end IdIssuer

/-- The issuer of ids that a seed decides. -/
def IdIssuer.ofSeed (seed : UInt64) : IdIssuer ChaCha.Stream := .start (.ofSeed seed)

end PageBlocks
