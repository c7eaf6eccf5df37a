/-!
Scanning style sheet text. A scan knows whether it is inside a quoted string and whether the last
character was a backslash, which takes away the meaning of the next one; both count everywhere, in
and out of strings. Places are counted in characters.
-/
namespace PageBlocks.Style

/-- The state of a scan between two characters. -/
structure Quoting where
  quote : Option Char
  escaped : Bool
  deriving DecidableEq

namespace Quoting

/-- Outside strings, with no escape pending. -/
def plain : Quoting := ⟨none, false⟩

def step (q : Quoting) (c : Char) : Quoting :=
  if q.escaped then { q with escaped := false }
  else if c = '\\' then { q with escaped := true }
  else
    match q.quote with
    | some d => if c = d then plain else q
    | none => if c = '"' ∨ c = '\'' then ⟨some c, false⟩ else q

/-- The state after a text. -/
def run (q : Quoting) (cs : List Char) : Quoting := cs.foldl step q

end Quoting

/-- The place of the first `needle` outside strings, counting from `place`. -/
def firstOutsideFrom (needle : Char) (q : Quoting) (place : Nat) : List Char → Option Nat
  | [] => none
  | c :: rest =>
    if q = .plain ∧ c = needle then some place
    else firstOutsideFrom needle (q.step c) (place + 1) rest

/-- The place of the first `needle` outside strings. -/
def firstOutside (needle : Char) (cs : List Char) : Option Nat :=
  firstOutsideFrom needle .plain 0 cs

/-- The place at which the braces balance, counting from `place` with `depth` braces open. -/
def closingBraceFrom (depth : Nat) (q : Quoting) (place : Nat) : List Char → Option Nat
  | [] => none
  | c :: rest =>
    if q = .plain ∧ c = '\x7b' then closingBraceFrom (depth + 1) q (place + 1) rest
    else if q = .plain ∧ c = '\x7d' then
      if depth - 1 = 0 then some place else closingBraceFrom (depth - 1) q (place + 1) rest
    else closingBraceFrom depth (q.step c) (place + 1) rest

/-- The place of the brace that closes the one at `opening`. -/
def closingBrace (cs : List Char) (opening : Nat) : Option Nat :=
  closingBraceFrom 0 .plain opening (cs.drop opening)

/-- A text without its comments. `inside` is what has been read of a comment, in reverse; `done` is
what is left of the text before it, in reverse. A comment that has no end stays. -/
def withoutCommentsFrom (done : List Char) : Option (List Char) → List Char → List Char
  | none, [] => done.reverse
  | some inside, [] => (inside ++ done).reverse
  | none, '/' :: '*' :: rest => withoutCommentsFrom done (some ['*', '/']) rest
  | none, c :: rest => withoutCommentsFrom (c :: done) none rest
  | some _, '*' :: '/' :: rest => withoutCommentsFrom done none rest
  | some inside, c :: rest => withoutCommentsFrom done (some (c :: inside)) rest

/-- A text without its comments, wherever they stand. -/
def withoutComments (cs : List Char) : List Char := withoutCommentsFrom [] none cs

end PageBlocks.Style
