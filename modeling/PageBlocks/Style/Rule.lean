/-!
Style rules. Declarations are kept as they stand. A rule that begins with `@` keeps all that stands
before its block as a single selector, so that commas inside it are never split.
-/
namespace PageBlocks.Style

/-- A rule taken out of a style sheet. -/
structure Rule where
  selectors : List String
  declarations : String
  /-- A rule without a block, such as an import. -/
  isStatement : Bool := false
  deriving DecidableEq, Inhabited

namespace Rule

/-- Whether the first selector begins with `@`. -/
def isAtRule (r : Rule) : Bool :=
  match r.selectors with
  | first :: _ => first.toList.head? == some '@'
  | [] => false

def prelude (r : Rule) : String := ", ".intercalate r.selectors

/-- The rule as it is written in a style sheet. -/
def toCss (r : Rule) : String :=
  if r.isStatement then r.prelude ++ ";"
  else r.prelude ++ "\x7b" ++ r.declarations ++ "\x7d"

end Rule

/-- Style sheet text, one rule a line. -/
def render (rules : List Rule) : String := "\n".intercalate (rules.map Rule.toCss)

end PageBlocks.Style
