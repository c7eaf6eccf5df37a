import PageBlocks.Style.Parser

/-!
Scoping. A scoped style sheet applies only below a given selector, the scope token, which is put
before each selector. Rules that begin with `@` are left alone.
-/
namespace PageBlocks.Style

/-- The scope token of a post. -/
def postToken (postId : Nat) : String := "body.postid-" ++ toString postId

/-- Whether a selector carries a token already. -/
def isScoped (token selector : String) : Bool :=
  selector == token || (token.toList ++ [' ']).isPrefixOf selector.toList

def scopedSelector (token selector : String) : String :=
  if isScoped token selector then selector else token ++ " " ++ selector

/-- Put a token before each selector of a rule. -/
def Rule.scope (token : String) (r : Rule) : Rule :=
  if token.isEmpty || r.isAtRule then r
  else { r with selectors := r.selectors.map (scopedSelector token) }

/-- A style sheet whose rules have been scoped. -/
structure ScopedSheet where
  token : String
  rules : List Rule
  deriving DecidableEq

def ScopedSheet.toCss (s : ScopedSheet) : String := render s.rules

/-- Scope rules with a token, which is trimmed first. -/
def ScopedSheet.ofRules (rules : List Rule) (token : String) : ScopedSheet :=
  let token := Text.trim token
  ⟨token, rules.map (Rule.scope token)⟩

/-- Read, scope and write a style sheet. -/
def scopeText (css token : String) : String := (ScopedSheet.ofRules (parse css) token).toCss

end PageBlocks.Style
