import PageBlocks.Markup.Parser
import PageBlocks.Text.Ascii

/-!
Preparation: what is done to the text of a page before it is read. Some tools spoil characters
outside ASCII; for them each such character is written as a numeric character reference, which the
reading of the page undoes.
-/
namespace PageBlocks

open Markup

inductive Preparation where
  | asIs
  | numericReferences
  deriving DecidableEq, Inhabited

namespace Preparation

/-- The names by which preparations are known. -/
def names : List (String × Preparation) :=
  [("html5", asIs), ("legacy_numeric_entities", numericReferences)]

def name : Preparation → String
  | asIs => "html5"
  | numericReferences => "legacy_numeric_entities"

theorem lookup_name (p : Preparation) : names.lookup p.name = some p := by
  cases p <;> rfl

/-- A character, or the reference to it by number. -/
def referenceChar (c : Char) : List Char :=
  if Text.isAscii c then [c] else ("&#" ++ toString c.toNat ++ ";").toList

/-- Each character outside ASCII written as a reference. -/
def withReferences (text : String) : String :=
  String.ofList (text.toList.flatMap referenceChar)

/-- Prepare the text of a page. -/
def prepare : Preparation → String → String
  | asIs, text => text
  | numericReferences, text => withReferences text

/-- Read a page after its preparation. -/
def read (p : Preparation) (text : String) : Document := Document.ofText (p.prepare text)

end Preparation

end PageBlocks
