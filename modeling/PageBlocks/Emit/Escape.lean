/-!
Escaping text for markup that is put together from parts. Unlike the markup of a tree, such markup
escapes `>` everywhere and leaves the no-break space alone.
-/
namespace PageBlocks.Emit

def escapeTextChar : Char → List Char
  | '&' => "&amp;".toList
  | '<' => "&lt;".toList
  | '>' => "&gt;".toList
  | c => [c]

def escapeValueChar : Char → List Char
  | '"' => "&quot;".toList
  | c => escapeTextChar c

/-- Text between tags. -/
def escapeText (s : String) : String := String.ofList (s.toList.flatMap escapeTextChar)

/-- A value between double quotes. -/
def escapeValue (s : String) : String := String.ofList (s.toList.flatMap escapeValueChar)

end PageBlocks.Emit
