import PageBlocks.Markup.Lexer
import PageBlocks.Markup.Construction.Step

/-!
Reading a page. Any text is a page: the parser takes the text character by character, and what does
not fit is put where it can be of use.
-/
namespace PageBlocks.Markup

structure Parser where
  lexer : Lexer
  construction : Construction
  /-- A text begins here; a byte order mark at its beginning does not belong to it. -/
  isFresh : Bool

namespace Parser

def start : Parser := ⟨.start, .start, true⟩

/-- Take in a token. -/
def accept (p : Parser) (t : Token) : Parser :=
  let (c, answer) := p.construction.accept t
  match answer with
  | .readOn => { p with construction := c }
  | .readAs mode => { p with lexer := p.lexer.setMode mode, construction := c }
  | .readAfresh => { p with construction := c, isFresh := true }

/-- Take in a character. -/
def step (p : Parser) (ch : Char) : Parser :=
  if p.isFresh && ch == '\ufeff' then { p with isFresh := false }
  else
    let (lexer, tokens) := p.lexer.step p.construction.isInIsland ch
    tokens.foldl accept { p with lexer := lexer, isFresh := false }

/-- The page read so far, taking the text as complete. -/
def finish (p : Parser) : Document :=
  (p.lexer.finish.foldl accept p).construction.arena.toDocument

end Parser

/-- The page that a text says. -/
def Document.ofText (text : String) : Document :=
  (text.toList.foldl Parser.step Parser.start).finish

end PageBlocks.Markup
