import PageBlocks.Charset.Utf8
import PageBlocks.Text.Ascii
import PageBlocks.Text.Blank

/-!
The charset that a page declares of itself, in a `meta` tag near its beginning. The tag is looked for
in the octets, before it is known how to read them; an octet that is not UTF-8 ends a tag.
-/
namespace PageBlocks.Charset.Declaration

/-- The octets in which a declaration must stand. -/
def window : Nat := 1024

/-- Letters without their case. Two letters outside ASCII are capitals of ASCII letters, so to speak:
the long s and the sign of Kelvin. -/
def fold (c : Char) : Char :=
  if c == '\u017f' then 's' else if c == '\u212a' then 'k' else c.toLower

/-- What follows a word, whatever its case, at the beginning of a text. -/
def afterWord? (word : String) (cs : List Char) : Option (List Char) :=
  let w := word.toList
  if (cs.take w.length).map fold == w then some (cs.drop w.length) else none

/-- Characters of labels. -/
def isLabelChar (c : Char) : Bool :=
  c.isAlphanum || fold c != c.toLower || ['_', '.', ':', '-'].contains c

/-- The label that a text begins with, if the text is a declaration from `charset` on. -/
def labelAt? (cs : List Char) : Option String := do
  let rest ← afterWord? "charset" cs
  match rest.dropWhile Text.isBlank with
  | '=' :: rest =>
    let rest := rest.dropWhile Text.isBlank
    let rest := match rest with
      | '"' :: rest => rest
      | '\'' :: rest => rest
      | rest => rest
    let label := (rest.dropWhile Text.isBlank).takeWhile isLabelChar
    if label.isEmpty then none else some (String.ofList label)
  | _ => none

/-- The label of the last declaration that begins in the first `count` places of a text. -/
def lastLabel? : Nat → List Char → Option String
  | 0, _ => none
  | _, [] => none
  | count + 1, c :: cs =>
    match lastLabel? count cs with
    | some label => some label
    | none => labelAt? (c :: cs)

/-- The characters up to the first broken sequence. -/
def unbroken : List (Option Char) → List Char
  | some c :: rest => c :: unbroken rest
  | _ => []

/-- The label that is declared in a tag which stands at the beginning of a text. -/
def labelInTag? (text : List (Option Char)) : Option String := do
  let rest ← afterWord? "<meta" (unbroken text)
  let inside := rest.takeWhile (· != '>')
  match rest with
  | [] => none
  | _ :: rest => lastLabel? inside.length rest

/-- The first label that is declared in a text. -/
def label? : List (Option Char) → Option String
  | [] => none
  | c :: rest =>
    match labelInTag? (c :: rest) with
    | some label => some label
    | none => label? rest

end Declaration

/-- The label that the beginning of a page declares, in small letters. -/
def declaredLabel? (bytes : List UInt8) : Option String :=
  (Declaration.label? (Utf8.scan (bytes.take Declaration.window))).map Text.lower

end PageBlocks.Charset
