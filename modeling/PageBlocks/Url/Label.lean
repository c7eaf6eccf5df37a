import PageBlocks.Unicode.Direction
import PageBlocks.Unicode.Joining
import PageBlocks.Unicode.Normal
import PageBlocks.Url.Punycode

/-!
Labels, the parts of a domain name between its full stops. A label outside ASCII is written in Punycode.
It does not begin with a mark; joiners stand only where they change how letters look; and in a name that
is written from the right at some place each label has a direction of its own.
-/
namespace PageBlocks.Url.Label

open Unicode

/-! ### Joiners -/

def nonJoiner : Char := '\u200c'

def joiner : Char := '\u200d'

/-- Whether a joiner may stand between a text, kept in reverse, and another one. -/
def allowsJoiner (before after : List Char) (c : Char) : Bool :=
  before.head?.any Composition.isVirama ||
    (c == nonJoiner && (before.dropWhile Joining.isTransparent).head?.any Joining.joinsNext &&
      (after.dropWhile Joining.isTransparent).head?.any Joining.joinsPrevious)

/-- Whether each joiner stands where it may, behind a text that is kept in reverse. -/
def joinersFit (before : List Char) : List Char → Bool
  | [] => true
  | c :: rest =>
    (!(c == nonJoiner || c == joiner) || allowsJoiner before rest c) && joinersFit (c :: before) rest

/-! ### Directions -/

def isFromRight : Direction → Bool
  | .right | .arabic | .arabicNumber => true
  | _ => false

/-- The directions of a label without the marks at its end. -/
def withoutMarks (ds : List Direction) : List Direction := (ds.reverse.dropWhile (· == .mark)).reverse

/-- Whether a label has one direction: it begins with a letter, does not mix the directions, and ends
with a letter or a number. -/
def hasDirection (ds : List Direction) : Bool :=
  let last := (withoutMarks ds).getLast?
  match ds.head? with
  | none => true
  | some .left =>
    ds.all [.left, .europeanNumber, .neutral, .mark].contains &&
      last.all [.left, .europeanNumber].contains
  | some first =>
    (first == .right || first == .arabic) && !ds.contains .left &&
      last.all [.right, .arabic, .europeanNumber, .arabicNumber].contains &&
      !(ds.contains .europeanNumber && ds.contains .arabicNumber)

/-! ### Labels -/

/-- Whether a label may stand in a name by itself. -/
def isValid (label : List Char) : Bool :=
  !label.head?.any Joining.isMark && joinersFit [] label

/-- The beginning of a label in Punycode. -/
def lead : List Char := ['x', 'n', '-', '-']

/-- Labels are not longer than this if they are read from Punycode. -/
def longestRead : Nat := 2000

/-- Labels are not longer than this if they are written in Punycode. -/
def longestWritten : Nat := 1000

/-- A label that may be in Punycode, as it is read. It must be written in normal form with characters
that stand for themselves, at least one of them outside ASCII. -/
def read? (standsForItself : Char → Bool) (label : List Char) : Option (List Char) :=
  if lead.isPrefixOf label then
    if label.all Text.isAscii && label.length ≤ longestRead + lead.length then
      (Punycode.decode? (label.drop lead.length)).filter fun text =>
        !text.all Text.isAscii && text.all standsForItself && Normal.form text == text
    else none
  else some label

/-- A label in ASCII. -/
def written? (label : List Char) : Option (List Char) :=
  if label.all Text.isAscii then some label
  else if longestWritten < label.length then none
  else some (lead ++ Punycode.encode label)

end PageBlocks.Url.Label
