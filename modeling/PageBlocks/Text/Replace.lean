/-!
Exchanging every occurrence of a pattern. Occurrences are taken from the left and do not overlap: the
search goes on behind an occurrence, and never looks into the text that was put in its place.
-/
namespace PageBlocks.Text

/-- Exchange the occurrences behind the next `skip` characters, which belong to the last one. -/
def replaceFrom (pattern new : List Char) : Nat → List Char → List Char
  | _, [] => []
  | skip + 1, _ :: rest => replaceFrom pattern new skip rest
  | 0, c :: rest =>
    if pattern.isPrefixOf (c :: rest) then
      new ++ replaceFrom pattern new (pattern.length - 1) rest
    else c :: replaceFrom pattern new 0 rest

/-- The text with every occurrence of a pattern, which is not empty, exchanged. -/
def replaceAll (pattern new cs : List Char) : List Char := replaceFrom pattern new 0 cs

end PageBlocks.Text
