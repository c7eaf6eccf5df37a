import PageBlocks.Unicode.Mapping
import PageBlocks.Url.Label

/-!
Domain names. A name is brought into the form in which names are looked up: letters without their
case, variants of a character as the character itself, characters that mean nothing left out, and
labels outside ASCII in Punycode.
-/
namespace PageBlocks.Url.Domain

open Unicode

/-- Characters of ASCII that no name may contain. -/
def isForbiddenAscii (c : Char) : Bool :=
  c.toNat ≤ 0x20 || c.toNat == 0x7F ||
    ['#', '%', '/', ':', '<', '>', '?', '@', '[', '\\', ']', '^', '|'].contains c

/-- What a character is brought to; `none` if no name may contain it. -/
def map? (c : Char) : Option (List Char) :=
  if Text.isAscii c then some [c.toLower] else Mapping.image? c

/-- Whether a character is part of a name as it stands. -/
def standsForItself (c : Char) : Bool := map? c == some [c] && !isForbiddenAscii c

/-- A name with each character brought to its form. -/
def mapped? (name : List Char) : Option (List Char) := do
  let text := (← name.mapM map?).flatten
  if text.any isForbiddenAscii then none
  else return if text.all Text.isAscii then text else Normal.form text

/-- Whether the labels of a name can stand together: if one is written from the right, each of them
has a direction. -/
def hasDirections (labels : List (List Char)) : Bool :=
  let directions := labels.map (·.map Direction.ofChar)
  !directions.any (·.any Label.isFromRight) || directions.all Label.hasDirection

/-- The labels of a name as they are read. -/
def labels? (text : List Char) : Option (List (List Char)) := do
  let labels ← (text.splitOn '.').mapM (Label.read? standsForItself)
  if labels.all (·.all Text.isAscii) || (labels.all Label.isValid && hasDirections labels) then
    return labels
  else none

/-- The form of a name in which it is looked up. -/
def toAscii? (name : List Char) : Option (List Char) := do
  let labels ← labels? (← mapped? name)
  return List.intercalate ['.'] (← labels.mapM Label.written?)

end PageBlocks.Url.Domain
