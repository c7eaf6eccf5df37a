import PageBlocks.Emit.Escape
import PageBlocks.Image.Placement
import PageBlocks.Proofs.Emit.Unescape
import PageBlocks.Proofs.Json.Numbers

/-!
What an item shows. The builders have items of their own for the blocks of a page, Gutenberg blocks, Divi
modules and Elementor widgets. A reader takes out of an item of one builder what it shows, with the
escapes of that builder undone; where a builder leaves its own escape sequences alone, only the values
without such a sequence come back. What an item has of a captured element or of a text is read as a whole,
so that one item is not taken for two.
-/
namespace PageBlocks

open Image

/-- How the items of a builder are read. -/
structure ItemReader (α : Type) where
  isItem : α → Prop
  level? : α → Option HeadingLevel
  text? : α → Option String
  /-- The anchor of a heading, which may have none. -/
  anchor? : α → Option (Option String)
  url? : α → Option String
  /-- The number of the attachment of an image, which may have none. -/
  attachment? : α → Option (Option Nat)
  markup? : α → Option String
  /-- What the builder takes of the markup of a captured element. -/
  part : CaptureKind → Captured → String
  /-- The part of a captured element in an item. -/
  captured? : CaptureKind → α → Option String
  /-- The text that an item has for text that stands by itself. -/
  plain? : α → Option String
  /-- The values that come back. -/
  valueComesBack : String → Prop
  /-- The markup that comes back. -/
  markupComesBack : String → Prop
  /-- The parts of captured elements that come back. -/
  partComesBack : CaptureKind → String → Prop

/-- The item is one of the builder and shows what the block has: the level, the text and the anchor of a
heading, the address and the attachment of an image, the markup of what is embedded or captured, the text
that stands by itself. -/
def ItemReader.Reads {α : Type} (r : ItemReader α) : Block Placed → α → Prop
  | .heading level text anchor, item =>
    r.isItem item ∧ r.level? item = some level ∧
      (r.valueComesBack text → r.text? item = some text) ∧
      ((∀ value ∈ anchor, r.valueComesBack value) → r.anchor? item = some anchor)
  | .image i, item =>
    r.isItem item ∧ (r.valueComesBack i.url → r.url? item = some i.url) ∧
      r.attachment? item = some (i.attachmentId.map UInt64.toNat)
  | .embed markup, item =>
    r.isItem item ∧ (r.markupComesBack markup → r.markup? item = some markup)
  | .captured kind html, item =>
    r.isItem item ∧ r.level? item = none ∧ r.url? item = none ∧
      (r.partComesBack kind (r.part kind html) → r.captured? kind item = some (r.part kind html))
  | .plainText value, item =>
    r.isItem item ∧ r.level? item = none ∧ r.url? item = none ∧ r.plain? item = some value

/-- What two readings say, if they say the same. -/
def agreed {α : Type} [DecidableEq α] (a b : Option α) : Option α := if a = b then a else none

/-- The text between two fixed ends. -/
def between? (front back text : String) : Option String :=
  ((text.toList.dropPrefix? front.toList).bind (·.dropSuffix? back.toList)).map String.ofList

/-- The text of a paragraph without attributes. -/
def paragraphText? (markup : String) : Option String :=
  (between? "<p>" "</p>" markup).map (Emit.unescape Emit.markupEscapes)

/-- The number that decimal digits stand for. -/
def numeral? (s : String) : Option Nat :=
  if !s.toList.isEmpty && s.toList.all Char.isDigit then some (Json.Reader.decimal s.toList) else none

end PageBlocks
