import PageBlocks.Text.Ascii

/-!
Blocks. A page is a flat sequence of blocks, whatever builder it is meant for. The type of blocks is
open in what stands for an image: a source found in the markup, or an image that has been placed.
-/
namespace PageBlocks

/-- A heading level from one to six. -/
structure HeadingLevel where
  value : Nat
  one_le : 1 ≤ value
  le_six : value ≤ 6
  deriving DecidableEq

namespace HeadingLevel

/-- The level of a number, unless it is out of range. -/
def ofNat? (n : Nat) : Option HeadingLevel :=
  if h : 1 ≤ n ∧ n ≤ 6 then some ⟨n, h.1, h.2⟩ else none

/-- The level of a tag such as `h3`. -/
def ofTag? (tag : String) : Option HeadingLevel :=
  match tag.toList with
  | [letter, digit] =>
    if letter == 'h' || letter == 'H' then (Text.digitValue? 10 digit).bind ofNat? else none
  | _ => none

/-- The level of a page title. -/
def top : HeadingLevel := ⟨1, by decide, by decide⟩

/-- The tag of a level. -/
def tag (l : HeadingLevel) : String := "h" ++ toString l.value

theorem value_cases (level : HeadingLevel) :
    level = ⟨1, by decide, by decide⟩ ∨ level = ⟨2, by decide, by decide⟩ ∨
      level = ⟨3, by decide, by decide⟩ ∨ level = ⟨4, by decide, by decide⟩ ∨
      level = ⟨5, by decide, by decide⟩ ∨ level = ⟨6, by decide, by decide⟩ := by
  obtain ⟨value, h1, h6⟩ := level
  simp only [HeadingLevel.mk.injEq]
  omega

end HeadingLevel

instance : Inhabited HeadingLevel := ⟨.top⟩

/-- An image as the markup names it. -/
structure ImageRef where
  src : String
  alt : Option String
  title : Option String
  deriving DecidableEq, Inhabited

namespace ImageRef

def altText (i : ImageRef) : String := i.alt.getD ""

def titleText (i : ImageRef) : String := i.title.getD ""

end ImageRef

/-- The markup of an element after its stamp has been put into its class attribute. -/
structure Captured where
  /-- The markup of its children. -/
  inner : String
  /-- The markup of the element itself. -/
  outer : String
  /-- The whole class attribute. -/
  classes : String
  deriving DecidableEq, Inhabited

/-- The elements whose markup is kept as a whole. -/
inductive CaptureKind where
  | paragraph
  | list (ordered : Bool)
  | table
  | blockquote
  deriving DecidableEq, Inhabited

/-- One block of a page. -/
inductive Block (ι : Type) where
  | heading (level : HeadingLevel) (text : String) (anchor : Option String)
  | image (image : ι)
  | captured (kind : CaptureKind) (html : Captured)
  /-- Markup that embeds another page. -/
  | embed (markup : String)
  /-- Text that stood by itself between other blocks. -/
  | plainText (value : String)
  deriving DecidableEq, Inhabited

namespace Block

/-- The name of the kind of a block. -/
def kindName {ι : Type} : Block ι → String
  | heading .. => "heading"
  | image _ => "image"
  | captured .paragraph _ => "paragraph"
  | captured (.list _) _ => "rich_list"
  | captured .table _ => "table"
  | captured .blockquote _ => "blockquote"
  | embed _ => "embed"
  | plainText _ => "plain_text"

/-- The image of a block that is one. -/
def image? {ι : Type} : Block ι → Option ι
  | image i => some i
  | _ => none

end Block

end PageBlocks
