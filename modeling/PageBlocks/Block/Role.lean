import PageBlocks.Block.Node

/-!
What becomes of an element depends on its tag alone; attributes never change it.
-/
namespace PageBlocks

inductive Role where
  | heading (level : HeadingLevel)
  | image
  | capture (kind : CaptureKind)
  | embed
  /-- A wrapper that holds content like the page itself. -/
  | group
  /-- An element that yields nothing by itself but may hold blocks. -/
  | unrecognized
  deriving DecidableEq

namespace Role

/-- Tags of wrappers that dissolve into what they hold. -/
def groupTags : List String :=
  ["html", "body", "div", "section", "article", "main", "aside", "nav", "header", "footer",
    "figure", "center", "column", "row"]

/-- The class of the elements with a tag. Only headings may be written in capitals. -/
def ofTag (tag : String) : Role :=
  match HeadingLevel.ofTag? tag with
  | some level => .heading level
  | none =>
    match tag with
    | "img" => .image
    | "p" => .capture .paragraph
    | "ul" => .capture (.list false)
    | "ol" => .capture (.list true)
    | "table" => .capture .table
    | "blockquote" => .capture .blockquote
    | "iframe" => .embed
    | _ => if groupTags.contains tag then .group else .unrecognized

end Role

end PageBlocks
