import PageBlocks.Block.Walk

/-!
Header and footer. The header of a page is the first child of the body that is a `header` element or
bears the landmark role `banner`; the footer likewise with `footer` and `contentinfo`. Both are taken
out of the page before its blocks are collected, the header first.
-/
namespace PageBlocks.Page

open Markup

/-- The parts of a page that stand apart from its body. -/
inductive Landmark where
  | header | footer
  deriving DecidableEq

namespace Landmark

/-- The tag of the elements that are such a part. -/
def tag : Landmark → String
  | header => "header"
  | footer => "footer"

/-- The role by which any other element becomes such a part. -/
def role : Landmark → String
  | header => "banner"
  | footer => "contentinfo"

/-- Whether a node is such a part. -/
def marks (l : Landmark) : Node → Bool
  | .element e _ =>
    e.tag == l.tag ||
      (e.get? "role").any fun role => Text.sameIgnoringCase (Text.trim role) l.role
  | _ => false

end Landmark

/-- Take the first node with a property out of a list. -/
def takeFirst? (p : Node → Bool) (ns : List Node) : Option (Node × List Node) :=
  match ns.span fun n => !p n with
  | (before, n :: after) => some (n, before ++ after)
  | (_, []) => none

/-- Take a landmark out of the body of a page, if it has one. -/
def takeLandmark (l : Landmark) (d : Document) : Option Node × Document :=
  match takeFirst? l.marks d.bodyChildren with
  | some (n, rest) => (some n, d.modifyBody fun _ => rest)
  | none => (none, d)

/-- A page without its header and footer, and these. -/
structure Parts where
  body : Document
  header : Option Node
  footer : Option Node

namespace Parts

/-- A page that is left in one piece. -/
def whole (d : Document) : Parts := ⟨d, none, none⟩

/-- A page with its header and footer taken out. -/
def split (d : Document) : Parts :=
  let (header, d) := takeLandmark .header d
  let (footer, d) := takeLandmark .footer d
  ⟨d, header, footer⟩

/-- A page that is split if that is wanted. -/
def of (wanted : Bool) (d : Document) : Parts := if wanted then split d else whole d

def headerBlocks (stamps : Stamps) (p : Parts) : Option (List (Block ImageRef)) :=
  p.header.map fun n => blocksIn stamps n.children

def footerBlocks (stamps : Stamps) (p : Parts) : Option (List (Block ImageRef)) :=
  p.footer.map fun n => blocksIn stamps n.children

def bodyBlocks (stamps : Stamps) (p : Parts) : List (Block ImageRef) := p.body.blocks stamps

end Parts

end PageBlocks.Page
