import PageBlocks.Block.Node

/-!
Media stores. A store takes in an image from its address and may answer differently each time, so it
is a state machine: it gets its state and a request and yields an outcome and its next state.
-/
namespace PageBlocks.Image

/-- An image that a store has taken in. -/
structure Attachment where
  id : UInt64
  url : String
  deriving DecidableEq, Inhabited

inductive Outcome where
  | stored (attachment : Attachment)
  | refused (reason : String)
  deriving DecidableEq, Inhabited

namespace Outcome

def attachment? : Outcome → Option Attachment
  | stored a => some a
  | refused _ => none

end Outcome

/-- An image to be taken in. -/
structure UploadRequest where
  url : String
  alt : Option String
  title : Option String
  deriving DecidableEq, Inhabited

/-- A media store whose states are `σ`. -/
abbrev Store (σ : Type) := σ → UploadRequest → Outcome × σ

namespace Store

/-- No store at all. -/
def none {σ : Type} : Store σ := fun s _ => (.refused "no image store configured", s)

/-- The outcome that a table has for an address; of several entries the last one counts. -/
def lookUp (table : List (String × Attachment)) (url : String) : Outcome :=
  match table.reverse.lookup url with
  | some a => .stored a
  | Option.none => .refused ("unknown image " ++ url)

/-- A store that knows a fixed table of images. -/
def ofTable {σ : Type} (table : List (String × Attachment)) : Store σ :=
  fun s q => (lookUp table q.url, s)

end Store

end PageBlocks.Image
