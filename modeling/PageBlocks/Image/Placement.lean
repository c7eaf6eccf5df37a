import PageBlocks.Image.Store
import PageBlocks.Image.Source

/-!
Placing images. The images of a page go to the store one after the other, in the order of the page,
and come back with the address to use. An image that the store refuses keeps its own address, and the
failure is recorded. Inline images never go to the store.
-/
namespace PageBlocks.Image

/-- An image with the address to use. -/
structure Placed where
  source : ImageRef
  url : String
  attachmentId : Option UInt64
  deriving DecidableEq, Inhabited

/-- An image that the store refused. -/
structure Failure where
  url : String
  reason : String
  deriving DecidableEq, Inhabited

namespace Failure

def message (f : Failure) : String := f.url ++ ": " ++ f.reason

end Failure

/-- How images are to be placed. -/
structure Placing where
  upload : Bool
  /-- The address of the page. -/
  baseUrl : Option String

/-- What has come of placing so far. -/
structure Progress (σ : Type) where
  store : σ
  /-- The failures, the latest first. -/
  recent : List Failure

namespace Progress

def start {σ : Type} (store : σ) : Progress σ := ⟨store, []⟩

/-- The failures in the order in which they happened. -/
def failures {σ : Type} (p : Progress σ) : List Failure := p.recent.reverse

end Progress

variable {σ : Type}

/-- What is asked of the store for an image, if anything. -/
def Placing.request? (how : Placing) (i : ImageRef) : Option UploadRequest :=
  if !how.upload || isInline i.src then none
  else some ⟨resolveSource i.src how.baseUrl, i.alt, i.title⟩

/-- Place an image. -/
def place (store : Store σ) (how : Placing) (p : Progress σ) (i : ImageRef) :
    Placed × Progress σ :=
  match how.request? i with
  | none => (⟨i, i.src, none⟩, p)
  | some q =>
    let (outcome, s) := store p.store q
    match outcome with
    | .stored a => (⟨i, a.url, some a.id⟩, { p with store := s })
    | .refused reason => (⟨i, i.src, none⟩, ⟨s, ⟨q.url, reason⟩ :: p.recent⟩)

/-- Place the image of a block, if it is one. -/
def placeBlock (store : Store σ) (how : Placing) (p : Progress σ) :
    Block ImageRef → Block Placed × Progress σ
  | .heading level text anchor => (.heading level text anchor, p)
  | .image i =>
    let (placed, p) := place store how p i
    (.image placed, p)
  | .captured kind html => (.captured kind html, p)
  | .embed markup => (.embed markup, p)
  | .plainText value => (.plainText value, p)

/-- Place the images of blocks in order, behind those that are placed already, which are kept in
reverse. -/
def placeFrom (store : Store σ) (how : Placing) (done : List (Block Placed)) (p : Progress σ) :
    List (Block ImageRef) → List (Block Placed) × Progress σ
  | [] => (done.reverse, p)
  | b :: rest =>
    let (placed, p) := placeBlock store how p b
    placeFrom store how (placed :: done) p rest

/-- Place the images of blocks in order. -/
def placeBlocks (store : Store σ) (how : Placing) (p : Progress σ) (bs : List (Block ImageRef)) :
    List (Block Placed) × Progress σ :=
  placeFrom store how [] p bs

end PageBlocks.Image
