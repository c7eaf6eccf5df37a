import PageBlocks.Image.Store

/-!
A cache before a media store. It remembers what the store has taken in, by address, up to a number of
images; the image that was asked for longest ago gives way. Refusals are not remembered, since the
store may do better the next time.
-/
namespace PageBlocks.Image

/-- The images that are remembered, the one that was asked for last at the front. -/
structure Cache where
  capacity : Nat
  entries : List (String × Attachment)
  deriving DecidableEq

namespace Cache

/-- A cache with room for at least one image. -/
def empty (capacity : Nat) : Cache := ⟨max 1 capacity, []⟩

def size (c : Cache) : Nat := c.entries.length

def isEmpty (c : Cache) : Bool := c.entries.isEmpty

def get? (c : Cache) (url : String) : Option Attachment := c.entries.lookup url

/-- Entries without the one for an address. -/
def without (url : String) (entries : List (String × Attachment)) : List (String × Attachment) :=
  entries.filter fun entry => entry.1 != url

/-- Put an image at the front, and forget what there is no room for. -/
def insert (c : Cache) (url : String) (a : Attachment) : Cache :=
  { c with entries := ((url, a) :: without url c.entries).take c.capacity }

end Cache

/-- A store behind a cache. A request whose address is remembered does not reach the store. -/
def Store.cached {σ : Type} (inner : Store σ) : Store (Cache × σ) := fun (c, s) q =>
  match c.get? q.url with
  | some a => (.stored a, (c.insert q.url a, s))
  | Option.none =>
    let (outcome, s) := inner s q
    match outcome with
    | .stored a => (.stored a, (c.insert q.url a, s))
    | .refused reason => (.refused reason, (c, s))

end PageBlocks.Image
