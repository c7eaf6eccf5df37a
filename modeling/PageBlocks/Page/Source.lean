import PageBlocks.Charset.Declaration
import PageBlocks.Charset.Encoding

/-!
The text of a page with the charset that it came in.
-/
namespace PageBlocks.Page

open Charset

structure Source where
  html : String
  /-- The charset that was declared for the page or by the page, known or not. -/
  charset : Option String
  deriving DecidableEq

namespace Source

/-- The text of octets in UTF-8; if they are not, they are taken for Western European text. -/
def undeclaredText (i : Indexes) (bytes : List UInt8) : List Char :=
  (Utf8.decode? bytes).getD (Encoding.western.decodeMarked i bytes)

/-- The text of octets in a charset. -/
def textOf (i : Indexes) (charset : Option String) (bytes : List UInt8) : List Char :=
  match charset.bind Encoding.ofLabel? with
  | none | some .utf8 => undeclaredText i bytes
  | some encoding => encoding.decodeMarked i bytes

/-- A page from its octets. A charset that is declared for it counts more than its own. -/
def read (i : Indexes) (bytes : List UInt8) (declared : Option String) : Source :=
  let charset := ((declared.bind Text.trimmed?).map Text.lower).or (declaredLabel? bytes)
  ⟨String.ofList (textOf i charset bytes), charset⟩

/-- A page from its octets, where no tables are at hand: characters that only these have come out as
replacement characters. -/
def ofBytes (bytes : List UInt8) (declared : Option String) : Source := read .absent bytes declared

end Source

end PageBlocks.Page
