import PageBlocks.Text.Blank
import PageBlocks.Url.Parser

/-!
Where an image is to be fetched. A source that is an address by itself is taken as it stands; any
other one is resolved against the address of the page, if that is of use. An inline image brings its
own data and is never fetched.
-/
namespace PageBlocks.Image

/-- Whether a source holds the image itself. -/
def isInline (src : String) : Bool :=
  let scheme := (Text.trimStartChars src.toList).take 5
  scheme.map Char.toLower == "data:".toList

/-- The address at which to fetch an image. -/
def resolveSource (src : String) (baseUrl : Option String) : String :=
  if (Url.parse? src).isSome then src
  else
    match (baseUrl.bind Url.parse?).bind fun base => base.join? src with
    | some url => url.toString
    | none => src

end PageBlocks.Image
