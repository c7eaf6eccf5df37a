import PageBlocks.Json.Value

/-!
What can go wrong with a conversion. The cause is told apart here; the wording is made of it in
`message`, and `category` says whose fault it is.
-/
namespace PageBlocks

/-- Why a configuration is of no use. -/
inductive ConfigFault where
  | unreadable (path reason : String)
  /-- The text is not the JSON of a configuration. -/
  | malformed
  | headingColor (color : String)
  | elementorVersion
  | diviVersion
  | classLead (lead : String)
  | cacheCapacity
  deriving DecidableEq

namespace ConfigFault

def message : ConfigFault → String
  | unreadable path reason => "failed to read " ++ path ++ ": " ++ reason
  | malformed => "malformed config JSON"
  | headingColor color => "heading title color '" ++ color ++ "' is not a hex colour"
  | elementorVersion => "elementor_version must not be empty"
  | diviVersion => "divi_version must not be empty"
  | classLead lead => "utility class prefix '" ++ lead ++ "' is not a valid CSS identifier"
  | cacheCapacity => "image_cache_capacity must be at least 1"

end ConfigFault

/-- Why options cannot be honoured. -/
inductive OptionsFault where
  /-- Images are required but must not be uploaded. -/
  | requiredNotUploaded
  | blankScope
  deriving DecidableEq

namespace OptionsFault

def message : OptionsFault → String
  | requiredNotUploaded => "require_images needs upload_images enabled"
  | blankScope => "css_scope must not be blank"

end OptionsFault

/-- Why a conversion failed. -/
inductive ConversionError where
  | unsupportedBuilder (name : String)
  | invalidOptions (fault : OptionsFault)
  /-- An image was required and could not be uploaded. -/
  | image (url reason : String)
  | config (fault : ConfigFault)
  deriving DecidableEq

/-- Whose fault an error is. -/
inductive Culprit where
  /-- The media store misbehaved; the content can be used. -/
  | collaborator
  | invalidOptions
  | configuration
  deriving DecidableEq

namespace Culprit

def name : Culprit → String
  | collaborator => "collaborator"
  | invalidOptions => "invalid_options"
  | configuration => "configuration"

end Culprit

namespace ConversionError

def kindName : ConversionError → String
  | unsupportedBuilder _ => "unsupported_builder"
  | invalidOptions _ => "invalid_options"
  | image .. => "image_migration"
  | config _ => "config"

def message : ConversionError → String
  | unsupportedBuilder name => "Unsupported builder: " ++ name
  | invalidOptions fault => "Invalid conversion options: " ++ fault.message
  | image url reason => "Image migration failed for " ++ url ++ ": " ++ reason
  | config fault => "Invalid converter configuration: " ++ fault.message

def category : ConversionError → Culprit
  | image .. => .collaborator
  | unsupportedBuilder _ | invalidOptions _ => .invalidOptions
  | config _ => .configuration

/-- Whether content is left that can be used. -/
def isRecoverable (e : ConversionError) : Bool := e.category == .collaborator

/-- The particulars of an error. -/
def detailJson : ConversionError → Json
  | unsupportedBuilder name => .str name
  | invalidOptions fault => .str fault.message
  | image url reason => .obj [("url", .str url), ("message", .str reason)]
  | config fault => .str fault.message

def toJson (e : ConversionError) : Json :=
  .obj [("kind", .str e.kindName), ("detail", e.detailJson)]

end ConversionError

end PageBlocks
