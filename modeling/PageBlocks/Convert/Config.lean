import PageBlocks.Block.Stamp
import PageBlocks.Convert.Error
import PageBlocks.Json.Decode
import PageBlocks.Page.Preparation

/-!
The configuration of a converter. It is made once for many conversions. A configuration that is read
from JSON may leave fields out, which then have their defaults, and must pass `fault?`.
-/
namespace PageBlocks

/-- How headings look in builders that give them a look of their own. -/
structure HeadingLook where
  /-- Whether colour and typography are set at all. -/
  enabled : Bool := true
  titleColor : Option String := none
  typography : Bool := true
  fontFamily : String := "Roboto"
  fontWeight : String := "600"
  deriving DecidableEq, Inhabited

structure Config where
  preparation : Preparation := .asIs
  headingLook : HeadingLook := {}
  elementorVersion : String := "3.18.3"
  diviVersion : String := "4.16"
  diviPageLayout : String := "et_no_sidebar"
  /-- What the utility classes begin with. -/
  classLead : String := "pb"
  /-- What element ids are drawn from, if they are to be the same every time. -/
  idSeed : Option UInt64 := none
  cacheCapacity : UInt64 := 256
  deriving DecidableEq, Inhabited

namespace HeadingLook

def toJson (s : HeadingLook) : Json :=
  .obj [("enabled", .bool s.enabled), ("title_color", .optStr s.titleColor),
    ("typography", .bool s.typography), ("font_family", .str s.fontFamily),
    ("font_weight", .str s.fontWeight)]

open Json.Decoder in
def decode : Json.Decoder HeadingLook := fun r => do
  let [enabled, titleColor, typography, fontFamily, fontWeight] ←
    slots ["enabled", "title_color", "typography", "font_family", "font_weight"] r | none
  let d : HeadingLook := {}
  return {
    enabled := ← field bool d.enabled enabled
    titleColor := ← field (optional str) d.titleColor titleColor
    typography := ← field bool d.typography typography
    fontFamily := ← field str d.fontFamily fontFamily
    fontWeight := ← field str d.fontWeight fontWeight }

end HeadingLook

/-- A `#` and three, six or eight hexadecimal digits. -/
def isHexColor (s : String) : Bool :=
  match s.toList with
  | '#' :: digits => [3, 6, 8].contains digits.length && digits.all Text.isHexDigit
  | _ => false

/-- A letter followed by letters, digits, hyphens and underscores. -/
def isClassName (s : String) : Bool :=
  match s.toList with
  | c :: rest => c.isAlpha && rest.all fun c => c.isAlphanum || c == '-' || c == '_'
  | [] => false

namespace Config

def stamps (c : Config) : Stamps := .ofLead c.classLead

/-- What is wrong with a configuration, if anything; the first fault counts. -/
def fault? (c : Config) : Option ConfigFault :=
  match c.headingLook.titleColor.filter fun color => !isHexColor color with
  | some color => some (.headingColor color)
  | none =>
    if Text.isAllBlank c.elementorVersion then some .elementorVersion
    else if Text.isAllBlank c.diviVersion then some .diviVersion
    else if !isClassName c.classLead then some (.classLead c.classLead)
    else if c.cacheCapacity = 0 then some .cacheCapacity
    else none

/-- The configuration itself, if nothing is wrong with it. -/
def checked (c : Config) : Except ConfigFault Config :=
  match c.fault? with
  | some fault => .error fault
  | none => .ok c

def toJson (c : Config) : Json :=
  .obj [("encoding", .str c.preparation.name), ("heading_style", c.headingLook.toJson),
    ("elementor_version", .str c.elementorVersion), ("divi_version", .str c.diviVersion),
    ("divi_page_layout", .str c.diviPageLayout), ("utility_class_prefix", .str c.classLead),
    ("element_id_seed", .optWord c.idSeed), ("image_cache_capacity", .word c.cacheCapacity)]

open Json.Decoder in
def decode : Json.Decoder Config := fun r => do
  let [preparation, headingLook, elementorVersion, diviVersion, diviPageLayout, classLead, idSeed,
      cacheCapacity] ←
    slots ["encoding", "heading_style", "elementor_version", "divi_version", "divi_page_layout",
      "utility_class_prefix", "element_id_seed", "image_cache_capacity"] r | none
  let d : Config := {}
  return {
    preparation := ← field (name Preparation.names) d.preparation preparation
    headingLook := ← field HeadingLook.decode d.headingLook headingLook
    elementorVersion := ← field str d.elementorVersion elementorVersion
    diviVersion := ← field str d.diviVersion diviVersion
    diviPageLayout := ← field str d.diviPageLayout diviPageLayout
    classLead := ← field str d.classLead classLead
    idSeed := ← field (optional word64) d.idSeed idSeed
    cacheCapacity := ← field word64 d.cacheCapacity cacheCapacity }

/-- The configuration that was read, if it can be used. -/
def ofReading (r : Json.Reading) : Except ConfigFault Config :=
  match decode r with
  | some c => c.checked
  | none => .error .malformed

/-- The configuration that a JSON text describes. -/
def ofText (text : String) : Except ConfigFault Config :=
  match Json.read? text with
  | some r => ofReading r
  | none => .error .malformed

end Config

end PageBlocks
