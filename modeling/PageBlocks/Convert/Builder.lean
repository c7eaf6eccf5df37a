import PageBlocks.Text.Ascii
import PageBlocks.Text.Blank

/-!
Builders: the page builders for which content can be made, the names by which they are asked for, and
how the one that is active on a site is found out.
-/
namespace PageBlocks

/-- A page builder. -/
inductive Builder where
  | elementor | divi | gutenberg
  deriving DecidableEq, Inhabited

namespace Builder

def name : Builder → String
  | elementor => "elementor"
  | divi => "divi"
  | gutenberg => "gutenberg"

/-- The builder of a name, which may be padded and written in any case. -/
def ofName? (s : String) : Option Builder :=
  match Text.lower (Text.trim s) with
  | "elementor" => some elementor
  | "divi" => some divi
  | "gutenberg" => some gutenberg
  | _ => none

/-- Whether a page for this builder begins with its title and its featured image. -/
def beginsWithTitle : Builder → Bool
  | elementor | divi => true
  | gutenberg => false

end Builder

/-- A builder that is asked for, or the one that is active. -/
inductive Target where
  | auto
  | fixed (builder : Builder)
  deriving DecidableEq, Inhabited

namespace Target

def name : Target → String
  | auto => "auto"
  | fixed b => b.name

/-- The targets under their names. -/
def names : List (String × Target) :=
  [auto, fixed .elementor, fixed .divi, fixed .gutenberg].map fun t => (t.name, t)

/-- The target of a name, which may be padded and written in any case. -/
def ofName? (s : String) : Option Target :=
  if Text.sameIgnoringCase (Text.trim s) "auto" then some auto
  else (Builder.ofName? s).map fixed

/-- The builder that is asked for by name, if any. -/
def fixed? : Target → Option Builder
  | auto => none
  | fixed b => some b

/-- The builder to use where `active` has been detected. Gutenberg needs no plugin. -/
def builder (active : Option Builder) : Target → Builder
  | auto => active.getD .gutenberg
  | fixed b => b

theorem lookup_name (t : Target) : names.lookup t.name = some t := by
  match t with
  | auto | fixed .elementor | fixed .divi | fixed .gutenberg => rfl

end Target

/-- What can be seen of a site from outside. -/
structure Site where
  /-- Active plugins such as `elementor/elementor.php`. -/
  plugins : List String
  theme : Option String

namespace Site

/-- Whether a plugin is active; its directory tells. -/
def runs (s : Site) (slug : String) : Bool :=
  s.plugins.any fun plugin =>
    Text.sameIgnoringCase (String.ofList (plugin.toList.takeWhile (· != '/'))) slug

/-- The builder that is active on a site. Of two, Elementor counts. -/
def activeBuilder (s : Site) : Option Builder :=
  if s.runs "elementor" then some .elementor
  else if s.theme.any (fun theme => Text.sameIgnoringCase (Text.trim theme) "divi") ||
      s.runs "divi-builder" then some .divi
  else none

end Site

end PageBlocks
