import PageBlocks.Cli.Folder
import PageBlocks.Convert.Converter
import PageBlocks.Json.Pretty

/-!
The command line: a page from a file or from the standard input, and the result of its conversion on
the standard output. What is done with files is left to the caller, so that the whole of a run is a
function of the arguments and the files.
-/
namespace PageBlocks.Cli

/-- What a run is asked to do. -/
structure Task where
  target : Target := .auto
  dropCss : Bool := false
  keepSections : Bool := false
  config : Option String := none
  input : Option String := none
  deriving DecidableEq

inductive Command where
  | convert (task : Task)
  | version
  | help
  | misuse
  deriving DecidableEq

/-- The options that take a value. -/
inductive Valued where
  | builder | config
  deriving DecidableEq

/-- What has been read of the arguments. -/
structure Reading where
  target : Option Target := none
  config : Option String := none
  input : Option String := none
  dropCss : Bool := false
  keepSections : Bool := false

namespace Reading

def task (r : Reading) : Task :=
  { target := r.target.getD .auto, dropCss := r.dropCss, keepSections := r.keepSections
    config := r.config, input := r.input }

/-- Give an option its value, once. -/
def setValue? (r : Reading) (option : Valued) (value : String) : Option Reading :=
  match option with
  | .builder =>
    if r.target.isSome then none
    else (Target.ofName? value).map fun target => { r with target := some target }
  | .config =>
    if r.config.isSome || value.isEmpty then none else some { r with config := some value }

/-- Give the name of the page, once. -/
def setInput? (r : Reading) (value : String) : Option Reading :=
  if r.input.isSome || value.isEmpty then none else some { r with input := some value }

end Reading

/-- What an argument is by its looks. -/
inductive Arg where
  | file (name : String)
  | separator
  | dropCss
  | keepSections
  | version
  | help
  /-- An option whose value is the next argument. -/
  | option (name : Valued)
  | optionWith (name : Valued) (value : String)
  | unknown

/-- What follows a beginning of a text. -/
def after? (lead s : String) : Option String :=
  let l := lead.toList
  if l.isPrefixOf s.toList then some (String.ofList (s.toList.drop l.length)) else none

/-- A long option with its value. -/
def withValue? (s : String) : Option Arg :=
  match after? "--builder=" s, after? "--config=" s with
  | some value, _ => some (.optionWith .builder value)
  | none, some value => some (.optionWith .config value)
  | none, none => none

def Arg.ofString (s : String) : Arg :=
  match s with
  | "-" => .file s
  | "--" => .separator
  | "--no-css" => .dropCss
  | "--no-header-footer" => .keepSections
  | "--version" => .version
  | "--help" => .help
  | "--builder" => .option .builder
  | "--config" => .option .config
  | _ =>
    match s.toList with
    | '-' :: 'V' :: _ => .version
    | '-' :: 'h' :: _ => .help
    | '-' :: _ => (withValue? s).getD .unknown
    | _ => .file s

/-- Whether an argument can be the value of the option before it. -/
def Arg.isValue : Arg → Bool
  | .file _ => true
  | _ => false

/-- Read what follows the separator: names only. -/
def readNames (r : Reading) : List String → Command
  | [] => .convert r.task
  | name :: rest =>
    match r.setInput? name with
    | some r => readNames r rest
    | none => .misuse

/-- Read arguments in order; the first mistake counts. -/
def readArgs (r : Reading) : List String → Command
  | [] => .convert r.task
  | arg :: rest =>
    match Arg.ofString arg with
    | .separator => readNames r rest
    | .dropCss => if r.dropCss then .misuse else readArgs { r with dropCss := true } rest
    | .keepSections =>
      if r.keepSections then .misuse else readArgs { r with keepSections := true } rest
    | .version => .version
    | .help => .help
    | .unknown => .misuse
    | .file name =>
      match r.setInput? name with
      | some r => readArgs r rest
      | none => .misuse
    | .optionWith name value =>
      match r.setValue? name value with
      | some r => readArgs r rest
      | none => .misuse
    | .option name =>
      match rest with
      | [] => .misuse
      | value :: rest =>
        if (Arg.ofString value).isValue then
          match r.setValue? name value with
          | some r => readArgs r rest
          | none => .misuse
        else .misuse

/-- What a list of arguments asks for. -/
def Command.ofArgs (args : List String) : Command := readArgs {} args

/-! ### Runs -/

/-- What a run leaves behind. -/
structure Outcome where
  exitCode : UInt32
  stdout : String := ""
  stderr : String := ""

def versionLine : String := "kodegen-pagebuilder 0.10.12\n"

/-- The report of a failure with its cause, whose further lines are indented like the first. -/
def report (failure cause : String) : Outcome :=
  let cause := "\n    ".intercalate (cause.splitOn "\n")
  { exitCode := 1, stderr := "Error: " ++ failure ++ "\n\nCaused by:\n    " ++ cause ++ "\n" }

/-- The options of a task. Images are left where they are. -/
def Task.options (t : Task) : Options :=
  { target := t.target, preserveCss := !t.dropCss, uploadImages := false
    extractHeaderFooter := !t.keepSections }

/-- The configuration in a file that has been read. -/
def configOf (path : String) (contents : Except String (List UInt8)) : Except ConfigFault Config :=
  match contents with
  | .error reason => .error (.unreadable path reason)
  | .ok bytes =>
    match Charset.Utf8.decode? bytes with
    | none => .error (.unreadable path "stream did not contain valid UTF-8")
    | some text => Config.ofText (String.ofList text)

/-- The conversion of a page. -/
def convert (config : Config) (entropy : UInt64) (t : Task) (bytes : List UInt8) : Outcome :=
  let page := Page.Source.ofBytes bytes none
  let converter : Converter Unit := .plain config entropy
  let (result, _) := converter.convert () page.html t.options
  { exitCode := 0, stdout := result.toJson.toPrettyText ++ "\n" }

section
variable {m : Type → Type} [Monad m]

/-- What a run can read. -/
structure Files (m : Type → Type) where
  read : String → m (Except String (List UInt8))
  stdin : m (List UInt8)

/-- The files of a folder in memory. -/
def Folder.toFiles (f : Folder) : Files Id where
  read path := (f.read path).mapError PathFault.message
  stdin := f.stdin

/-- The configuration of a task. -/
def loadConfig (files : Files m) : Option String → m (Except Outcome Config)
  | none => pure (.ok {})
  | some path => do
    match configOf path (← files.read path) with
    | .ok config => return .ok config
    | .error fault =>
      return .error (report ("Failed to load converter config from " ++ path)
        (ConversionError.config fault).message)

/-- The page of a task. -/
def loadPage (files : Files m) : Option String → m (Except Outcome (List UInt8))
  | none => do return .ok (← files.stdin)
  | some path => do
    match ← files.read path with
    | .ok bytes => return .ok bytes
    | .error reason => return .error (report ("Failed to read " ++ path) reason)

/-- Do a task: the configuration is read before the page. -/
def perform (files : Files m) (entropy : UInt64) (t : Task) : m Outcome := do
  match ← loadConfig files t.config with
  | .error outcome => return outcome
  | .ok config =>
    match ← loadPage files t.input with
    | .error outcome => return outcome
    | .ok bytes => return convert config entropy t bytes

/-- A run. -/
def run (files : Files m) (entropy : UInt64) (args : List String) : m Outcome :=
  match Command.ofArgs args with
  | .convert task => perform files entropy task
  | .version => pure { exitCode := 0, stdout := versionLine }
  | .help => pure { exitCode := 0 }
  | .misuse => pure { exitCode := 2 }

end

end PageBlocks.Cli
