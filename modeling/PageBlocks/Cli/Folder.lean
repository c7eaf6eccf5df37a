/-!
Files in memory, and how paths lead to them. A path is followed name by name from the folder in which a
run takes place, or from the root of the system if it begins with a slash. Of what is outside the folder
only the top of the system is known, with the devices for nothing and for the standard input.
-/
namespace PageBlocks.Cli

/-- Why a file cannot be read. -/
inductive PathFault where
  | missing
  | notFolder
  | isFolder
  | nameTooLong
  deriving DecidableEq

/-- How the system calls the fault, with its number. -/
def PathFault.message : PathFault → String
  | .missing => "No such file or directory (os error 2)"
  | .notFolder => "Not a directory (os error 20)"
  | .isFolder => "Is a directory (os error 21)"
  | .nameTooLong => "File name too long (os error 36)"

/-- Where a path has led so far: the names behind the beginning, the last one first. -/
inductive Whereabouts where
  /-- In the folder, or in a folder below it. -/
  | inside (names : List String)
  /-- In the system outside the folder. -/
  | system (names : List String)
  /-- Above the folder, at a place without a name. -/
  | above

structure Folder where
  /-- Names with contents. The name of a file in a folder below has slashes. -/
  files : List (String × List UInt8)
  stdin : List UInt8

namespace Folder

/-- The names of a path. -/
def namesOf (path : String) : List String := path.splitOn "/"

/-- What is found under a name. -/
inductive Finding where
  | file (contents : List UInt8)
  | folder
  | nothing

/-- What is in the folder under some names. -/
def find (f : Folder) (names : List String) : Finding :=
  match f.files.find? fun file => namesOf file.1 == names with
  | some (_, contents) => .file contents
  | none =>
    if f.files.any fun file => names.isPrefixOf (namesOf file.1) then .folder else .nothing

/-- The folders at the root of the system. -/
def systemFolders : List String :=
  ["bin", "dev", "etc", "home", "lib", "opt", "proc", "root", "run", "sys", "tmp", "usr", "var"]

/-- What is in the system under some names. -/
def findSystem (f : Folder) (names : List String) : Finding :=
  match names with
  | ["dev", "null"] => .file []
  | ["dev", "stdin"] => .file f.stdin
  | [name] => if systemFolders.contains name then .folder else .nothing
  | _ => .nothing

/-- The folder above. -/
def parent : Whereabouts → Whereabouts
  | .inside [] => .above
  | .inside (_ :: names) => .inside names
  | .system names => .system names.tail
  | .above => .above

/-- Where a name leads, and what is there. -/
def enter (f : Folder) (place : Whereabouts) (name : String) : Whereabouts × Finding :=
  match place with
  | .inside names => (.inside (name :: names), f.find (name :: names).reverse)
  | .system names => (.system (name :: names), f.findSystem (name :: names).reverse)
  | .above => (.above, .nothing)

/-- A name has at most so many bytes. -/
def longestName : Nat := 255

/-- A path has at most so many bytes. -/
def longestPath : Nat := 4095

/-- Follow names from a place. -/
def follow (f : Folder) (place : Whereabouts) : List String → Except PathFault (List UInt8)
  | [] => .error .isFolder
  | name :: rest =>
    if name = "" || name = "." then f.follow place rest
    else if name = ".." then f.follow (parent place) rest
    else if longestName < name.utf8ByteSize then .error .nameTooLong
    else
      match f.enter place name with
      | (next, .folder) => f.follow next rest
      | (_, .file contents) => if rest.isEmpty then .ok contents else .error .notFolder
      | (_, .nothing) => .error .missing

/-- The file to which a path leads. -/
def read (f : Folder) (path : String) : Except PathFault (List UInt8) :=
  if longestPath < path.utf8ByteSize then .error .nameTooLong
  else if path = "" then .error .missing
  else f.follow (if path.toList.head? = some '/' then .system [] else .inside []) (namesOf path)

end Folder

end PageBlocks.Cli
