/-!
Addresses. An address has a scheme, and behind it an authority, a path, a query and a fragment, each
in the form in which it is written. The path of an address that cannot have other addresses below it
is a plain text; any other path is empty or begins with a slash.
-/
namespace PageBlocks

/-- Who is asked: a host, as whom, and at which of its ports. -/
structure Url.Authority where
  user : List Char
  password : List Char
  host : List Char
  /-- The number behind the host, unless it is the usual one of the scheme. -/
  portNumber : Option Nat
  deriving DecidableEq, Inhabited

inductive Url.Path where
  | plain (text : List Char)
  | rooted (text : List Char)
  deriving DecidableEq, Inhabited

structure Url where
  scheme : List Char
  authority : Option Url.Authority
  path : Url.Path
  query : Option (List Char)
  fragment : Option (List Char)
  deriving DecidableEq, Inhabited

namespace Url

/-- How the scheme of an address is read. -/
inductive SchemeKind where
  | file
  /-- A well-known scheme: its addresses have hosts and may be written with backslashes. -/
  | special
  | other
  deriving DecidableEq

/-- The well-known schemes with their usual ports. -/
def usualPorts : List (List Char × Nat) :=
  [("http".toList, 80), ("https".toList, 443), ("ws".toList, 80), ("wss".toList, 443),
    ("ftp".toList, 21)]

def kindOf (scheme : List Char) : SchemeKind :=
  if scheme = "file".toList then .file
  else if (usualPorts.lookup scheme).isSome then .special
  else .other

def kind (u : Url) : SchemeKind := kindOf u.scheme

namespace Authority

/-- An authority without a host. -/
def empty : Authority := ⟨[], [], [], none⟩

def hasUser (a : Authority) : Bool := !a.user.isEmpty || !a.password.isEmpty

def written (a : Authority) : List Char :=
  let password := if a.password.isEmpty then [] else ':' :: a.password
  let user := if a.hasUser then a.user ++ password ++ ['@'] else []
  let number := match a.portNumber with
    | some n => ':' :: (toString n).toList
    | none => []
  '/' :: '/' :: user ++ a.host ++ number

end Authority

namespace Path

def isPlain : Path → Bool
  | plain _ => true
  | rooted _ => false

def written : Path → List Char
  | plain text => text
  | rooted text => text

end Path

/-- The path of an address, kept from looking like an authority. -/
def writtenPath (u : Url) : List Char :=
  match u.authority, u.path with
  | none, .rooted ('/' :: '/' :: _) => '/' :: '.' :: u.path.written
  | _, _ => u.path.written

/-- A part behind its mark, if it is there. -/
def marked (mark : Char) : Option (List Char) → List Char
  | some text => mark :: text
  | none => []

def written (u : Url) : List Char :=
  u.scheme ++ ':' :: (u.authority.map Authority.written).getD [] ++ u.writtenPath ++
    marked '?' u.query ++ marked '#' u.fragment

def toString (u : Url) : String := String.ofList u.written

end Url

end PageBlocks
