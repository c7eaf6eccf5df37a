/-!
Attributes of an element. They are kept in the order of their names: first the vocabulary, then the
local name by code points. No name occurs twice in a list that is built by `ofList` and `set`.
-/
namespace PageBlocks.Markup

/-- The vocabulary of an attribute name, in the order in which vocabularies sort. -/
inductive AttrSpace where
  | plain | xlink | xmlns | xml
  deriving DecidableEq, Inhabited

def AttrSpace.rank : AttrSpace → Nat
  | .plain => 0
  | .xlink => 1
  | .xmlns => 2
  | .xml => 3

structure AttrName where
  space : AttrSpace
  name : String
  deriving DecidableEq, Inhabited

namespace AttrName

/-- An attribute name of HTML itself. -/
def plain (name : String) : AttrName := ⟨.plain, name⟩

/-- Whether `a` sorts before `b`. -/
def precedes (a b : AttrName) : Bool :=
  a.space.rank < b.space.rank || (a.space == b.space && decide (a.name < b.name))

/-- The name as it is written in a start tag. -/
def written : AttrName → String
  | ⟨.plain, name⟩ => name
  | ⟨.xlink, name⟩ => "xlink:" ++ name
  | ⟨.xmlns, name⟩ => if name == "xmlns" then name else "xmlns:" ++ name
  | ⟨.xml, name⟩ => "xml:" ++ name

end AttrName

structure Attribute where
  name : AttrName
  value : String
  deriving DecidableEq, Inhabited

abbrev Attributes := List Attribute

namespace Attributes

/-- The value under a name. -/
def find? (name : AttrName) : Attributes → Option String
  | [] => none
  | a :: rest => if a.name = name then some a.value else find? name rest

/-- The value of an attribute of HTML itself. -/
def get? (attrs : Attributes) (name : String) : Option String := attrs.find? (.plain name)

/-- Write a value under a name: in place if the name is there, else at its sorted place. -/
def insert (name : AttrName) (value : String) : Attributes → Attributes
  | [] => [⟨name, value⟩]
  | a :: rest =>
    if a.name = name then ⟨name, value⟩ :: rest
    else if name.precedes a.name then ⟨name, value⟩ :: a :: rest
    else a :: insert name value rest

/-- Give an attribute of HTML itself a value. -/
def set (attrs : Attributes) (name value : String) : Attributes := attrs.insert (.plain name) value

/-- Add those of `more` whose names are missing. -/
def addMissing (attrs more : Attributes) : Attributes :=
  more.foldl (fun acc a => if (acc.find? a.name).isSome then acc else acc.insert a.name a.value) attrs

/-- The attributes in order; of equal names the first one counts. -/
def ofList (attrs : List Attribute) : Attributes := addMissing [] attrs

theorem find?_insert (name : AttrName) (value : String) (attrs : Attributes) :
    (attrs.insert name value).find? name = some value := by
  induction attrs with
  | nil => simp [insert, find?]
  | cons a rest ih =>
    unfold insert
    split
    · simp [find?]
    · split
      · simp [find?]
      · rename_i hne _
        simp [find?, hne, ih]

theorem find?_insert_of_ne {name other : AttrName} (h : other ≠ name) (value : String)
    (attrs : Attributes) : (attrs.insert name value).find? other = attrs.find? other := by
  induction attrs with
  | nil => simp [insert, find?, h.symm]
  | cons a rest ih =>
    unfold insert
    split
    · rename_i heq
      simp [find?, heq, h.symm]
    · split
      · simp [find?, h.symm]
      · simp [find?, ih]

theorem get?_set (attrs : Attributes) (name value : String) :
    (attrs.set name value).get? name = some value := find?_insert ..

end Attributes

end PageBlocks.Markup
