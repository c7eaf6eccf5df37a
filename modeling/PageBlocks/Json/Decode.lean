import PageBlocks.Json.Reader

/-!
Taking values out of JSON. A record is read from an object, in which unknown fields do not count and
a known field must not stand twice, or from an array of its fields in order, which may end early.
-/
namespace PageBlocks.Json

/-- How a value of a type is taken out of JSON. -/
abbrev Decoder (α : Type) := Reading → Option α

namespace Decoder

def bool : Decoder Bool
  | .bool value => some value
  | _ => none

def str : Decoder String
  | .str value => some value
  | _ => none

/-- Integers of 64 bits without sign. -/
def word64 : Decoder UInt64
  | .int value => if 0 ≤ value ∧ value < 18446744073709551616 then some (UInt64.ofNat value.toNat) else none
  | _ => none

/-- Null stands for an absent value. -/
def optional {α : Type} (decode : Decoder α) : Decoder (Option α)
  | .null => some none
  | r => (decode r).map some

/-- One of several names, written as a string or as the only field of an object that is null. -/
def name {α : Type} (names : List (String × α)) : Decoder α
  | .str value => names.lookup value
  | .obj [(some key, .null)] => names.lookup key
  | _ => none

/-- A list of values. -/
def list {α : Type} (decode : Decoder α) : Decoder (List α)
  | .arr items => items.mapM decode
  | _ => none

/-- The fields of a record, in the order of `names`. -/
def slots (names : List String) : Reading → Option (List (Option Reading))
  | .obj fields =>
    let keys := fields.map (·.1)
    if keys.contains none || names.any fun name => 1 < keys.count (some name) then none
    else some (names.map fun name => fields.lookup (some name))
  | .arr items =>
    if items.length ≤ names.length then some ((List.range names.length).map fun i => items[i]?)
    else none
  | _ => none

/-- A field with a default. -/
def field {α : Type} (decode : Decoder α) (default : α) : Option Reading → Option α
  | none => some default
  | some r => decode r

/-- A field that must be there. -/
def required {α : Type} (decode : Decoder α) : Option Reading → Option α
  | none => none
  | some r => decode r

end Decoder

end PageBlocks.Json
