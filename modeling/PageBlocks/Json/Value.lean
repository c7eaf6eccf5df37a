import PageBlocks.Json.Numeral
import PageBlocks.Text.Ascii

/-!
JSON values and their compact text. Objects keep the order of their fields; `Fields.insert` keeps
fields in the order of their keys.
-/
namespace PageBlocks

inductive Json where
  | null
  | bool (value : Bool)
  | int (value : Int)
  | real (value : Json.NonInteger)
  | str (value : String)
  | arr (items : List Json)
  | obj (fields : List (String × Json))
  deriving Inhabited

namespace Json

/-- The fields of an object. -/
abbrev Fields := List (String × Json)

/-- Write a field: in place if the key is there, else at its sorted place. -/
def Fields.insert (key : String) (value : Json) : Fields → Fields
  | [] => [(key, value)]
  | (k, v) :: rest =>
    if k = key then (key, value) :: rest
    else if key < k then (key, value) :: (k, v) :: rest
    else (k, v) :: Fields.insert key value rest

/-- Fields in the order of their keys; of equal keys the last one counts. -/
def Fields.sorted (fields : Fields) : Fields :=
  fields.foldl (fun acc (key, value) => acc.insert key value) []

/-- An object with its fields in the order of their keys. -/
def sortedObj (fields : Fields) : Json := .obj fields.sorted

def nat (n : Nat) : Json := .int n

/-- A string, or null in its absence. -/
def optStr : Option String → Json
  | some s => .str s
  | none => .null

/-- A word of 64 bits without sign. -/
def word (w : UInt64) : Json := .nat w.toNat

/-- A word, or null in its absence. -/
def optWord : Option UInt64 → Json
  | some w => .word w
  | none => .null

/-- How a character of a string is written. -/
def escapeChar (c : Char) : List Char :=
  match c with
  | '"' => ['\\', '"']
  | '\\' => ['\\', '\\']
  | '\n' => ['\\', 'n']
  | '\r' => ['\\', 'r']
  | '\t' => ['\\', 't']
  | '\x08' => ['\\', 'b']
  | '\x0c' => ['\\', 'f']
  | c => if c.toNat < 32 then '\\' :: 'u' :: Text.hexDigits 4 c.toNat else [c]

def quote (s : String) : String := "\"" ++ String.ofList (s.toList.flatMap escapeChar) ++ "\""

mutual

/-- Append the compact text of a value. -/
def write (acc : String) : Json → String
  | null => acc ++ "null"
  | bool value => acc ++ if value then "true" else "false"
  | int value => acc ++ toString value
  | real value => acc ++ String.ofList value.numeral.chars
  | str value => acc ++ quote value
  | arr [] => acc ++ "[]"
  | arr (item :: rest) => writeItems (item.write (acc ++ "[")) rest ++ "]"
  | obj [] => acc ++ "\x7b\x7d"
  | obj ((key, value) :: rest) =>
    writeFields (value.write (acc ++ "\x7b" ++ quote key ++ ":")) rest ++ "\x7d"

/-- Append the further items of an array. -/
def writeItems (acc : String) : List Json → String
  | [] => acc
  | item :: rest => writeItems (item.write (acc ++ ",")) rest

/-- Append the further fields of an object. -/
def writeFields (acc : String) : List (String × Json) → String
  | [] => acc
  | (key, value) :: rest => writeFields (value.write (acc ++ "," ++ quote key ++ ":")) rest

end

/-- The compact text of a value. -/
def toText (j : Json) : String := j.write ""

end Json

end PageBlocks
