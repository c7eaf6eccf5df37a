import PageBlocks.Json.Value

/-!
The indented text of a JSON value: each item and each field on a line of its own, two spaces for each
level of nesting.
-/
namespace PageBlocks.Json

/-- A line break followed by the indentation of a level. -/
def newline (level : Nat) : String := String.ofList ('\n' :: List.replicate (2 * level) ' ')

mutual

/-- Append the indented text of a value that stands at a level. -/
def writePretty (level : Nat) (acc : String) : Json → String
  | arr [] => acc ++ "[]"
  | arr (item :: rest) =>
    let acc := item.writePretty (level + 1) (acc ++ "[" ++ newline (level + 1))
    writePrettyItems level acc rest ++ newline level ++ "]"
  | obj [] => acc ++ "\x7b\x7d"
  | obj ((key, value) :: rest) =>
    let acc := value.writePretty (level + 1)
      (acc ++ "\x7b" ++ newline (level + 1) ++ quote key ++ ": ")
    writePrettyFields level acc rest ++ newline level ++ "\x7d"
  | scalar => scalar.write acc

def writePrettyItems (level : Nat) (acc : String) : List Json → String
  | [] => acc
  | item :: rest =>
    writePrettyItems level (item.writePretty (level + 1) (acc ++ "," ++ newline (level + 1))) rest

def writePrettyFields (level : Nat) (acc : String) : List (String × Json) → String
  | [] => acc
  | (key, value) :: rest =>
    writePrettyFields level
      (value.writePretty (level + 1) (acc ++ "," ++ newline (level + 1) ++ quote key ++ ": ")) rest

end

/-- The indented text of a value. -/
def toPrettyText (j : Json) : String := j.writePretty 0 ""

end PageBlocks.Json
