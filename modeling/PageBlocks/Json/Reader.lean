import PageBlocks.Json.Value

/-!
Reading JSON text. The reader accepts exactly the grammar of JSON. What it yields keeps apart what the
grammar allows but no text can hold: strings with half of a surrogate pair.
-/
namespace PageBlocks.Json

/-- A JSON value as it was read. -/
inductive Reading where
  | null
  | bool (value : Bool)
  | int (value : Int)
  | real (value : NonInteger)
  | str (value : String)
  /-- A string with half of a surrogate pair in it. -/
  | brokenStr
  | arr (items : List Reading)
  /-- The fields in order; a key may be broken like any string. -/
  | obj (fields : List (Option String × Reading))
  deriving Inhabited

namespace Reading

mutual

/-- The value that was read, if all its strings are text, with the fields of objects in the order of
their keys. -/
def toJson? : Reading → Option Json
  | null => some .null
  | bool value => some (.bool value)
  | int value => some (.int value)
  | real value => some (.real value)
  | str value => some (.str value)
  | brokenStr => none
  | arr items => (itemsToJson? items).map .arr
  | obj fields => (fieldsToJson? fields).map sortedObj

def itemsToJson? : List Reading → Option (List Json)
  | [] => some []
  | item :: rest => do return (← item.toJson?) :: (← itemsToJson? rest)

def fieldsToJson? : List (Option String × Reading) → Option (List (String × Json))
  | [] => some []
  | (key, value) :: rest => do return (← key, ← value.toJson?) :: (← fieldsToJson? rest)

end

def ofNumeral (n : Numeral) : Reading :=
  if h : n.isInteger = false then .real ⟨n, h⟩ else .int n.toInt

end Reading

namespace Reader

def isSpace (c : Char) : Bool := c == ' ' || c == '\n' || c == '\t' || c == '\r'

def skipSpace (cs : List Char) : List Char := cs.dropWhile isSpace

/-- The number that four hexadecimal digits write. -/
def hex4? (a b c d : Char) : Option Nat := do
  let a ← Text.digitValue? 16 a
  let b ← Text.digitValue? 16 b
  let c ← Text.digitValue? 16 c
  let d ← Text.digitValue? 16 d
  return ((a * 16 + b) * 16 + c) * 16 + d

def isHighSurrogate (n : Nat) : Bool := 0xD800 ≤ n && n < 0xDC00

def isLowSurrogate (n : Nat) : Bool := 0xDC00 ≤ n && n < 0xE000

/-- What has been read of a string: its characters in reverse, and the first half of a surrogate pair
that waits for the second one. -/
structure Partial where
  chars : List Char
  isBroken : Bool
  high : Option Nat

namespace Partial

def empty : Partial := ⟨[], false, none⟩

/-- A first half that waits in vain breaks the string. -/
def settle (p : Partial) : Partial :=
  match p.high with
  | some _ => { p with isBroken := true, high := none }
  | none => p

def push (p : Partial) (c : Char) : Partial :=
  let p := p.settle
  { p with chars := c :: p.chars }

/-- Add a code unit. -/
def pushUnit (p : Partial) (n : Nat) : Partial :=
  match p.high with
  | some high =>
    if isLowSurrogate n then
      { p with
        chars := Char.ofNat (0x10000 + (high - 0xD800) * 0x400 + (n - 0xDC00)) :: p.chars
        high := none }
    else if isHighSurrogate n then { p with isBroken := true, high := some n }
    else p.push (Char.ofNat n)
  | none =>
    if isHighSurrogate n then { p with high := some n }
    else if isLowSurrogate n then { p with isBroken := true }
    else p.push (Char.ofNat n)

/-- The finished string, if it is text. -/
def text? (p : Partial) : Option String :=
  let p := p.settle
  if p.isBroken then none else some (String.ofList p.chars.reverse)

end Partial

/-- The character that a short escape stands for. -/
def unescape? : Char → Option Char
  | '"' => some '"'
  | '\\' => some '\\'
  | '/' => some '/'
  | 'b' => some '\x08'
  | 'f' => some '\x0c'
  | 'n' => some '\n'
  | 'r' => some '\r'
  | 't' => some '\t'
  | _ => none

/-- Read a string behind its opening quote. -/
def string? (p : Partial) : List Char → Option (Option String × List Char)
  | [] => none
  | '"' :: rest => some (p.text?, rest)
  | '\\' :: 'u' :: a :: b :: c :: d :: rest =>
    match hex4? a b c d with
    | some n => string? (p.pushUnit n) rest
    | none => none
  | '\\' :: c :: rest =>
    match unescape? c with
    | some c => string? (p.push c) rest
    | none => none
  | c :: rest => if c == '\\' || c.toNat < 32 then none else string? (p.push c) rest

/-- The value of a row of digits. -/
def decimal (digits : List Char) : Nat :=
  digits.foldl (fun n c => n * 10 + (c.toNat - '0'.toNat)) 0

def digitOf (c : Char) : Fin 10 := Fin.ofNat 10 (c.toNat - '0'.toNat)

/-- Read the digits of a fraction or an exponent; there must be one. -/
def someDigits? : List Char → Option (Digits × List Char)
  | c :: rest =>
    if c.isDigit then
      some (⟨digitOf c, (rest.takeWhile Char.isDigit).map digitOf⟩, rest.dropWhile Char.isDigit)
    else none
  | [] => none

def fraction? : List Char → Option (Option Digits × List Char)
  | '.' :: rest => (someDigits? rest).map fun (ds, rest) => (some ds, rest)
  | cs => some (none, cs)

/-- Read the sign of an exponent. -/
def sign : List Char → Sign × List Char
  | '+' :: rest => (.plus, rest)
  | '-' :: rest => (.minus, rest)
  | cs => (.unwritten, cs)

/-- Read an exponent behind its letter. -/
def exponentTail? (isCapital : Bool) (cs : List Char) : Option (Option Exponent × List Char) :=
  let (s, rest) := sign cs
  (someDigits? rest).map fun (ds, rest) => (some ⟨isCapital, s, ds⟩, rest)

def exponent? : List Char → Option (Option Exponent × List Char)
  | 'e' :: rest => exponentTail? false rest
  | 'E' :: rest => exponentTail? true rest
  | cs => some (none, cs)

/-- Read a number behind its minus. -/
def number? (negative : Bool) (cs : List Char) : Option (Reading × List Char) := do
  let (digits, rest) := cs.span Char.isDigit
  if digits.isEmpty || (digits.length > 1 && digits.head? == some '0') then none
  else
    let (fraction, rest) ← fraction? rest
    let (exponent, rest) ← exponent? rest
    return (.ofNumeral ⟨negative, decimal digits, fraction, exponent⟩, rest)

/-- Read a fixed word. -/
def word? (word : String) (value : Reading) (cs : List Char) : Option (Reading × List Char) :=
  let w := word.toList
  if w.isPrefixOf cs then some (value, cs.drop w.length) else none

mutual

/-- Read a value. The number bounds the nesting together with the length of the text. -/
def value? : Nat → List Char → Option (Reading × List Char)
  | 0, _ => none
  | fuel + 1, cs =>
    match cs with
    | '"' :: rest =>
      (string? .empty rest).map fun (s, rest) => ((s.map Reading.str).getD .brokenStr, rest)
    | '[' :: rest =>
      match skipSpace rest with
      | ']' :: rest => some (.arr [], rest)
      | rest => items? fuel [] rest
    | '\x7b' :: rest =>
      match skipSpace rest with
      | '\x7d' :: rest => some (.obj [], rest)
      | rest => fields? fuel [] rest
    | '-' :: rest => number? true rest
    | 't' :: _ => word? "true" (.bool true) cs
    | 'f' :: _ => word? "false" (.bool false) cs
    | 'n' :: _ => word? "null" .null cs
    | _ => number? false cs

/-- Read the items of an array behind those already read, which are kept in reverse. -/
def items? : Nat → List Reading → List Char → Option (Reading × List Char)
  | 0, _, _ => none
  | fuel + 1, done, cs =>
    match value? fuel (skipSpace cs) with
    | none => none
    | some (item, rest) =>
      match skipSpace rest with
      | ',' :: rest => items? fuel (item :: done) rest
      | ']' :: rest => some (.arr (item :: done).reverse, rest)
      | _ => none

/-- Read the fields of an object behind those already read, which are kept in reverse. -/
def fields? : Nat → List (Option String × Reading) → List Char → Option (Reading × List Char)
  | 0, _, _ => none
  | fuel + 1, done, cs =>
    match skipSpace cs with
    | '"' :: rest =>
      match string? .empty rest with
      | none => none
      | some (key, rest) =>
        match skipSpace rest with
        | ':' :: rest =>
          match value? fuel (skipSpace rest) with
          | none => none
          | some (value, rest) =>
            match skipSpace rest with
            | ',' :: rest => fields? fuel ((key, value) :: done) rest
            | '\x7d' :: rest => some (.obj ((key, value) :: done).reverse, rest)
            | _ => none
        | _ => none
    | _ => none

end

end Reader

/-- Read a text that holds one JSON value and nothing else. -/
def read? (text : String) : Option Reading :=
  let cs := text.toList
  match Reader.value? (cs.length + 1) (Reader.skipSpace cs) with
  | some (value, rest) => if (Reader.skipSpace rest).isEmpty then some value else none
  | none => none

end PageBlocks.Json
