import PageBlocks.Json.Value

/-!
The text of a value as a list of characters in front of what follows it. How the characters of a
string are written is left open: the text of a value is `chars` with the escapes of JSON, and a
text in which strings are written in another way is `chars` as well.
-/
namespace PageBlocks.Json

variable (spell : List Char → List Char)

/-- A string between its quotes. -/
def spelled (s : String) (rest : List Char) : List Char :=
  '"' :: (spell s.toList ++ '"' :: rest)

mutual

/-- The text of a value in front of `rest`. -/
def chars : Json → List Char → List Char
  | null, rest => 'n' :: 'u' :: 'l' :: 'l' :: rest
  | bool true, rest => 't' :: 'r' :: 'u' :: 'e' :: rest
  | bool false, rest => 'f' :: 'a' :: 'l' :: 's' :: 'e' :: rest
  | int value, rest => (toString value).toList ++ rest
  | real value, rest => value.numeral.chars ++ rest
  | str value, rest => spelled spell value rest
  | arr [], rest => '[' :: ']' :: rest
  | arr (item :: items), rest => '[' :: item.chars (charsItems items (']' :: rest))
  | obj [], rest => '\x7b' :: '\x7d' :: rest
  | obj ((key, value) :: fields), rest =>
    '\x7b' :: spelled spell key (':' :: value.chars (charsFields fields ('\x7d' :: rest)))

def charsItems : List Json → List Char → List Char
  | [], rest => rest
  | item :: items, rest => ',' :: item.chars (charsItems items rest)

def charsFields : List (String × Json) → List Char → List Char
  | [], rest => rest
  | (key, value) :: fields, rest =>
    ',' :: spelled spell key (':' :: value.chars (charsFields fields rest))

end

theorem spelled_append (s : String) (front rest : List Char) :
    spelled spell s front ++ rest = spelled spell s (front ++ rest) := by
  simp [spelled]

mutual

/-- The strings of a value, keys included, in the order of the text. -/
def strings : Json → List String
  | null => []
  | bool _ => []
  | int _ => []
  | real _ => []
  | str value => [value]
  | arr items => stringsItems items
  | obj fields => stringsFields fields

def stringsItems : List Json → List String
  | [] => []
  | item :: items => item.strings ++ stringsItems items

def stringsFields : List (String × Json) → List String
  | [] => []
  | (key, value) :: fields => key :: (value.strings ++ stringsFields fields)

end

/-! ### The compact text -/

/-- The characters of a string in JSON, without its quotes. -/
def escape (cs : List Char) : List Char := cs.flatMap escapeChar

theorem quote_toList (s : String) : (quote s).toList = spelled escape s [] := by
  simp [quote, spelled, escape]

mutual

theorem write_append (j : Json) (acc : String) (rest : List Char) :
    (j.write acc).toList ++ rest = acc.toList ++ j.chars escape rest := by
  match j with
  | null => simp [write, chars]
  | bool true => simp [write, chars]
  | bool false => simp [write, chars]
  | int value => simp [write, chars]
  | real value => simp [write, chars]
  | str value => simp [write, chars, quote_toList, spelled_append]
  | arr [] => simp [write, chars]
  | arr (item :: items) =>
    have hitems := writeItems_append items (item.write (acc ++ "[")) (']' :: rest)
    have hitem := write_append item (acc ++ "[") (charsItems escape items (']' :: rest))
    simpa [write, chars] using hitems.trans hitem
  | obj [] => simp [write, chars]
  | obj ((key, value) :: fields) =>
    have hfields := writeFields_append fields
      (value.write (acc ++ "\x7b" ++ quote key ++ ":")) ('\x7d' :: rest)
    have hvalue := write_append value (acc ++ "\x7b" ++ quote key ++ ":")
      (charsFields escape fields ('\x7d' :: rest))
    simpa [write, chars, quote_toList, spelled_append] using hfields.trans hvalue

theorem writeItems_append (items : List Json) (acc : String) (rest : List Char) :
    (writeItems acc items).toList ++ rest = acc.toList ++ charsItems escape items rest := by
  match items with
  | [] => simp [writeItems, charsItems]
  | item :: items =>
    have hitems := writeItems_append items (item.write (acc ++ ",")) rest
    have hitem := write_append item (acc ++ ",") (charsItems escape items rest)
    simpa [writeItems, charsItems] using hitems.trans hitem

theorem writeFields_append (fields : Fields) (acc : String) (rest : List Char) :
    (writeFields acc fields).toList ++ rest = acc.toList ++ charsFields escape fields rest := by
  match fields with
  | [] => simp [writeFields, charsFields]
  | (key, value) :: fields =>
    have hfields := writeFields_append fields (value.write (acc ++ "," ++ quote key ++ ":")) rest
    have hvalue := write_append value (acc ++ "," ++ quote key ++ ":")
      (charsFields escape fields rest)
    simpa [writeFields, charsFields, quote_toList, spelled_append] using hfields.trans hvalue

end

/-- The compact text is the text with the escapes of JSON. -/
theorem toText_toList (j : Json) : j.toText.toList = j.chars escape [] := by
  have h := write_append j "" []
  simpa [toText] using h

/-! ### What follows a text stays behind it -/

theorem length_le_spelled (s : String) (rest : List Char) :
    rest.length + 2 ≤ (spelled spell s rest).length := by
  simp only [spelled, List.length_cons, List.length_append]
  omega

mutual

theorem length_le_chars (j : Json) (rest : List Char) :
    rest.length ≤ (j.chars spell rest).length := by
  match j with
  | null => simp [chars]; omega
  | bool true => simp [chars]; omega
  | bool false => simp [chars]; omega
  | int value => simp [chars]
  | real value => simp [chars]
  | str value =>
    have h := length_le_spelled spell value rest
    simp only [chars]
    omega
  | arr [] => simp [chars]; omega
  | arr (item :: items) =>
    have hitems := length_le_charsItems items (']' :: rest)
    have hitem := length_le_chars item (charsItems spell items (']' :: rest))
    simp only [chars, List.length_cons] at hitems ⊢
    omega
  | obj [] => simp [chars]; omega
  | obj ((key, value) :: fields) =>
    have hfields := length_le_charsFields fields ('\x7d' :: rest)
    have hvalue := length_le_chars value (charsFields spell fields ('\x7d' :: rest))
    have hkey := length_le_spelled spell key
      (':' :: value.chars spell (charsFields spell fields ('\x7d' :: rest)))
    simp only [chars, List.length_cons] at hfields hkey ⊢
    omega

theorem length_le_charsItems (items : List Json) (rest : List Char) :
    rest.length ≤ (charsItems spell items rest).length := by
  match items with
  | [] => simp [charsItems]
  | item :: items =>
    have hitems := length_le_charsItems items rest
    have hitem := length_le_chars item (charsItems spell items rest)
    simp only [charsItems, List.length_cons]
    omega

theorem length_le_charsFields (fields : Fields) (rest : List Char) :
    rest.length ≤ (charsFields spell fields rest).length := by
  match fields with
  | [] => simp [charsFields]
  | (key, value) :: fields =>
    have hfields := length_le_charsFields fields rest
    have hvalue := length_le_chars value (charsFields spell fields rest)
    have hkey := length_le_spelled spell key
      (':' :: value.chars spell (charsFields spell fields rest))
    simp only [charsFields, List.length_cons] at hkey ⊢
    omega

end

end PageBlocks.Json
