import PageBlocks.Proofs.Json.Numbers
import PageBlocks.Proofs.Json.Strings

/-!
Reading a value back from its text. It does not matter which spellings the strings have. The fuel of
the reader never runs out when it is as large as the text: each call of it uses up a character.
-/
namespace PageBlocks.Json

open Reader

mutual

/-- What the reader makes of the text of a value. -/
def reading : Json → Reading
  | null => .null
  | bool value => .bool value
  | int value => .int value
  | real value => .real value
  | str value => .str value
  | arr items => .arr (readingItems items)
  | obj fields => .obj (readingFields fields)

def readingItems : List Json → List Reading
  | [] => []
  | item :: items => item.reading :: readingItems items

def readingFields : List (String × Json) → List (Option String × Reading)
  | [] => []
  | (key, value) :: fields => (some key, value.reading) :: readingFields fields

end

variable {spell : List Char → List Char} {rest : List Char}

/-! ### The first character of a text -/

/-- A number begins with neither a space nor the end of an array. -/
theorem numeral_head (n : Numeral) (rest : List Char) :
    ∃ c text, n.chars ++ rest = c :: text ∧ isSpace c = false ∧ c ≠ ']' := by
  obtain ⟨c, text, h, hc⟩ := n.exists_chars_eq_cons
  refine ⟨c, text ++ rest, by rw [h, List.cons_append], ?_, ?_⟩
  · rcases hc with rfl | hc
    · rfl
    · by_contra hspace
      simp only [isSpace, Bool.not_eq_false, Bool.or_eq_true, beq_iff_eq] at hspace
      rcases hspace with ((rfl | rfl) | rfl) | rfl <;> simp at hc
  · rcases hc with rfl | hc
    · decide
    · rintro rfl
      simp at hc

/-- The text of a value begins with neither a space nor the end of an array. -/
theorem chars_head (spell : List Char → List Char) (j : Json) (rest : List Char) :
    ∃ c text, j.chars spell rest = c :: text ∧ isSpace c = false ∧ c ≠ ']' := by
  match j with
  | null => exact ⟨_, _, rfl, rfl, by decide⟩
  | bool true => exact ⟨_, _, rfl, rfl, by decide⟩
  | bool false => exact ⟨_, _, rfl, rfl, by decide⟩
  | int value =>
    rw [chars, int_toList]
    exact numeral_head _ rest
  | real value => exact numeral_head value.numeral rest
  | str value => exact ⟨_, _, rfl, rfl, by decide⟩
  | arr [] => exact ⟨_, _, rfl, rfl, by decide⟩
  | arr (_ :: _) => exact ⟨_, _, rfl, rfl, by decide⟩
  | obj [] => exact ⟨_, _, rfl, rfl, by decide⟩
  | obj (_ :: _) => exact ⟨_, _, rfl, rfl, by decide⟩

theorem skipSpace_chars (j : Json) : skipSpace (j.chars spell rest) = j.chars spell rest := by
  obtain ⟨c, text, h, hspace, -⟩ := chars_head spell j rest
  simp [h, skipSpace, hspace]

theorem skipSpace_spelled (s : String) :
    skipSpace (spelled spell s rest) = spelled spell s rest := rfl

theorem skipSpace_colon : skipSpace (':' :: rest) = ':' :: rest := rfl

/-! ### What follows an item or a field -/

theorem delimited_charsItems (items : List Json) :
    Delimited (charsItems spell items (']' :: rest)) := by
  cases items with
  | nil => exact .inr (.inl rfl)
  | cons item items => exact .inl rfl

theorem delimited_charsFields (fields : Fields) :
    Delimited (charsFields spell fields ('\x7d' :: rest)) := by
  cases fields with
  | nil => exact .inr (.inr rfl)
  | cons field fields => exact .inl rfl

/-! ### Single values -/

theorem value?_digit {c : Char} (hc : c.isDigit = true) (fuel : Nat) (text : List Char) :
    value? (fuel + 1) (c :: text) = number? false (c :: text) := by
  rw [value?]
  all_goals
    rintro _ ⟨rfl, -⟩
    simp at hc

theorem value?_numeral (n : Numeral) (fuel : Nat) (hrest : Delimited rest) :
    value? (fuel + 1) (n.chars ++ rest) = some (.ofNumeral n, rest) := by
  have hnumber := number?_bareChars n hrest
  unfold Numeral.chars
  split
  · next hnegative =>
    rw [hnegative] at hnumber
    rw [List.cons_append, value?, hnumber]
  · next hnegative =>
    rw [Bool.not_eq_true] at hnegative
    obtain ⟨c, text, hdigits, hc⟩ := digits_cons n.whole
    have hhead : n.bareChars ++ rest =
        c :: (text ++ (Numeral.fractionChars n.fraction ++ Numeral.exponentChars n.exponent) ++ rest) := by
      rw [Numeral.bareChars, hdigits, List.cons_append, List.cons_append]
    rw [hhead, value?_digit hc, ← hhead, ← hnegative, hnumber]

theorem value?_int (value : Int) (fuel : Nat) (hrest : Delimited rest) :
    value? (fuel + 1) ((int value).chars spell rest) = some (.int value, rest) := by
  rw [chars, int_toList, value?_numeral _ fuel hrest, Reading.ofNumeral_ofInt]

theorem value?_real (value : NonInteger) (fuel : Nat) (hrest : Delimited rest) :
    value? (fuel + 1) ((real value).chars spell rest) = some (.real value, rest) := by
  rw [chars, value?_numeral _ fuel hrest, Reading.ofNumeral_nonInteger]

theorem value?_str (hspell : ∀ cs, Spells (spell cs) cs) (value : String) (fuel : Nat) :
    value? (fuel + 1) ((str value).chars spell rest) = some (.str value, rest) := by
  rw [chars, spelled, value?, string?_empty (hspell value.toList)]
  rfl

/-! ### Arrays and objects -/

theorem value?_arr {item : Json} {items : List Json} {fuel : Nat} {r : Option (Reading × List Char)}
    (h : items? fuel [] (item.chars spell (charsItems spell items (']' :: rest))) = r) :
    value? (fuel + 1) ((arr (item :: items)).chars spell rest) = r := by
  obtain ⟨c, text, hhead, -, hc⟩ :=
    chars_head spell item (charsItems spell items (']' :: rest))
  rw [chars, value?, skipSpace_chars]
  rw [hhead] at h ⊢
  simpa [hc] using h

theorem value?_obj {key : String} {value : Json} {fields : Fields} {fuel : Nat}
    {r : Option (Reading × List Char)}
    (h : fields? fuel [] (spelled spell key
      (':' :: value.chars spell (charsFields spell fields ('\x7d' :: rest)))) = r) :
    value? (fuel + 1) ((obj ((key, value) :: fields)).chars spell rest) = r := by
  rw [chars, value?, skipSpace_spelled]
  simpa [spelled] using h

variable {fuel : Nat} {text : List Char}

theorem items?_last {item : Json} {done : List Reading}
    (h : value? fuel (item.chars spell (']' :: rest)) = some (item.reading, ']' :: rest)) :
    items? (fuel + 1) done (item.chars spell (']' :: rest)) =
      some (.arr (done.reverse ++ [item.reading]), rest) := by
  rw [items?, skipSpace_chars, h]
  simp [skipSpace, isSpace]

theorem items?_more {item : Json} {done : List Reading}
    (h : value? fuel (item.chars spell (',' :: text)) = some (item.reading, ',' :: text)) :
    items? (fuel + 1) done (item.chars spell (',' :: text)) =
      items? fuel (item.reading :: done) text := by
  rw [items?, skipSpace_chars, h]
  simp [skipSpace, isSpace]

theorem fields?_last (hspell : ∀ cs, Spells (spell cs) cs) {key : String} {value : Json}
    {done : List (Option String × Reading)}
    (h : value? fuel (value.chars spell ('\x7d' :: rest)) = some (value.reading, '\x7d' :: rest)) :
    fields? (fuel + 1) done (spelled spell key (':' :: value.chars spell ('\x7d' :: rest))) =
      some (.obj (done.reverse ++ [(some key, value.reading)]), rest) := by
  rw [fields?, skipSpace_spelled, spelled]
  simp only [string?_empty (hspell key.toList), skipSpace_colon, skipSpace_chars, h]
  simp [skipSpace, isSpace]

theorem fields?_more (hspell : ∀ cs, Spells (spell cs) cs) {key : String} {value : Json}
    {done : List (Option String × Reading)}
    (h : value? fuel (value.chars spell (',' :: text)) = some (value.reading, ',' :: text)) :
    fields? (fuel + 1) done (spelled spell key (':' :: value.chars spell (',' :: text))) =
      fields? fuel ((some key, value.reading) :: done) text := by
  rw [fields?, skipSpace_spelled, spelled]
  simp only [string?_empty (hspell key.toList), skipSpace_colon, skipSpace_chars, h]
  simp [skipSpace, isSpace]

/-! ### All values -/

mutual

/-- A value is read back from its text, whatever spellings its strings have. -/
theorem value?_chars (hspell : ∀ cs, Spells (spell cs) cs) : ∀ (fuel : Nat) (j : Json)
    (rest : List Char), Delimited rest → (j.chars spell rest).length < fuel + rest.length →
    value? fuel (j.chars spell rest) = some (j.reading, rest)
  | 0, j, rest, _, hfuel => by
    have hlength := length_le_chars spell j rest
    omega
  | fuel + 1, null, rest, _, _ => by simp [chars, value?, word?, reading]
  | fuel + 1, bool true, rest, _, _ => by simp [chars, value?, word?, reading]
  | fuel + 1, bool false, rest, _, _ => by simp [chars, value?, word?, reading]
  | fuel + 1, int value, rest, hrest, _ => value?_int value fuel hrest
  | fuel + 1, real value, rest, hrest, _ => value?_real value fuel hrest
  | fuel + 1, str value, rest, _, _ => value?_str hspell value fuel
  | fuel + 1, arr [], rest, _, _ => by
    simp [chars, value?, skipSpace, isSpace, reading, readingItems]
  | fuel + 1, arr (item :: items), rest, _, hfuel => by
    simp only [chars, List.length_cons] at hfuel
    exact value?_arr (items?_chars hspell fuel item items [] rest (by omega))
  | fuel + 1, obj [], rest, _, _ => by
    simp [chars, value?, skipSpace, isSpace, reading, readingFields]
  | fuel + 1, obj ((key, value) :: fields), rest, _, hfuel => by
    simp only [chars, List.length_cons] at hfuel
    exact value?_obj (fields?_chars hspell fuel key value fields [] rest (by omega))

/-- The items of an array are read up to its end. -/
theorem items?_chars (hspell : ∀ cs, Spells (spell cs) cs) : ∀ (fuel : Nat) (item : Json)
    (items : List Json) (done : List Reading) (rest : List Char),
    (item.chars spell (charsItems spell items (']' :: rest))).length < fuel + rest.length →
    items? fuel done (item.chars spell (charsItems spell items (']' :: rest))) =
      some (.arr (done.reverse ++ readingItems (item :: items)), rest)
  | 0, item, items, _, rest, hfuel => by
    have hitem := length_le_chars spell item (charsItems spell items (']' :: rest))
    have hitems := length_le_charsItems spell items (']' :: rest)
    simp only [List.length_cons] at hitems
    omega
  | fuel + 1, item, items, done, rest, hfuel => by
    have hlength := length_le_chars spell item (charsItems spell items (']' :: rest))
    have hmore := length_le_charsItems spell items (']' :: rest)
    simp only [List.length_cons] at hmore
    have hitem := value?_chars hspell fuel item (charsItems spell items (']' :: rest))
      (delimited_charsItems items) (by omega)
    match items with
    | [] => exact items?_last hitem
    | next :: items =>
      simp only [charsItems, List.length_cons] at hlength hfuel
      have hitems := items?_chars hspell fuel next items (item.reading :: done) rest (by omega)
      rw [charsItems, items?_more hitem, hitems]
      simp [readingItems]

/-- The fields of an object are read up to its end. -/
theorem fields?_chars (hspell : ∀ cs, Spells (spell cs) cs) : ∀ (fuel : Nat) (key : String)
    (value : Json) (fields : Fields) (done : List (Option String × Reading)) (rest : List Char),
    (spelled spell key
      (':' :: value.chars spell (charsFields spell fields ('\x7d' :: rest)))).length <
        fuel + rest.length →
    fields? fuel done (spelled spell key
      (':' :: value.chars spell (charsFields spell fields ('\x7d' :: rest)))) =
        some (.obj (done.reverse ++ readingFields ((key, value) :: fields)), rest)
  | 0, key, value, fields, _, rest, hfuel => by
    have hkey := length_le_spelled spell key
      (':' :: value.chars spell (charsFields spell fields ('\x7d' :: rest)))
    have hvalue := length_le_chars spell value (charsFields spell fields ('\x7d' :: rest))
    have hfields := length_le_charsFields spell fields ('\x7d' :: rest)
    simp only [List.length_cons] at hkey hfields
    omega
  | fuel + 1, key, value, fields, done, rest, hfuel => by
    have hkey := length_le_spelled spell key
      (':' :: value.chars spell (charsFields spell fields ('\x7d' :: rest)))
    have hlength := length_le_chars spell value (charsFields spell fields ('\x7d' :: rest))
    have hmore := length_le_charsFields spell fields ('\x7d' :: rest)
    simp only [List.length_cons] at hkey hmore
    have hvalue := value?_chars hspell fuel value (charsFields spell fields ('\x7d' :: rest))
      (delimited_charsFields fields) (by omega)
    match fields with
    | [] => exact fields?_last hspell hvalue
    | (nextKey, nextValue) :: fields =>
      simp only [charsFields, List.length_cons] at hlength hkey hfuel
      have hfields := fields?_chars hspell fuel nextKey nextValue fields
        ((some key, value.reading) :: done) rest (by omega)
      rw [charsFields, fields?_more hspell hvalue, hfields]
      simp [readingFields]

end

/-- A text that holds nothing but a value is read. -/
theorem read?_chars (hspell : ∀ cs, Spells (spell cs) cs) (j : Json) :
    read? (String.ofList (j.chars spell [])) = some j.reading := by
  have hvalue := value?_chars hspell ((j.chars spell []).length + 1) j [] trivial (by
    simp only [List.length_nil]
    omega)
  have hspace : skipSpace [] = [] := rfl
  simp [read?, skipSpace_chars, hvalue, hspace]

end PageBlocks.Json
