import PageBlocks.Proofs.Gutenberg.Attributes
import PageBlocks.Proofs.Json.Quotes

/-!
Which attributes can be read back. A string that ends in a backslash loses the quote that closes it,
and no other exchange takes or adds a quote that is not escaped. The guarded text is quiet, so its
quotes count the strings that are read from it; these are too few as soon as one quote is lost.
-/
namespace PageBlocks.Gutenberg

open Json

/-! ### Guarded texts are quiet -/

theorem head?_guardChars {cs : List Char} (h : (guardChars cs).head? = some '"') :
    cs.head? = some '"' := by
  induction cs using guard_induction with
  | hnil => exact h
  | hpair c d text rest hcd ih =>
    rw [guardChars_pair hcd] at h
    rcases pairGuard?_eq_some hcd with ⟨rfl, rfl, rfl⟩ | ⟨rfl, rfl, rfl⟩ <;> simp at h
  | hcons c rest hc ih =>
    rw [guardChars_cons hc] at h
    unfold charGuard at h
    split at h
    · simp at h
    · split at h
      · simp at h
      · split at h
        · simp at h
        · exact h

theorem quiet_guardChars (cs : List Char) : Quiet (guardChars cs) := by
  induction cs using guard_induction with
  | hnil => exact .nil
  | hpair c d text rest hcd ih =>
    rw [guardChars_pair hcd]
    rcases pairGuard?_eq_some hcd with ⟨rfl, rfl, rfl⟩ | ⟨rfl, rfl, rfl⟩
    · simpa [quiet_cons] using ih
    · simpa [quiet_cons] using ih
  | hcons c rest hc ih =>
    rw [guardChars_cons hc]
    unfold charGuard
    split
    · simpa [quiet_cons] using ih
    · split
      · simpa [quiet_cons] using ih
      · split
        · simpa [quiet_cons] using ih
        · refine .cons (fun hback hquote => ?_) ih
          have hpair := hc '"' (head?_guardChars hquote)
          rw [hback] at hpair
          exact absurd hpair (by decide)

theorem quote_notMem_of_spells {text cs : List Char} (h : Spells text cs) (hquiet : Quiet text) :
    '"' ∉ text := by
  induction h with
  | nil => exact List.not_mem_nil
  | plain hc h ih =>
    simp only [List.mem_cons, not_or]
    exact ⟨fun he => hc.1 he.symm, ih (quiet_cons.mp hquiet).2⟩
  | short hc h ih =>
    obtain ⟨hnext, htext⟩ := quiet_cons.mp hquiet
    have hne := hnext rfl
    simp only [List.head?_cons, ne_eq, Option.some.injEq] at hne
    simp only [List.mem_cons, not_or]
    exact ⟨by decide, fun he => hne he.symm, ih (quiet_cons.mp htext).2⟩
  | @numbered a b c d _ _ _ hn hwhole h ih =>
    have hfront := Reader.quote_notMem_of_hex4? hn
    have hrest := ih (Quiet.of_append ['\\', 'u', a, b, c, d] hquiet)
    simp only [List.mem_cons, not_or, List.not_mem_nil, not_false_eq_true, and_true] at hfront ⊢
    tauto

theorem count_guardedSpelling (cs : List Char) : (guardedSpelling cs).count '"' = 0 :=
  List.count_eq_zero_of_not_mem
    (quote_notMem_of_spells (spells_guardChars (spells_escape cs)) (quiet_guardChars _))

/-! ### Quotes that are left -/

/-- A string whose closing quote is lost. -/
def losesQuote (s : String) : Bool := s.toList.getLast? == some '\\'

theorem guardChars_losesQuote {s : String} (h : losesQuote s = true) (rest : List Char) :
    ∃ text, '"' ∉ text ∧
      guardChars (spelled escape s rest) = '"' :: (text ++ guardChars rest) := by
  obtain ⟨front, hfront⟩ := List.getLast?_eq_some_iff.mp (beq_iff_eq.mp h)
  have hsplit : spelled escape s rest =
      '"' :: (escape front ++ '\\' :: '\\' :: '"' :: rest) := by
    simp [spelled, hfront, escape, escapeChar]
  have hpair : pairGuard? '\\' '"' = some "\\u0022".toList := rfl
  have hjoint : ∀ c d, (escape front).getLast? = some c →
      ('\\' :: '\\' :: '"' :: rest).head? = some d → pairGuard? c d = none := by
    intro c d _ hd
    obtain rfl := Option.some.inj hd
    exact pairGuard?_eq_none (fun _ => by decide) (fun _ => by decide)
  refine ⟨guardedSpelling front ++ '\\' :: "\\u0022".toList, ?_, ?_⟩
  · have hcount := List.count_eq_zero.mp (count_guardedSpelling front)
    simp [hcount]
  · rw [hsplit, guardChars_unguarded (by decide), guardChars_append_joint hjoint,
      guardChars_backslash (by simp), guardChars_pair hpair]
    simp [guardedSpelling]

/-- Of the two quotes around a string, the first one is always left. -/
theorem count_spelled (s : String) (rest : List Char) :
    (guardChars (spelled escape s rest)).count '"' + (if losesQuote s then 1 else 0) =
      2 + (guardChars rest).count '"' := by
  split
  · next h =>
    obtain ⟨text, htext, heq⟩ := guardChars_losesQuote h rest
    rw [heq, List.count_cons_self, List.count_append, List.count_eq_zero_of_not_mem htext]
    omega
  · next h =>
    have hlast : s.toList.getLast? ≠ some '\\' := by simpa [losesQuote] using h
    rw [guardChars_spelled hlast, spelled, List.count_cons_self, List.count_append,
      count_guardedSpelling, List.count_cons_self]
    omega

theorem count_numeral (n : Numeral) (rest : List Char) :
    (guardChars (n.chars ++ rest)).count '"' = (guardChars rest).count '"' := by
  have hquote : '"' ∉ n.chars := fun hmem => by simpa using Numeral.isDigit_or_mem_of_mem_chars hmem
  rw [guardChars_numeral, List.count_append, List.count_eq_zero_of_not_mem hquote, Nat.zero_add]

theorem count_guardChars_cons {c : Char} (hc : Unguarded c) (hquote : c ≠ '"') (rest : List Char) :
    (guardChars (c :: rest)).count '"' = (guardChars rest).count '"' := by
  rw [guardChars_unguarded hc, List.count_cons_of_ne hquote]

mutual

/-- Each string that ends in a backslash takes one quote away. -/
theorem count_chars (j : Json) (rest : List Char) :
    (guardChars (j.chars escape rest)).count '"' + j.strings.countP losesQuote =
      2 * j.strings.length + (guardChars rest).count '"' := by
  match j with
  | .null => simp (disch := decide) [chars, strings, count_guardChars_cons]
  | .bool true => simp (disch := decide) [chars, strings, count_guardChars_cons]
  | .bool false => simp (disch := decide) [chars, strings, count_guardChars_cons]
  | .int value =>
    rw [chars, int_toList, count_numeral]
    simp [strings]
  | .real value =>
    rw [chars, count_numeral]
    simp [strings]
  | .str value =>
    have h := count_spelled value rest
    simpa [chars, strings, List.countP_cons] using h
  | .arr [] => simp (disch := decide) [chars, strings, stringsItems, count_guardChars_cons]
  | .arr (item :: items) =>
    have hitem := count_chars item (charsItems escape items (']' :: rest))
    have hitems := count_charsItems items (']' :: rest)
    rw [chars, count_guardChars_cons (by decide) (by decide)]
    rw [count_guardChars_cons (by decide) (by decide)] at hitems
    simp only [strings, stringsItems, List.countP_append, List.length_append]
    omega
  | .obj [] => simp (disch := decide) [chars, strings, stringsFields, count_guardChars_cons]
  | .obj ((key, value) :: fields) =>
    have hkey := count_spelled key
      (':' :: value.chars escape (charsFields escape fields ('\x7d' :: rest)))
    have hvalue := count_chars value (charsFields escape fields ('\x7d' :: rest))
    have hfields := count_charsFields fields ('\x7d' :: rest)
    rw [chars, count_guardChars_cons (by decide) (by decide)]
    rw [count_guardChars_cons (by decide) (by decide)] at hkey hfields
    simp only [strings, stringsFields, List.countP_cons, List.countP_append, List.length_cons,
      List.length_append]
    omega

theorem count_charsItems (items : List Json) (rest : List Char) :
    (guardChars (charsItems escape items rest)).count '"' + (stringsItems items).countP losesQuote =
      2 * (stringsItems items).length + (guardChars rest).count '"' := by
  match items with
  | [] => simp [charsItems, stringsItems]
  | item :: items =>
    have hitem := count_chars item (charsItems escape items rest)
    have hitems := count_charsItems items rest
    rw [charsItems, count_guardChars_cons (by decide) (by decide)]
    simp only [stringsItems, List.countP_append, List.length_append]
    omega

theorem count_charsFields (fields : Fields) (rest : List Char) :
    (guardChars (charsFields escape fields rest)).count '"' +
        (stringsFields fields).countP losesQuote =
      2 * (stringsFields fields).length + (guardChars rest).count '"' := by
  match fields with
  | [] => simp [charsFields, stringsFields]
  | (key, value) :: fields =>
    have hkey := count_spelled key (':' :: value.chars escape (charsFields escape fields rest))
    have hvalue := count_chars value (charsFields escape fields rest)
    have hfields := count_charsFields fields rest
    rw [charsFields, count_guardChars_cons (by decide) (by decide)]
    rw [count_guardChars_cons (by decide) (by decide)] at hkey
    simp only [stringsFields, List.countP_cons, List.countP_append, List.length_cons,
      List.length_append]
    omega

end

/-! ### Attributes -/

/-- Where the attributes come back, no string has lost its quote. -/
theorem getLast?_of_read? {attrs : Fields}
    (h : (read? (attrsText attrs)).bind Reading.toJson? = some (.obj attrs)) :
    ∀ s ∈ (Json.obj attrs).strings, s.toList.getLast? ≠ some '\\' := by
  intro s hs hlast
  obtain ⟨r, hread, hvalue⟩ := Option.bind_eq_some_iff.mp h
  have hquiet : Quiet (attrsText attrs).toList := by
    rw [attrsText_toList]
    exact quiet_guardChars _
  have hread := Reader.count_of_read? (attrsText attrs) hquiet hread
  have hfewer := strings_le_of_toJson? r hvalue
  have hcount := count_chars (.obj attrs) []
  have hlost : 0 < (Json.obj attrs).strings.countP losesQuote :=
    List.countP_pos_iff.mpr ⟨s, hs, beq_iff_eq.mpr hlast⟩
  have hnil : (guardChars []).count '"' = 0 := rfl
  rw [← attrsText_toList, hread, hnil] at hcount
  omega

/-- Attributes, with their fields in the order of the keys, come back from the comment just where no
key and no string in them, at any depth, ends in a backslash. -/
theorem attrs_come_back_iff {attrs : Fields} (hsorted : (Json.obj attrs).Sorted) :
    (read? (attrsText attrs)).bind Reading.toJson? = some (.obj attrs) ↔
      ∀ s ∈ (Json.obj attrs).strings, s.toList.getLast? ≠ some '\\' := by
  constructor
  · exact fun h => getLast?_of_read? h
  intro h
  rw [read?_attrsText h, Option.bind_some, toJson?_reading _ hsorted]

theorem attrs_come_back_iff_of_hyphens :
    (Json.obj [("anchor", .str "\\a--->"), ("level", .nat 2)]).Sorted ∧
      (read? (attrsText [("anchor", .str "\\a--->"), ("level", .nat 2)])).bind Reading.toJson? =
        some (.obj [("anchor", .str "\\a--->"), ("level", .nat 2)]) := by
  have hlt : "anchor" < "level" := by decide
  have hsorted : (Json.obj [("anchor", .str "\\a--->"), ("level", .nat 2)]).Sorted :=
    ⟨List.pairwise_pair.mpr hlt, trivial, trivial, trivial⟩
  have hstrings : ∀ s ∈ (Json.obj [("anchor", .str "\\a--->"), ("level", .nat 2)]).strings,
      s.toList.getLast? ≠ some '\\' := by
    simp [strings, stringsFields, Json.nat]
  exact ⟨hsorted, (attrs_come_back_iff hsorted).mpr hstrings⟩

/-- A class that ends in a backslash: the text is not JSON any more. -/
theorem attrs_lost_behind_backslash :
    (Json.obj [("className", .str "a\\")]).Sorted ∧
      (read? (attrsText [("className", .str "a\\")])).bind Reading.toJson? ≠
        some (.obj [("className", .str "a\\")]) := by
  have hread : (read? (attrsText [("className", .str "a\\")])).isNone = true := by decide +kernel
  have hsorted : (Json.obj [("className", .str "a\\")]).Sorted :=
    ⟨List.pairwise_singleton _ _, trivial, trivial⟩
  rw [Option.isNone_iff_eq_none.mp hread]
  exact ⟨hsorted, by simp⟩

/-! ### The blocks of a page -/

theorem sorted_simple {name html : String} {fields : Fields}
    (h : ∀ field ∈ fields, field.2.Sorted) :
    (Json.obj (Block.simple name fields html).attrs).Sorted :=
  ⟨Fields.ascending_sorted fields,
    (sortedFields_iff _).mpr fun field hf => h field (Fields.mem_sorted hf)⟩

/-- Every block of a page has its attributes in order. -/
theorem sorted_blockOf (b : PageBlocks.Block Image.Placed) :
    (Json.obj (blockOf b).attrs).Sorted := by
  cases b with
  | heading level text anchor => apply sorted_simple; cases anchor <;> simp [Sorted, Json.nat]
  | image i => apply sorted_simple; cases i.attachmentId <;> simp [Sorted, Json.word, Json.nat]
  | captured kind html => cases kind <;> exact sorted_simple (by simp [Sorted])
  | embed markup => exact sorted_simple (by simp)
  | plainText value => exact sorted_simple (by simp)

/-- What the attributes of a block take over from the page. -/
def takenOver : PageBlocks.Block Image.Placed → List String
  | .heading _ _ anchor => anchor.toList
  | .captured .paragraph html => [html.classes]
  | _ => []

/-- All other strings in the attributes of a block. -/
def ownStrings : List String :=
  ["level", "anchor", "id", "sizeSlug", "full", "linkDestination", "none", "className", "ordered"]

theorem mem_strings_simple (name html : String) {fields : Fields} (h : (fields.map (·.1)).Nodup)
    {s : String} :
    s ∈ (Json.obj (Block.simple name fields html).attrs).strings ↔ s ∈ stringsFields fields :=
  mem_stringsFields_sorted h

theorem mem_strings_blockOf (b : PageBlocks.Block Image.Placed) {s : String} :
    (s ∈ takenOver b → s ∈ (Json.obj (blockOf b).attrs).strings) ∧
      (s ∈ (Json.obj (blockOf b).attrs).strings → s ∈ takenOver b ∨ s ∈ ownStrings) := by
  cases b with
  | heading level text anchor =>
    rw [blockOf, headingBlock, mem_strings_simple _ _ (by cases anchor <;> simp)]
    cases anchor <;> simp [takenOver, ownStrings, strings, stringsFields, Json.nat] <;> tauto
  | image i =>
    rw [blockOf, imageBlock, mem_strings_simple _ _ (by cases i.attachmentId <;> simp)]
    cases i.attachmentId <;>
      simp [takenOver, ownStrings, strings, stringsFields, Json.word, Json.nat] <;>
      tauto
  | captured kind html =>
    cases kind <;>
      rw [blockOf, capturedBlock, mem_strings_simple _ _ (by simp)] <;>
      simp [takenOver, ownStrings, strings, stringsFields] <;>
      tauto
  | embed markup => simp [takenOver, blockOf, mem_strings_simple, stringsFields]
  | plainText value => simp [takenOver, blockOf, mem_strings_simple, stringsFields]

/-- A block of a page loses its attributes just where its anchor or its classes end in a backslash. -/
theorem blockOf_attrs_iff (b : PageBlocks.Block Image.Placed) :
    (read? (attrsText (blockOf b).attrs)).bind Reading.toJson? = some (.obj (blockOf b).attrs) ↔
      ∀ s ∈ takenOver b, s.toList.getLast? ≠ some '\\' := by
  constructor
  · intro h s hs
    exact getLast?_of_read? h s ((mem_strings_blockOf b).1 hs)
  · intro h
    have hown : ∀ s ∈ ownStrings, s.toList.getLast? ≠ some '\\' := by decide
    have hall : ∀ s ∈ (Json.obj (blockOf b).attrs).strings, s.toList.getLast? ≠ some '\\' := by
      intro s hs
      rcases (mem_strings_blockOf b).2 hs with hs | hs
      · exact h s hs
      · exact hown s hs
    rw [read?_attrsText hall, Option.bind_some, toJson?_reading _ (sorted_blockOf b)]

end PageBlocks.Gutenberg
