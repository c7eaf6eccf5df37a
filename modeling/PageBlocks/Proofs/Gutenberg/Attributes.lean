import PageBlocks.Proofs.Gutenberg.Guard
import PageBlocks.Proofs.Json.Sorted

/-!
Reading the attributes of a block back from its comment. The exchanges keep every string spelled, since
each of them puts in a number that spells what it takes away. Only the quote that ends a string can be
lost: where the string ends in a backslash, its text ends in two of them, and the second one is taken
together with the quote.
-/
namespace PageBlocks.Gutenberg

open Json

/-! ### Strings -/

theorem head?_of_spells {text cs : List Char} (h : Spells text cs) : text.head? ≠ some '"' := by
  cases h with
  | nil => simp
  | plain hc h => simpa using hc.1
  | short hc h => simp
  | numbered hn hwhole h => simp

theorem spells_charGuard {c : Char} (hc : IsPlain c) {text cs : List Char} (h : Spells text cs) :
    Spells (charGuard c ++ text) (c :: cs) := by
  unfold charGuard
  split
  · next he =>
    subst he
    exact .numbered rfl ⟨rfl, rfl⟩ h
  · split
    · next he =>
      subst he
      exact .numbered rfl ⟨rfl, rfl⟩ h
    · split
      · next he =>
        subst he
        exact .numbered rfl ⟨rfl, rfl⟩ h
      · exact .plain hc h

theorem unguarded_of_hex {c : Char} {n : Nat} (h : Text.digitValue? 16 c = some n) : Unguarded c := by
  intro hmem
  simp only [List.mem_cons, List.not_mem_nil, or_false] at hmem
  rcases hmem with rfl | rfl | rfl | rfl | rfl <;> simp [Text.digitValue?] at h

/-- A letter behind a backslash is a quote, a backslash, or no concern of the exchanges. -/
theorem unescape?_cases {e c : Char} (h : Reader.unescape? e = some c) :
    (e = '"' ∧ c = '"') ∨ e = '\\' ∨ (Unguarded e ∧ e ≠ '"') := by
  unfold Reader.unescape? at h
  split at h
  · exact .inl ⟨rfl, (Option.some.inj h).symm⟩
  · exact .inr (.inl rfl)
  all_goals first | exact .inr (.inr (by decide)) | simp at h

theorem spells_guardChars_short {e c : Char} (hc : Reader.unescape? e = some c)
    {text cs : List Char} (h : Spells text cs) (hguarded : Spells (guardChars text) cs) :
    Spells (guardChars ('\\' :: e :: text)) (c :: cs) := by
  rcases unescape?_cases hc with ⟨rfl, rfl⟩ | rfl | ⟨he, hquote⟩
  · have hpair : pairGuard? '\\' '"' = some "\\u0022".toList := rfl
    rw [guardChars_pair hpair]
    exact .numbered rfl ⟨rfl, rfl⟩ hguarded
  · rw [guardChars_backslash (by simp), guardChars_backslash (head?_of_spells h)]
    exact .short hc hguarded
  · rw [guardChars_backslash (by simpa using hquote), guardChars_unguarded he]
    exact .short hc hguarded

/-- A hyphen may be taken together with the next character; this is the claim for both cases. -/
theorem spells_guardChars_aux {text cs : List Char} (h : Spells text cs) :
    Spells (guardChars text) cs ∧ Spells (guardChars ('-' :: text)) ('-' :: cs) := by
  have hhyphen : IsPlain '-' := by simp [IsPlain]
  induction h with
  | nil => exact ⟨.nil, .plain hhyphen .nil⟩
  | @plain c text cs hc h ih =>
    have hcons : Spells (guardChars (c :: text)) (c :: cs) := by
      by_cases he : c = '-'
      · rw [he]
        exact ih.2
      · have hnone : ∀ d, text.head? = some d → pairGuard? c d = none := fun d _ =>
          pairGuard?_eq_none (fun h => absurd h he) (fun h => absurd h hc.2.1)
        rw [guardChars_cons hnone]
        exact spells_charGuard hc ih.1
    refine ⟨hcons, ?_⟩
    by_cases he : c = '-'
    · subst he
      have hpair : pairGuard? '-' '-' = some "\\u002d\\u002d".toList := rfl
      rw [guardChars_pair hpair]
      exact .numbered rfl ⟨rfl, rfl⟩ (.numbered rfl ⟨rfl, rfl⟩ ih.1)
    · rw [guardChars_hyphen (by simpa using he)]
      exact .plain hhyphen hcons
  | @short e c text cs hc h ih =>
    have hcons := spells_guardChars_short hc h ih.1
    refine ⟨hcons, ?_⟩
    rw [guardChars_hyphen (by simp)]
    exact .plain hhyphen hcons
  | @numbered a b c d n text cs hn hwhole h ih =>
    have hdigits : ∀ x ∈ ['u', a, b, c, d], Unguarded x := by
      intro x hx
      rcases List.mem_cons.mp hx with rfl | hx
      · decide
      · obtain ⟨m, hm⟩ := digit_of_hex4? hn hx
        exact unguarded_of_hex hm
    have hcons :
        Spells (guardChars ('\\' :: 'u' :: a :: b :: c :: d :: text)) (Char.ofNat n :: cs) := by
      have happend := guardChars_append hdigits text
      simp only [List.cons_append, List.nil_append] at happend
      rw [guardChars_backslash (by simp), happend]
      exact .numbered hn hwhole ih.1
    refine ⟨hcons, ?_⟩
    rw [guardChars_hyphen (by simp)]
    exact .plain hhyphen hcons

theorem spells_guardChars {text cs : List Char} (h : Spells text cs) : Spells (guardChars text) cs :=
  (spells_guardChars_aux h).1

/-! ### Values -/

theorem getLast?_escapeChar (c : Char) : (escapeChar c).getLast? = some '\\' ↔ c = '\\' := by
  unfold escapeChar
  split
  case h_8 =>
    split
    · next hback _ _ _ _ _ _ =>
      have hdigit : Unguarded (Text.hexDigit (c.toNat % 16)) :=
        unguarded_of_hex (Text.digitValue?_hexDigit (Nat.mod_lt _ (by omega)))
      have hne : Text.hexDigit (c.toNat % 16) ≠ '\\' := fun he => by simp [he, Unguarded] at hdigit
      simpa [hexDigits_four, hne] using hback
    · simp
  all_goals simp

/-- The escapes of a string end in a backslash just where the string does. -/
theorem getLast?_escape (cs : List Char) :
    (escape cs).getLast? = some '\\' ↔ cs.getLast? = some '\\' := by
  rcases List.eq_nil_or_concat' cs with rfl | ⟨front, c, rfl⟩
  · rfl
  · have hlast : (escapeChar c).getLast? ≠ none := by
      unfold escapeChar
      split <;> try simp
      split <;> simp
    have happend : escape (front ++ [c]) = escape front ++ escapeChar c := by simp [escape]
    rw [happend, List.getLast?_append, List.getLast?_concat, Option.some.injEq, ← getLast?_escapeChar]
    cases h : (escapeChar c).getLast? with
    | none => exact absurd h hlast
    | some d => rfl

theorem unguarded_of_isDigit {c : Char} (h : c.isDigit = true) : Unguarded c := by
  intro hmem
  simp only [List.mem_cons, List.not_mem_nil, or_false] at hmem
  rcases hmem with rfl | rfl | rfl | rfl | rfl <;> simp at h

theorem guardChars_hyphen_digit {cs : List Char} (h : ∃ c ∈ cs.head?, c.isDigit = true) :
    guardChars ('-' :: cs) = '-' :: guardChars cs := by
  refine guardChars_hyphen fun he => ?_
  obtain ⟨c, hc, hdigit⟩ := h
  rw [Option.mem_def, he, Option.some_inj] at hc
  subst hc
  cases hdigit

theorem guardChars_digits (ds : Digits) (rest : List Char) :
    guardChars (ds.chars ++ rest) = ds.chars ++ guardChars rest :=
  guardChars_append (fun _ hc => unguarded_of_isDigit (isDigit_of_mem_chars hc)) rest

theorem guardChars_exponent (e : Exponent) (rest : List Char) :
    guardChars (e.chars ++ rest) = e.chars ++ guardChars rest := by
  obtain ⟨isCapital, s, ds⟩ := e
  have hletter : Unguarded (if isCapital then 'E' else 'e') := by cases isCapital <;> decide
  have hdigit : ∃ c ∈ (ds.chars ++ rest).head?, c.isDigit = true :=
    ⟨_, rfl, isDigit_digitChar ds.first⟩
  simp only [Exponent.chars, List.cons_append, List.append_assoc]
  rw [guardChars_unguarded hletter]
  cases s with
  | unwritten => rw [Sign.chars, List.nil_append, List.nil_append, guardChars_digits]
  | plus =>
    rw [Sign.chars, List.singleton_append, List.singleton_append, guardChars_unguarded (by decide),
      guardChars_digits]
  | minus =>
    rw [Sign.chars, List.singleton_append, List.singleton_append, guardChars_hyphen_digit hdigit,
      guardChars_digits]

/-- No exchange touches a number: each of its hyphens has a digit behind it. -/
theorem guardChars_numeral (n : Numeral) (rest : List Char) :
    guardChars (n.chars ++ rest) = n.chars ++ guardChars rest := by
  have hexponent : guardChars (Numeral.exponentChars n.exponent ++ rest) =
      Numeral.exponentChars n.exponent ++ guardChars rest := by
    cases n.exponent with
    | none => rfl
    | some e => exact guardChars_exponent e rest
  have hfraction (rest : List Char) : guardChars (Numeral.fractionChars n.fraction ++ rest) =
      Numeral.fractionChars n.fraction ++ guardChars rest := by
    cases n.fraction with
    | none => rfl
    | some ds =>
      rw [Numeral.fractionChars, List.cons_append, guardChars_unguarded (by decide), guardChars_digits,
        List.cons_append]
  have hbare : guardChars (n.bareChars ++ rest) = n.bareChars ++ guardChars rest := by
    rw [Numeral.bareChars, List.append_assoc, List.append_assoc,
      guardChars_append (fun _ hc => unguarded_of_isDigit (isDigit_of_mem_digits hc)), hfraction, hexponent,
      List.append_assoc, List.append_assoc]
  unfold Numeral.chars
  split
  · obtain ⟨c, text, hdigits, hc⟩ := digits_cons n.whole
    have hdigit : ∃ c ∈ (n.bareChars ++ rest).head?, c.isDigit = true := by
      rw [Numeral.bareChars, hdigits]
      exact ⟨c, rfl, hc⟩
    rw [List.cons_append, guardChars_hyphen_digit hdigit, hbare, List.cons_append]
  · exact hbare

/-- The spelling of a string in the comment of a block. -/
def guardedSpelling (cs : List Char) : List Char := guardChars (escape cs)

theorem guardChars_spelled {s : String} (h : s.toList.getLast? ≠ some '\\') (rest : List Char) :
    guardChars (spelled escape s rest) = spelled guardedSpelling s (guardChars rest) := by
  have hlast : (escape s.toList).getLast? ≠ some '\\' := fun he => h ((getLast?_escape _).mp he)
  rw [spelled, guardChars_unguarded (by decide), guardChars_append_quote hlast]
  rfl

mutual

/-- The exchanges respect a value in which no string ends in a backslash. -/
theorem guardChars_chars (j : Json) (h : ∀ s ∈ j.strings, s.toList.getLast? ≠ some '\\')
    (rest : List Char) :
    guardChars (j.chars escape rest) = j.chars guardedSpelling (guardChars rest) := by
  match j with
  | .null => simp (disch := decide) only [chars, guardChars_unguarded]
  | .bool true => simp (disch := decide) only [chars, guardChars_unguarded]
  | .bool false => simp (disch := decide) only [chars, guardChars_unguarded]
  | .int value =>
    rw [chars, chars, int_toList]
    exact guardChars_numeral _ rest
  | .real value => exact guardChars_numeral value.numeral rest
  | .str value => exact guardChars_spelled (h value List.mem_cons_self) rest
  | .arr [] => simp (disch := decide) only [chars, guardChars_unguarded]
  | .arr (item :: items) =>
    have hitem := guardChars_chars item fun s hs => h s (List.mem_append_left _ hs)
    have hitems := guardChars_charsItems items fun s hs => h s (List.mem_append_right _ hs)
    rw [chars, chars, guardChars_unguarded (by decide), hitem, hitems,
      guardChars_unguarded (by decide)]
  | .obj [] => simp (disch := decide) only [chars, guardChars_unguarded]
  | .obj ((key, value) :: fields) =>
    have hkey := guardChars_spelled (h key List.mem_cons_self)
    have hvalue := guardChars_chars value fun s hs =>
      h s (List.mem_cons_of_mem key (List.mem_append_left _ hs))
    have hfields := guardChars_charsFields fields fun s hs =>
      h s (List.mem_cons_of_mem key (List.mem_append_right _ hs))
    rw [chars, chars, guardChars_unguarded (by decide), hkey, guardChars_unguarded (by decide),
      hvalue, hfields, guardChars_unguarded (by decide)]

theorem guardChars_charsItems (items : List Json)
    (h : ∀ s ∈ stringsItems items, s.toList.getLast? ≠ some '\\') (rest : List Char) :
    guardChars (charsItems escape items rest) = charsItems guardedSpelling items (guardChars rest) := by
  match items with
  | [] => rfl
  | item :: items =>
    have hitem := guardChars_chars item fun s hs => h s (List.mem_append_left _ hs)
    have hitems := guardChars_charsItems items fun s hs => h s (List.mem_append_right _ hs)
    rw [charsItems, charsItems, guardChars_unguarded (by decide), hitem, hitems]

theorem guardChars_charsFields (fields : Fields)
    (h : ∀ s ∈ stringsFields fields, s.toList.getLast? ≠ some '\\') (rest : List Char) :
    guardChars (charsFields escape fields rest) =
      charsFields guardedSpelling fields (guardChars rest) := by
  match fields with
  | [] => rfl
  | (key, value) :: fields =>
    have hkey := guardChars_spelled (h key List.mem_cons_self)
    have hvalue := guardChars_chars value fun s hs =>
      h s (List.mem_cons_of_mem key (List.mem_append_left _ hs))
    have hfields := guardChars_charsFields fields fun s hs =>
      h s (List.mem_cons_of_mem key (List.mem_append_right _ hs))
    rw [charsFields, charsFields, guardChars_unguarded (by decide), hkey,
      guardChars_unguarded (by decide), hvalue, hfields]

end

theorem attrsText_toList (attrs : Fields) :
    (attrsText attrs).toList = guardChars ((Json.obj attrs).chars escape []) := by
  rw [attrsText, guarded_eq, toText_toList, String.toList_ofList]

/-- Attributes are read where no key and no string in them ends in a backslash. -/
theorem read?_attrsText {attrs : Fields}
    (h : ∀ s ∈ (Json.obj attrs).strings, s.toList.getLast? ≠ some '\\') :
    read? (attrsText attrs) = some (Json.obj attrs).reading := by
  have hspell (cs : List Char) : Spells (guardedSpelling cs) cs :=
    spells_guardChars (spells_escape cs)
  have htext : attrsText attrs = String.ofList ((Json.obj attrs).chars guardedSpelling []) := by
    rw [← String.ofList_toList (s := attrsText attrs), attrsText_toList, guardChars_chars _ h]
    rfl
  rw [htext, read?_chars hspell]

end PageBlocks.Gutenberg
