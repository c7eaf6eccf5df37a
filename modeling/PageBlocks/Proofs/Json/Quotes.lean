import Mathlib.Data.List.TakeDrop
import PageBlocks.Json.Reader
import PageBlocks.Proofs.Json.Strings

/-!
Quotes and strings. In a quiet text, one that has no escaped quote, the reader uses two quotes for each
string that it finds and no other quote at all. So the number of quotes in a quiet text says how many
strings there are in the value that is read from it.
-/
namespace PageBlocks.Json

/-- No quote follows a backslash. -/
inductive Quiet : List Char → Prop where
  | nil : Quiet []
  | cons {c : Char} {rest : List Char} (hnext : c = '\\' → rest.head? ≠ some '"')
      (hrest : Quiet rest) : Quiet (c :: rest)

theorem quiet_cons {c : Char} {rest : List Char} :
    Quiet (c :: rest) ↔ (c = '\\' → rest.head? ≠ some '"') ∧ Quiet rest := by
  constructor
  · rintro (_ | ⟨hnext, hrest⟩)
    exact ⟨hnext, hrest⟩
  · rintro ⟨hnext, hrest⟩
    exact .cons hnext hrest

theorem Quiet.of_append (front : List Char) {rest : List Char} (h : Quiet (front ++ rest)) :
    Quiet rest := by
  induction front with
  | nil => exact h
  | cons c front ih => exact ih (quiet_cons.mp h).2

/-- What the reader leaves of a text: an end of it, with so many quotes less. -/
structure Leaves (used : Nat) (cs rest : List Char) : Prop where
  suffix : rest <:+ cs
  count : cs.count '"' = rest.count '"' + used

namespace Leaves

variable {m n : Nat} {cs mid rest : List Char}

theorem refl (cs : List Char) : Leaves 0 cs cs := ⟨List.suffix_rfl, rfl⟩

theorem trans (hfirst : Leaves m cs mid) (hsecond : Leaves n mid rest) : Leaves (m + n) cs rest := by
  refine ⟨hsecond.suffix.trans hfirst.suffix, ?_⟩
  rw [hfirst.count, hsecond.count]
  omega

theorem other {c : Char} (hc : c ≠ '"') (h : Leaves n cs rest) : Leaves n (c :: cs) rest := by
  refine ⟨h.suffix.trans (List.suffix_cons c cs), ?_⟩
  rw [List.count_cons_of_ne hc, h.count]

theorem append {front : List Char} (hfront : '"' ∉ front) (h : Leaves n cs rest) :
    Leaves n (front ++ cs) rest := by
  refine ⟨h.suffix.trans (List.suffix_append front cs), ?_⟩
  rw [List.count_append, List.count_eq_zero_of_not_mem hfront, h.count, Nat.zero_add]

theorem quote (h : Leaves n cs rest) : Leaves (n + 1) ('"' :: cs) rest := by
  refine ⟨h.suffix.trans (List.suffix_cons '"' cs), ?_⟩
  rw [List.count_cons_self, h.count]
  omega

theorem quiet (h : Leaves n cs rest) (hquiet : Quiet cs) : Quiet rest := by
  obtain ⟨front, rfl⟩ := h.suffix
  exact hquiet.of_append front

theorem dropWhile {p : Char → Bool} (hp : p '"' = false) (cs : List Char) :
    Leaves 0 cs (cs.dropWhile p) := by
  induction cs with
  | nil => exact refl []
  | cons c cs ih =>
    rw [List.dropWhile_cons]
    split
    · next hc =>
      have hne : c ≠ '"' := by
        rintro rfl
        simp [hp] at hc
      exact ih.other hne
    · exact refl _

end Leaves

namespace Reader

theorem skipSpace_leaves (cs : List Char) : Leaves 0 cs (skipSpace cs) := Leaves.dropWhile rfl cs

/-- The sign behind spaces. -/
theorem leaves_sign {c : Char} {cs text : List Char} (hc : c ≠ '"') (h : skipSpace cs = c :: text) :
    Leaves 0 cs text := by
  have hspace := skipSpace_leaves cs
  rw [h] at hspace
  exact hspace.trans ((Leaves.refl text).other hc)

/-! ### Numbers and words -/

theorem someDigits?_leaves {cs rest : List Char} {ds : Digits} (h : someDigits? cs = some (ds, rest)) :
    Leaves 0 cs rest := by
  unfold someDigits? at h
  split at h
  · next c text =>
    split at h
    · next hc =>
      have hne : c ≠ '"' := by
        rintro rfl
        simp at hc
      obtain ⟨-, rfl⟩ := Prod.mk.inj (Option.some.inj h)
      exact (Leaves.dropWhile rfl text).other hne
    · simp at h
  · simp at h

theorem fraction?_leaves {cs rest : List Char} {f : Option Digits}
    (h : fraction? cs = some (f, rest)) : Leaves 0 cs rest := by
  unfold fraction? at h
  split at h
  · obtain ⟨⟨ds, text⟩, htext, heq⟩ := Option.map_eq_some_iff.mp h
    obtain ⟨-, rfl⟩ := Prod.mk.inj heq
    exact (someDigits?_leaves htext).other (by decide)
  · obtain ⟨-, rfl⟩ := Prod.mk.inj (Option.some.inj h)
    exact Leaves.refl _

theorem sign_leaves (cs : List Char) : Leaves 0 cs (sign cs).2 := by
  unfold sign
  split
  · exact (Leaves.refl _).other (by decide)
  · exact (Leaves.refl _).other (by decide)
  · exact Leaves.refl _

theorem exponentTail?_leaves {isCapital : Bool} {cs rest : List Char} {e : Option Exponent}
    (h : exponentTail? isCapital cs = some (e, rest)) : Leaves 0 cs rest := by
  obtain ⟨⟨ds, text⟩, htext, heq⟩ := Option.map_eq_some_iff.mp h
  obtain ⟨-, rfl⟩ := Prod.mk.inj heq
  exact (sign_leaves cs).trans (someDigits?_leaves htext)

theorem exponent?_leaves {cs rest : List Char} {e : Option Exponent}
    (h : exponent? cs = some (e, rest)) : Leaves 0 cs rest := by
  unfold exponent? at h
  split at h
  · exact (exponentTail?_leaves h).other (by decide)
  · exact (exponentTail?_leaves h).other (by decide)
  · obtain ⟨-, rfl⟩ := Prod.mk.inj (Option.some.inj h)
    exact Leaves.refl _

end Reader

namespace Reading

mutual

/-- The number of strings that were read, keys included. -/
def strings : Reading → Nat
  | null => 0
  | bool _ => 0
  | int _ => 0
  | real _ => 0
  | str _ => 1
  | brokenStr => 1
  | arr items => stringsItems items
  | obj fields => stringsFields fields

def stringsItems : List Reading → Nat
  | [] => 0
  | item :: items => item.strings + stringsItems items

def stringsFields : List (Option String × Reading) → Nat
  | [] => 0
  | (_, value) :: fields => 1 + value.strings + stringsFields fields

end

theorem stringsItems_append (front items : List Reading) :
    stringsItems (front ++ items) = stringsItems front + stringsItems items := by
  induction front with
  | nil => simp [stringsItems]
  | cons item front ih =>
    simp only [List.cons_append, stringsItems, ih]
    omega

theorem stringsItems_reverse (items : List Reading) :
    stringsItems items.reverse = stringsItems items := by
  induction items with
  | nil => rfl
  | cons item items ih =>
    simp only [List.reverse_cons, stringsItems_append, ih, stringsItems]
    omega

theorem stringsFields_append (front fields : List (Option String × Reading)) :
    stringsFields (front ++ fields) = stringsFields front + stringsFields fields := by
  induction front with
  | nil => simp [stringsFields]
  | cons field front ih =>
    simp only [List.cons_append, stringsFields, ih]
    omega

theorem stringsFields_reverse (fields : List (Option String × Reading)) :
    stringsFields fields.reverse = stringsFields fields := by
  induction fields with
  | nil => rfl
  | cons field fields ih =>
    simp only [List.reverse_cons, stringsFields_append, ih, stringsFields]
    omega

end Reading

namespace Reader

theorem strings_ofNumeral (n : Numeral) : (Reading.ofNumeral n).strings = 0 := by
  unfold Reading.ofNumeral
  split <;> rfl

theorem number?_leaves {negative : Bool} {cs rest : List Char} {r : Reading}
    (h : number? negative cs = some (r, rest)) : Leaves (2 * r.strings) cs rest := by
  rw [number?, List.span_eq_takeWhile_dropWhile] at h
  simp only at h
  split at h
  · simp at h
  · simp only [Option.bind_eq_bind, Option.bind_eq_some_iff] at h
    obtain ⟨⟨fraction, afterFraction⟩, hfraction, ⟨exponent, last⟩, hexponent, h⟩ := h
    have hdigits : Leaves 0 cs (cs.dropWhile Char.isDigit) := Leaves.dropWhile rfl cs
    have hleaves := (hdigits.trans (fraction?_leaves hfraction)).trans (exponent?_leaves hexponent)
    obtain ⟨rfl, rfl⟩ := Prod.mk.inj (Option.some.inj h)
    rw [strings_ofNumeral]
    exact hleaves

theorem word?_leaves {word : String} {value r : Reading} {cs rest : List Char}
    (hword : '"' ∉ word.toList) (hvalue : value.strings = 0)
    (h : word? word value cs = some (r, rest)) : Leaves (2 * r.strings) cs rest := by
  simp only [word?] at h
  split at h
  · next hprefix =>
    obtain ⟨tail, rfl⟩ := List.isPrefixOf_iff_prefix.mp hprefix
    obtain ⟨rfl, rfl⟩ := Prod.mk.inj (Option.some.inj h)
    rw [List.drop_left, hvalue]
    exact ⟨List.suffix_append _ _, by simp [List.count_append, List.count_eq_zero_of_not_mem hword]⟩
  · simp at h

/-! ### Strings and values -/

theorem quote_notMem_of_hex4? {a b c d : Char} {n : Nat} (h : hex4? a b c d = some n) :
    '"' ∉ ['\\', 'u', a, b, c, d] := by
  intro hmem
  have hdigits : '"' ∈ [a, b, c, d] := by simpa using hmem
  obtain ⟨m, hm⟩ := digit_of_hex4? h hdigits
  simp [Text.digitValue?] at hm

/-- Behind the quote that opens a string, the reader uses the quote that closes it. -/
theorem string?_leaves {p : Partial} {cs rest : List Char} {s : Option String} (hquiet : Quiet cs)
    (h : string? p cs = some (s, rest)) : Leaves 1 cs rest := by
  fun_induction string? p cs with
  | case1 => simp at h
  | case2 p cs =>
    obtain ⟨-, rfl⟩ := Prod.mk.inj (Option.some.inj h)
    exact (Leaves.refl _).quote
  | case3 p a b c d cs n hn ih =>
    have hcs : Quiet cs := Quiet.of_append ['\\', 'u', a, b, c, d] hquiet
    exact (ih hcs h).append (quote_notMem_of_hex4? hn)
  | case4 => simp at h
  | case5 p e cs _ c he ih =>
    obtain ⟨hnext, htext⟩ := quiet_cons.mp hquiet
    have hquote : e ≠ '"' := by simpa using hnext rfl
    exact ((ih (quiet_cons.mp htext).2 h).other hquote).other (by decide)
  | case6 => simp at h
  | case7 => simp at h
  | case8 p c cs hquote _ _ _ ih => exact (ih (quiet_cons.mp hquiet).2 h).other hquote

mutual

/-- In a quiet text a value uses two quotes for each string that it holds. -/
theorem value?_leaves : ∀ (fuel : Nat) {cs rest : List Char} {r : Reading}, Quiet cs →
    value? fuel cs = some (r, rest) → Leaves (2 * r.strings) cs rest
  | 0, cs, rest, r, _, h => by simp [value?] at h
  | fuel + 1, cs, rest, r, hquiet, h => by
    unfold value? at h
    split at h
    · obtain ⟨⟨s, text⟩, hs, heq⟩ := Option.map_eq_some_iff.mp h
      obtain ⟨rfl, rfl⟩ := Prod.mk.inj heq
      have hone : ((s.map Reading.str).getD .brokenStr).strings = 1 := by cases s <;> rfl
      rw [hone]
      exact (string?_leaves (quiet_cons.mp hquiet).2 hs).quote
    · split at h
      · next hsign =>
        obtain ⟨rfl, rfl⟩ := Prod.mk.inj (Option.some.inj h)
        exact (leaves_sign (by decide) hsign).other (by decide)
      · have htext := (skipSpace_leaves _).quiet (quiet_cons.mp hquiet).2
        obtain ⟨n, hn, hitems⟩ := items?_leaves fuel htext h
        rw [hn, Reading.stringsItems, Nat.zero_add]
        simpa using ((skipSpace_leaves _).trans hitems).other (by decide)
    · split at h
      · next hsign =>
        obtain ⟨rfl, rfl⟩ := Prod.mk.inj (Option.some.inj h)
        exact (leaves_sign (by decide) hsign).other (by decide)
      · have htext := (skipSpace_leaves _).quiet (quiet_cons.mp hquiet).2
        obtain ⟨n, hn, hfields⟩ := fields?_leaves fuel htext h
        rw [hn, Reading.stringsFields, Nat.zero_add]
        simpa using ((skipSpace_leaves _).trans hfields).other (by decide)
    · exact (number?_leaves h).other (by decide)
    · exact word?_leaves (by decide) rfl h
    · exact word?_leaves (by decide) rfl h
    · exact word?_leaves (by decide) rfl h
    · exact number?_leaves h

theorem items?_leaves : ∀ (fuel : Nat) {done : List Reading} {cs rest : List Char} {r : Reading},
    Quiet cs → items? fuel done cs = some (r, rest) →
    ∃ n, r.strings = Reading.stringsItems done + n ∧ Leaves (2 * n) cs rest
  | 0, done, cs, rest, r, _, h => by simp [items?] at h
  | fuel + 1, done, cs, rest, r, hquiet, h => by
    unfold items? at h
    split at h
    · simp at h
    · next item text hitem =>
      have hspace := skipSpace_leaves cs
      have huse := hspace.trans (value?_leaves fuel (hspace.quiet hquiet) hitem)
      split at h
      · next more hsign =>
        have hmore := huse.trans (leaves_sign (by decide) hsign)
        obtain ⟨n, hn, hitems⟩ := items?_leaves fuel (hmore.quiet hquiet) h
        refine ⟨item.strings + n, ?_, ?_⟩
        · rw [hn, Reading.stringsItems]
          omega
        · convert hmore.trans hitems using 1
          omega
      · next more hsign =>
        obtain ⟨rfl, rfl⟩ := Prod.mk.inj (Option.some.inj h)
        refine ⟨item.strings, ?_, ?_⟩
        · rw [Reading.strings, Reading.stringsItems_reverse, Reading.stringsItems]
          omega
        · simpa using huse.trans (leaves_sign (by decide) hsign)
      · simp at h

theorem fields?_leaves : ∀ (fuel : Nat) {done : List (Option String × Reading)}
    {cs rest : List Char} {r : Reading}, Quiet cs → fields? fuel done cs = some (r, rest) →
    ∃ n, r.strings = Reading.stringsFields done + n ∧ Leaves (2 * n) cs rest
  | 0, done, cs, rest, r, _, h => by simp [fields?] at h
  | fuel + 1, done, cs, rest, r, hquiet, h => by
    unfold fields? at h
    split at h
    · next text hopen =>
      have hspace := skipSpace_leaves cs
      rw [hopen] at hspace
      split at h
      · simp at h
      · next key afterKey hkey =>
        have htext := (quiet_cons.mp (hspace.quiet hquiet)).2
        have hafterKey := hspace.trans (string?_leaves htext hkey).quote
        split at h
        · next afterColon hcolon =>
          have hafterColon := hafterKey.trans (leaves_sign (by decide) hcolon)
          have hvalueAt := hafterColon.trans (skipSpace_leaves afterColon)
          split at h
          · simp at h
          · next value afterValue hvalue =>
            have huse := hvalueAt.trans (value?_leaves fuel (hvalueAt.quiet hquiet) hvalue)
            split at h
            · next more hsign =>
              have hmore := huse.trans (leaves_sign (by decide) hsign)
              obtain ⟨n, hn, hfields⟩ := fields?_leaves fuel (hmore.quiet hquiet) h
              refine ⟨1 + value.strings + n, ?_, ?_⟩
              · rw [hn, Reading.stringsFields]
                omega
              · convert hmore.trans hfields using 1
                omega
            · next more hsign =>
              obtain ⟨rfl, rfl⟩ := Prod.mk.inj (Option.some.inj h)
              refine ⟨1 + value.strings, ?_, ?_⟩
              · rw [Reading.strings, Reading.stringsFields_reverse, Reading.stringsFields]
                omega
              · convert huse.trans (leaves_sign (by decide) hsign) using 1
                omega
            · simp at h
        · simp at h
    · simp at h

end

/-- A quiet text has two quotes for each string of the value that is read from it. -/
theorem count_of_read? (text : String) {r : Reading} (hquiet : Quiet text.toList)
    (h : read? text = some r) : text.toList.count '"' = 2 * r.strings := by
  simp only [read?] at h
  split at h
  · next value rest hvalue =>
    split at h
    · next hend =>
      obtain rfl := Option.some.inj h
      have hspace := skipSpace_leaves text.toList
      have huse := (hspace.trans (value?_leaves _ (hspace.quiet hquiet) hvalue)).trans
        (skipSpace_leaves rest)
      rw [List.isEmpty_iff.mp hend] at huse
      have hcount := huse.count
      simpa using hcount
    · simp at h
  · simp at h

end Reader

/-! ### Strings of a value that was read -/

theorem stringsFields_insert_le (key : String) (value : Json) (fields : Fields) :
    (stringsFields (fields.insert key value)).length ≤
      1 + value.strings.length + (stringsFields fields).length := by
  induction fields with
  | nil =>
    simp only [Fields.insert, stringsFields, List.length_cons, List.length_append, List.length_nil]
    omega
  | cons field fields ih =>
    rw [Fields.insert]
    split
    · simp only [stringsFields, List.length_cons, List.length_append]
      omega
    · split
      · simp only [stringsFields, List.length_cons, List.length_append]
        omega
      · simp only [stringsFields, List.length_cons, List.length_append]
        omega

/-- Sorting may drop a field, but never adds one. -/
theorem stringsFields_sorted_le (fields : Fields) :
    (stringsFields fields.sorted).length ≤ (stringsFields fields).length := by
  have h (done : Fields) :
      (stringsFields (fields.foldl (fun (acc : Fields) field => acc.insert field.1 field.2)
        done)).length ≤
        (stringsFields done).length + (stringsFields fields).length := by
    induction fields generalizing done with
    | nil => simp [stringsFields]
    | cons field fields ih =>
      have hinsert := stringsFields_insert_le field.1 field.2 done
      have hrest := ih (done.insert field.1 field.2)
      simp only [List.foldl_cons, stringsFields, List.length_cons, List.length_append]
      omega
  have hnil : (stringsFields fields.sorted).length ≤ 0 + (stringsFields fields).length := h []
  omega

mutual

theorem strings_le_of_toJson? (r : Reading) {j : Json} (h : r.toJson? = some j) :
    j.strings.length ≤ r.strings := by
  match r with
  | .null =>
    obtain rfl := Option.some.inj h
    simp [strings]
  | .bool _ =>
    obtain rfl := Option.some.inj h
    simp [strings]
  | .int _ =>
    obtain rfl := Option.some.inj h
    simp [strings]
  | .real _ =>
    obtain rfl := Option.some.inj h
    simp [strings]
  | .str _ =>
    obtain rfl := Option.some.inj h
    simp [strings, Reading.strings]
  | .brokenStr => simp [Reading.toJson?] at h
  | .arr items =>
    obtain ⟨list, hlist, rfl⟩ := Option.map_eq_some_iff.mp h
    exact strings_le_of_itemsToJson? items hlist
  | .obj fields =>
    obtain ⟨list, hlist, rfl⟩ := Option.map_eq_some_iff.mp h
    exact Nat.le_trans (stringsFields_sorted_le list) (strings_le_of_fieldsToJson? fields hlist)

theorem strings_le_of_itemsToJson? (items : List Reading) {list : List Json}
    (h : Reading.itemsToJson? items = some list) :
    (stringsItems list).length ≤ Reading.stringsItems items := by
  match items with
  | [] =>
    obtain rfl := Option.some.inj h
    simp [stringsItems]
  | item :: items =>
    simp only [Reading.itemsToJson?, Option.bind_eq_bind, Option.bind_eq_some_iff] at h
    obtain ⟨j, hitem, list, hitems, h⟩ := h
    obtain rfl := Option.some.inj h
    have hitem := strings_le_of_toJson? item hitem
    have hitems := strings_le_of_itemsToJson? items hitems
    simp only [stringsItems, Reading.stringsItems, List.length_append]
    omega

theorem strings_le_of_fieldsToJson? (fields : List (Option String × Reading)) {list : Fields}
    (h : Reading.fieldsToJson? fields = some list) :
    (stringsFields list).length ≤ Reading.stringsFields fields := by
  match fields with
  | [] =>
    obtain rfl := Option.some.inj h
    simp [stringsFields]
  | (key, value) :: fields =>
    simp only [Reading.fieldsToJson?, Option.bind_eq_bind, Option.bind_eq_some_iff] at h
    obtain ⟨name, -, j, hvalue, list, hfields, h⟩ := h
    obtain rfl := Option.some.inj h
    have hvalue := strings_le_of_toJson? value hvalue
    have hfields := strings_le_of_fieldsToJson? fields hfields
    simp only [stringsFields, Reading.stringsFields, List.length_cons, List.length_append]
    omega

end

end PageBlocks.Json
