import Mathlib.Data.List.Infix
import PageBlocks.Emit.Escape
import PageBlocks.Emit.Shortcode

/-!
Undoing escapes. A table lists escape sequences with the characters they stand for; a text is read from
the left, and where a sequence stands the character takes its place. All sequences of a table begin with
one mark. If the mark itself is escaped, every text comes back; if it is not, those come back in which no
sequence stands already.
-/
namespace PageBlocks.Emit

/-- Escape sequences and the characters they stand for. -/
abbrev Escapes := List (List Char × Char)

/-- Undo escapes behind the next `skip` characters, which belong to the last sequence. -/
def unescapeFrom (table : Escapes) : Nat → List Char → List Char
  | _, [] => []
  | skip + 1, _ :: rest => unescapeFrom table skip rest
  | 0, c :: rest =>
    match table.find? fun entry => entry.1.isPrefixOf (c :: rest) with
    | some entry => entry.2 :: unescapeFrom table (entry.1.length - 1) rest
    | none => c :: unescapeFrom table 0 rest

/-- The text with its escapes undone. -/
def unescape (table : Escapes) (s : String) : String :=
  String.ofList (unescapeFrom table 0 s.toList)

/-- No escape sequence stands in the text. -/
def IsClear (table : Escapes) (s : String) : Prop := ∀ entry ∈ table, ¬ entry.1 <:+: s.toList

instance (table : Escapes) (s : String) : Decidable (IsClear table s) :=
  inferInstanceAs (Decidable (∀ entry ∈ table, ¬ entry.1 <:+: s.toList))

/-- The table undoes a way of escaping: what is escaped becomes a sequence of the table, all sequences
begin with the mark and have no other one, and none is the beginning of another. -/
structure Undoes (table : Escapes) (mark : Char) (escape : Char → List Char) : Prop where
  escaped : ∀ c, escape c = [c] ∨ (escape c, c) ∈ table
  marked : ∀ entry ∈ table, ∃ tail, entry.1 = mark :: tail ∧ mark ∉ tail
  apart : ∀ entry ∈ table, ∀ other ∈ table, entry.1 <+: other.1 → entry = other

variable {table : Escapes} {mark : Char} {escape : Char → List Char}

/-- A character that no escape has in it is in no escaped text. -/
theorem notMem_escaped {d : Char} (h : ∀ c, d ∉ escape c) (cs : List Char) :
    d ∉ cs.flatMap escape := by
  intro hmem
  obtain ⟨c, -, hc⟩ := List.mem_flatMap.mp hmem
  exact h c hc

theorem unescapeFrom_skip (front rest : List Char) :
    unescapeFrom table front.length (front ++ rest) = unescapeFrom table 0 rest := by
  induction front with
  | nil => rfl
  | cons c front ih => exact ih

theorem unescapeFrom_miss {c : Char} {rest : List Char}
    (h : ∀ entry ∈ table, ¬ entry.1 <+: c :: rest) :
    unescapeFrom table 0 (c :: rest) = c :: unescapeFrom table 0 rest := by
  have hnone : table.find? (fun entry => entry.1.isPrefixOf (c :: rest)) = none := by
    rw [List.find?_eq_none]
    intro entry hentry
    rw [List.isPrefixOf_iff_prefix]
    exact h entry hentry
  rw [unescapeFrom, hnone]

/-- A sequence at the front is taken as a whole. -/
theorem Undoes.unescapeFrom_hit (h : Undoes table mark escape) {entry : List Char × Char}
    (hentry : entry ∈ table) (rest : List Char) :
    unescapeFrom table 0 (entry.1 ++ rest) = entry.2 :: unescapeFrom table 0 rest := by
  obtain ⟨tail, htail, -⟩ := h.marked entry hentry
  have hfront : entry.1 <+: mark :: (tail ++ rest) := by
    rw [htail]
    exact List.prefix_append (mark :: tail) rest
  have hfind : table.find? (fun entry => entry.1.isPrefixOf (mark :: (tail ++ rest))) =
      some entry := by
    cases hfound : table.find? fun entry => entry.1.isPrefixOf (mark :: (tail ++ rest)) with
    | none =>
      have hmiss := List.find?_eq_none.mp hfound entry hentry
      rw [List.isPrefixOf_iff_prefix] at hmiss
      exact absurd hfront hmiss
    | some other =>
      have hother := List.mem_of_find?_eq_some hfound
      have hleads : other.1 <+: mark :: (tail ++ rest) :=
        List.isPrefixOf_iff_prefix.mp
          (List.find?_some (p := fun entry : List Char × Char =>
            entry.1.isPrefixOf (mark :: (tail ++ rest))) hfound)
      rcases List.prefix_or_prefix_of_prefix hleads hfront with hle | hle
      · rw [h.apart other hother entry hentry hle]
      · rw [h.apart entry hentry other hother hle]
  rw [htail, List.cons_append, unescapeFrom, hfind]
  dsimp only
  rw [htail]
  exact congrArg (entry.2 :: ·) (unescapeFrom_skip tail rest)

/-- What stands at the front of an escaped text without a mark stood there before. -/
theorem Undoes.prefix_of_escaped (h : Undoes table mark escape) {tail cs : List Char}
    (hmark : mark ∉ tail) (hleads : tail <+: cs.flatMap escape) : tail <+: cs := by
  induction tail generalizing cs with
  | nil => exact List.nil_prefix
  | cons d tail ih =>
    have hne : mark ≠ d := List.ne_of_not_mem_cons hmark
    have hrest : mark ∉ tail := List.not_mem_of_not_mem_cons hmark
    cases cs with
    | nil => exact hleads
    | cons c cs =>
      rw [List.flatMap_cons] at hleads
      rcases h.escaped c with hself | hescaped
      · rw [hself, List.singleton_append, List.cons_prefix_cons] at hleads
        exact List.cons_prefix_cons.mpr ⟨hleads.1, ih hrest hleads.2⟩
      · obtain ⟨more, hmore, -⟩ := h.marked _ hescaped
        change escape c = mark :: more at hmore
        rw [hmore, List.cons_append, List.cons_prefix_cons] at hleads
        exact absurd hleads.1.symm hne

/-- A text comes back if the mark is escaped, or else if no sequence stands in it. -/
theorem Undoes.unescapeFrom_escaped (h : Undoes table mark escape) {cs : List Char}
    (hclear : escape mark = [mark] → ∀ entry ∈ table, ¬ entry.1 <:+: cs) :
    unescapeFrom table 0 (cs.flatMap escape) = cs := by
  induction cs with
  | nil => rfl
  | cons c cs ih =>
    have hrest := ih fun hself entry hentry hwithin =>
      hclear hself entry hentry (hwithin.trans (List.suffix_cons c cs).isInfix)
    rw [List.flatMap_cons]
    rcases h.escaped c with hself | hescaped
    · rw [hself, List.singleton_append, unescapeFrom_miss, hrest]
      -- a sequence that begins with an unescaped mark would have stood in the text
      intro entry hentry hleads
      obtain ⟨tail, htail, hmark⟩ := h.marked entry hentry
      rw [htail, List.cons_prefix_cons] at hleads
      obtain ⟨rfl, hleads⟩ := hleads
      have hstood : entry.1 <+: mark :: cs := by
        rw [htail]
        exact List.cons_prefix_cons.mpr ⟨rfl, h.prefix_of_escaped hmark hleads⟩
      exact hclear hself entry hentry hstood.isInfix
    · exact (h.unescapeFrom_hit hescaped _).trans (congrArg (c :: ·) hrest)

theorem Undoes.unescape_escaped (h : Undoes table mark escape) {s : String}
    (hclear : escape mark = [mark] → IsClear table s) :
    unescape table (String.ofList (s.toList.flatMap escape)) = s := by
  rw [unescape, String.toList_ofList, h.unescapeFrom_escaped hclear, String.ofList_toList]

/-- The escapes of markup that is put together from parts. -/
def markupEscapes : Escapes :=
  [("&amp;".toList, '&'), ("&lt;".toList, '<'), ("&gt;".toList, '>'), ("&quot;".toList, '"')]

end PageBlocks.Emit

/-! ### Shortcodes -/

namespace PageBlocks.Shortcode

open Emit

/-- The escapes of attribute values. -/
def attrEscapes : Escapes :=
  [("%22".toList, '"'), ("%91".toList, '['), ("%93".toList, ']')]

/-- The escapes of content without shortcodes. -/
def literalEscapes : Escapes := [("&#91;".toList, '['), ("&#93;".toList, ']')]

theorem undoes_attrChar : Undoes attrEscapes '%' attrChar where
  escaped c := by
    unfold attrChar
    split <;> simp [attrEscapes]
  marked entry hentry := by
    refine ⟨entry.1.tail, ?_⟩
    revert entry
    decide
  apart := by decide

/-- An attribute value in which no escape sequence stands comes back. -/
theorem unescape_attrText {s : String} (h : IsClear attrEscapes s) :
    unescape attrEscapes (attrText s) = s :=
  undoes_attrChar.unescape_escaped fun _ => h

example : unescape attrEscapes (attrText "%22") = "\"" := by decide +kernel

end PageBlocks.Shortcode
