import PageBlocks.Proofs.Emit.Unescape

/-!
Escapes that leave their mark alone. Where the mark of the sequences is not escaped itself, a sequence
that stood in a text is read as the character that it means, as if it had been written for it. So the texts
that can be read are those without sequences, and two texts are written alike exactly if they are read
alike. The values of shortcode attributes are written in this way.
-/
namespace PageBlocks.Emit

/-- The sequences of a table are how their characters are written, and none of these characters stands
in a sequence. So the mark and all else in a sequence is written as it is. -/
structure LeavesMark (table : Escapes) (escape : Char → List Char) : Prop where
  written : ∀ entry ∈ table, escape entry.2 = entry.1
  apart : ∀ entry ∈ table, ∀ other ∈ table, entry.2 ∉ other.1

/-- How a text is read: a sequence at the front stands for its character, any other character for
itself. -/
inductive ReadAs (table : Escapes) : List Char → List Char → Prop
  | nil : ReadAs table [] []
  | hit {entry : List Char × Char} {rest out : List Char} (hentry : entry ∈ table)
      (hrest : ReadAs table rest out) : ReadAs table (entry.1 ++ rest) (entry.2 :: out)
  | miss {c : Char} {rest out : List Char} (hmiss : ∀ entry ∈ table, ¬ entry.1 <+: c :: rest)
      (hrest : ReadAs table rest out) : ReadAs table (c :: rest) (c :: out)

variable {table : Escapes} {mark : Char} {escape : Char → List Char} {cs out : List Char}

/-- Undoing escapes reads a text. -/
theorem Undoes.readAs (h : Undoes table mark escape) (cs : List Char) :
    ReadAs table cs (unescapeFrom table 0 cs) := by
  induction hlen : cs.length using Nat.strong_induction_on generalizing cs with
  | h n ih =>
    cases cs with
    | nil => exact .nil
    | cons c rest =>
      by_cases hfront : ∃ entry ∈ table, entry.1 <+: c :: rest
      · obtain ⟨entry, hentry, behind, hbehind⟩ := hfront
        obtain ⟨tail, htail, -⟩ := h.marked entry hentry
        have hshorter : behind.length < n := by
          rw [← hlen, ← hbehind, htail, List.length_append, List.length_cons]
          omega
        rw [← hbehind, h.unescapeFrom_hit hentry]
        exact .hit hentry (ih _ hshorter behind rfl)
      · have hmiss : ∀ entry ∈ table, ¬ entry.1 <+: c :: rest :=
          fun entry hentry hleads => hfront ⟨entry, hentry, hleads⟩
        rw [unescapeFrom_miss hmiss]
        refine .miss hmiss (ih rest.length ?_ rest rfl)
        rw [← hlen, List.length_cons]
        exact Nat.lt_succ_self _

/-! ### What can be read -/

/-- What stands at the front of a reading and has no character of a sequence stood in the text. -/
theorem ReadAs.prefix_of_read (h : ReadAs table cs out) {front : List Char}
    (hfront : ∀ entry ∈ table, entry.2 ∉ front) (hleads : front <+: out) : front <+: cs := by
  induction h generalizing front with
  | nil => exact hleads
  | @hit entry rest out hentry _ _ =>
    cases front with
    | nil => exact List.nil_prefix
    | cons d front =>
      obtain ⟨rfl, -⟩ := List.cons_prefix_cons.mp hleads
      exact absurd List.mem_cons_self (hfront entry hentry)
  | @miss c rest out _ _ ih =>
    cases front with
    | nil => exact List.nil_prefix
    | cons d front =>
      obtain ⟨rfl, hbehind⟩ := List.cons_prefix_cons.mp hleads
      refine List.cons_prefix_cons.mpr ⟨rfl, ih (fun entry hentry hmem => ?_) hbehind⟩
      exact hfront entry hentry (List.mem_cons_of_mem _ hmem)

/-- No sequence stands in what has been read. -/
theorem ReadAs.lacks_sequence (h : ReadAs table cs out) (hmark : LeavesMark table escape)
    {entry : List Char × Char} (hentry : entry ∈ table) (hne : entry.1 ≠ []) :
    ¬ entry.1 <:+: out := by
  have happart : ∀ other ∈ table, other.2 ∉ entry.1 :=
    fun other hother => hmark.apart other hother entry hentry
  induction h with
  | nil => simpa using hne
  | @hit other rest out hother _ ih =>
    rw [List.infix_cons_iff, not_or]
    refine ⟨fun hleads => ?_, ih⟩
    obtain ⟨d, tail, hd⟩ := List.exists_cons_of_ne_nil hne
    rw [hd, List.cons_prefix_cons] at hleads
    refine happart other hother ?_
    rw [hd, hleads.1]
    exact List.mem_cons_self
  | @miss c rest out hmiss hrest ih =>
    rw [List.infix_cons_iff, not_or]
    exact ⟨fun hleads => hmiss entry hentry ((ReadAs.miss hmiss hrest).prefix_of_read happart hleads), ih⟩

theorem LeavesMark.isClear_unescape (hmark : LeavesMark table escape) (h : Undoes table mark escape)
    (s : String) : IsClear table (unescape table s) := by
  intro entry hentry
  obtain ⟨tail, htail, -⟩ := h.marked entry hentry
  rw [unescape, String.toList_ofList]
  exact (h.readAs s.toList).lacks_sequence hmark hentry (by rw [htail]; exact List.cons_ne_nil _ _)

/-! ### What is written alike -/

/-- A sequence is written as it is. -/
theorem LeavesMark.flatMap_sequence (hmark : LeavesMark table escape) (h : Undoes table mark escape)
    {entry : List Char × Char} (hentry : entry ∈ table) : entry.1.flatMap escape = entry.1 := by
  calc entry.1.flatMap escape
      = entry.1.flatMap fun c => [c] := List.flatMap_congr fun c hc =>
        (h.escaped c).resolve_right fun hescaped => hmark.apart _ hescaped entry hentry hc
    _ = entry.1 := List.flatMap_singleton' entry.1

/-- A text that is escaped is read as the text is read. -/
theorem ReadAs.unescapeFrom_escaped (h : ReadAs table cs out) (hundoes : Undoes table mark escape)
    (hmark : LeavesMark table escape) : unescapeFrom table 0 (cs.flatMap escape) = out := by
  induction h with
  | nil => rfl
  | @hit entry rest out hentry _ ih =>
    rw [List.flatMap_append, hmark.flatMap_sequence hundoes hentry, hundoes.unescapeFrom_hit hentry, ih]
  | @miss c rest out hmiss _ ih =>
    rw [List.flatMap_cons]
    rcases hundoes.escaped c with hself | hescaped
    · rw [hself, List.singleton_append, unescapeFrom_miss, ih]
      -- escaping brings no sequence to the front that was not there
      intro entry hentry hleads
      obtain ⟨tail, htail, hnot⟩ := hundoes.marked entry hentry
      rw [htail, List.cons_prefix_cons] at hleads
      obtain ⟨rfl, hleads⟩ := hleads
      refine hmiss entry hentry ?_
      rw [htail]
      exact List.cons_prefix_cons.mpr ⟨rfl, hundoes.prefix_of_escaped hnot hleads⟩
    · exact (hundoes.unescapeFrom_hit hescaped _).trans (congrArg (c :: ·) ih)

/-- A reading is written as the text was. -/
theorem ReadAs.flatMap_escape (h : ReadAs table cs out) (hundoes : Undoes table mark escape)
    (hmark : LeavesMark table escape) : out.flatMap escape = cs.flatMap escape := by
  induction h with
  | nil => rfl
  | @hit entry rest out hentry _ ih =>
    rw [List.flatMap_cons, List.flatMap_append, ih, hmark.written entry hentry,
      hmark.flatMap_sequence hundoes hentry]
  | miss _ _ ih => rw [List.flatMap_cons, List.flatMap_cons, ih]

/-- Two texts are written alike exactly if they are read alike. -/
theorem LeavesMark.escaped_eq_iff (hmark : LeavesMark table escape) (h : Undoes table mark escape)
    (s t : String) :
    s.toList.flatMap escape = t.toList.flatMap escape ↔ unescape table s = unescape table t := by
  have hs := h.readAs s.toList
  have ht := h.readAs t.toList
  rw [unescape, unescape, String.ofList_inj]
  constructor
  · intro heq
    rw [← hs.unescapeFrom_escaped h hmark, ← ht.unescapeFrom_escaped h hmark, heq]
  · intro heq
    rw [← hs.flatMap_escape h hmark, ← ht.flatMap_escape h hmark, heq]

end PageBlocks.Emit

/-! ### Attribute values of shortcodes -/

namespace PageBlocks.Shortcode

open Emit

theorem leavesMark_attrChar : LeavesMark attrEscapes attrChar where
  written := by decide
  apart := by decide

theorem writtenAttr_inj (name : String) {s t : String} :
    writtenAttr (name, s) = writtenAttr (name, t) ↔ attrText s = attrText t := by
  simp [writtenAttr, String.append_right_inj, String.append_left_inj]

/-- An attribute value comes back exactly if no escape sequence stands in it. No text at all is read as a
value with a sequence in it, and two values are written as the same attribute exactly if they are the same
once the sequences in them are read. -/
theorem attrText_comes_back_iff :
    (∀ value, unescape attrEscapes (attrText value) = value ↔ IsClear attrEscapes value) ∧
    (∀ value, (∃ text, unescape attrEscapes text = value) ↔ IsClear attrEscapes value) ∧
    ∀ name value other, writtenAttr (name, value) = writtenAttr (name, other) ↔
      unescape attrEscapes value = unescape attrEscapes other := by
  have hclear := leavesMark_attrChar.isClear_unescape undoes_attrChar
  refine ⟨fun value => ⟨fun h => ?_, unescape_attrText⟩, fun value => ⟨?_, fun h => ?_⟩, ?_⟩
  · rw [← h]
    exact hclear _
  · rintro ⟨text, rfl⟩
    exact hclear text
  · exact ⟨attrText value, unescape_attrText h⟩
  · intro name value other
    rw [writtenAttr_inj, attrText, attrText, String.ofList_inj]
    exact leavesMark_attrChar.escaped_eq_iff undoes_attrChar value other

/-- A value that has the sequence for a quotation mark is written as the quotation mark is, and comes
back as one. -/
theorem attrText_percent :
    writtenAttr ("src", "%22") = writtenAttr ("src", "\"") ∧
      unescape attrEscapes (attrText "%22") ≠ "%22" := by
  decide +kernel

end PageBlocks.Shortcode
