import PageBlocks.Proofs.Style.Reread

/-!
What scans make of the text between the characters that mean something to them. Blanks around a part
and between parts leave the strings of a text as they are; all that trimming a part can change for
what stands behind it is that a backslash at its end takes away the meaning of another character.
-/
namespace PageBlocks.Style

namespace Quoting

variable {q : Quoting}

/-- Strings are opened by quotation marks. -/
def Sound (q : Quoting) : Prop := ∀ d ∈ q.quote, d = '"' ∨ d = '\''

theorem sound_plain : plain.Sound := by
  intro d hd
  cases hd

theorem Sound.step (h : q.Sound) (c : Char) : (q.step c).Sound := by
  unfold Quoting.step
  split
  · exact h
  · split
    · exact h
    · split
      · split
        · exact sound_plain
        · exact h
      · split
        · rename_i hc
          rintro d ⟨⟩
          exact hc
        · exact h

theorem Sound.run (h : q.Sound) (cs : List Char) : (q.run cs).Sound := by
  induction cs generalizing q with
  | nil => exact h
  | cons c cs ih => exact ih (h.step c)

theorem run_append (q : Quoting) (cs ds : List Char) : q.run (cs ++ ds) = (q.run cs).run ds :=
  List.foldl_append

/-- A character that neither opens nor closes a string, and is no backslash. -/
def Inert (c : Char) : Prop := c ≠ '\\' ∧ c ≠ '"' ∧ c ≠ '\''

instance (c : Char) : Decidable (Inert c) :=
  inferInstanceAs (Decidable (c ≠ '\\' ∧ c ≠ '"' ∧ c ≠ '\''))

theorem inert_of_isBlank {c : Char} (h : Text.isBlank c = true) : Inert c := by
  refine ⟨?_, ?_, ?_⟩ <;> rintro rfl <;> revert h <;> decide

theorem step_inert (h : q.Sound) {c : Char} (hc : Inert c) : q.step c = ⟨q.quote, false⟩ := by
  obtain ⟨quote, escaped⟩ := q
  obtain ⟨hback, hdouble, hsingle⟩ := hc
  cases escaped with
  | true => rfl
  | false =>
    cases quote with
    | none => simp [step, hback, hdouble, hsingle]
    | some d =>
      have hd : c ≠ d := by
        rintro rfl
        rcases h c rfl with rfl | rfl
        · exact hdouble rfl
        · exact hsingle rfl
      simp [step, hback, hd]

theorem run_listSep (h : q.Sound) : q.run listSep = ⟨q.quote, false⟩ := by
  change (q.step ',').step ' ' = _
  rw [step_inert h (by decide)]
  exact step_inert (q := ⟨q.quote, false⟩) h (by decide)

theorem quote_run_inert (h : q.Sound) {cs : List Char} (hcs : ∀ c ∈ cs, Inert c) :
    (q.run cs).quote = q.quote := by
  induction cs generalizing q with
  | nil => rfl
  | cons c cs ih =>
    have hstep := congrArg Quoting.quote (step_inert h (hcs c List.mem_cons_self))
    exact (ih (h.step c) fun d hd => hcs d (List.mem_cons_of_mem _ hd)).trans hstep

theorem run_inert (h : q.Sound) (hq : q.escaped = false) {cs : List Char}
    (hcs : ∀ c ∈ cs, Inert c) : q.run cs = q := by
  induction cs with
  | nil => rfl
  | cons c cs ih =>
    have hstep : q.step c = q := by
      rw [step_inert h (hcs c List.mem_cons_self), ← hq]
    change (q.step c).run cs = q
    rw [hstep]
    exact ih fun d hd => hcs d (List.mem_cons_of_mem _ hd)

/-- Trimming a text changes nothing about the string that it leaves open. -/
theorem quote_run_trimChars (h : q.Sound) (hq : q.escaped = false) (cs : List Char) :
    (q.run (Text.trimChars cs)).quote = (q.run cs).quote := by
  obtain ⟨front, back, hcs, hfront, hback⟩ := Text.exists_blanks_around cs
  conv_rhs => rw [hcs]
  rw [run_append, run_inert h hq fun c hc => inert_of_isBlank (hfront c hc), run_append,
    quote_run_inert (h.run _) fun c hc => inert_of_isBlank (hback c hc)]

end Quoting

/-! ### Texts without a needle -/

/-- No needle stands outside strings in a text that is scanned from a state. -/
def Lacks (needle : Char) (q : Quoting) : List Char → Prop
  | [] => True
  | c :: rest => ¬ (q = .plain ∧ c = needle) ∧ Lacks needle (q.step c) rest

variable {needle : Char} {q : Quoting}

theorem firstOutsideFrom_eq_none_iff {place : Nat} {cs : List Char} :
    firstOutsideFrom needle q place cs = none ↔ Lacks needle q cs := by
  induction cs generalizing q place with
  | nil => simp [firstOutsideFrom, Lacks]
  | cons c cs ih =>
    rw [firstOutsideFrom, Lacks]
    split
    · rename_i hfound
      simp [hfound]
    · rename_i hne
      rw [ih]
      exact (and_iff_right hne).symm

theorem firstOutside_eq_none_iff {cs : List Char} :
    firstOutside needle cs = none ↔ Lacks needle .plain cs :=
  firstOutsideFrom_eq_none_iff

theorem lacks_append {cs ds : List Char} :
    Lacks needle q (cs ++ ds) ↔ Lacks needle q cs ∧ Lacks needle (q.run cs) ds := by
  induction cs generalizing q with
  | nil => simp [Lacks, Quoting.run]
  | cons c cs ih =>
    rw [List.cons_append, Lacks, ih, Lacks, and_assoc]
    rfl

theorem Lacks.front {front cs : List Char} (h : Lacks needle q cs) (hfront : front <+: cs) :
    Lacks needle q front := by
  obtain ⟨rest, rfl⟩ := hfront
  exact (lacks_append.mp h).1

theorem lacks_of_notMem {cs : List Char} (h : needle ∉ cs) : Lacks needle q cs := by
  induction cs generalizing q with
  | nil => trivial
  | cons c cs ih =>
    rw [List.mem_cons, not_or] at h
    exact ⟨fun hfound => h.1 hfound.2.symm, ih h.2⟩

theorem Lacks.trimChars (hs : q.Sound) (hq : q.escaped = false) {cs : List Char}
    (h : Lacks needle q cs) : Lacks needle q (Text.trimChars cs) := by
  obtain ⟨front, back, hcs, hfront, -⟩ := Text.exists_blanks_around cs
  rw [hcs, lacks_append,
    Quoting.run_inert hs hq fun c hc => Quoting.inert_of_isBlank (hfront c hc), lacks_append] at h
  exact h.2.1

/-- The text before the first needle has none, and leaves no string open. -/
theorem lacks_take_of_firstOutsideFrom {place k : Nat} {cs : List Char}
    (h : firstOutsideFrom needle q place cs = some (place + k)) :
    Lacks needle q (cs.take k) ∧ q.run (cs.take k) = .plain := by
  induction cs generalizing q place k with
  | nil => cases h
  | cons c cs ih =>
    rw [firstOutsideFrom] at h
    split at h
    · rename_i hfound
      have hplace := Option.some.inj h
      obtain rfl : k = 0 := by omega
      exact ⟨trivial, hfound.1⟩
    · rename_i hne
      have hle := le_of_firstOutsideFrom h
      obtain ⟨m, rfl⟩ : ∃ m, k = m + 1 := ⟨k - 1, by omega⟩
      rw [show place + (m + 1) = place + 1 + m by omega] at h
      obtain ⟨hlacks, hrun⟩ := ih h
      exact ⟨⟨hne, hlacks⟩, hrun⟩

theorem lacks_take_of_firstOutside {k : Nat} {cs : List Char}
    (h : firstOutside needle cs = some k) :
    Lacks needle .plain (cs.take k) ∧ Quoting.plain.run (cs.take k) = .plain :=
  lacks_take_of_firstOutsideFrom (by rw [Nat.zero_add]; exact h)

theorem lt_of_firstOutsideFrom {place found : Nat} {cs : List Char}
    (h : firstOutsideFrom needle q place cs = some found) : found < place + cs.length := by
  induction cs generalizing q place with
  | nil => cases h
  | cons c cs ih =>
    rw [firstOutsideFrom] at h
    rw [List.length_cons]
    split at h
    · have hplace := Option.some.inj h
      omega
    · have hlt := ih h
      omega

theorem lt_length_of_firstOutside {found : Nat} {cs : List Char}
    (h : firstOutside needle cs = some found) : found < cs.length := by
  have hlt := lt_of_firstOutsideFrom h
  omega

/-! ### Parts that are split at commas and joined again -/

/-- The parts of a text between commas, trimmed, without those of which nothing is left. -/
def trimmedParts (parts : List (List Char)) : List (List Char) :=
  (parts.map Text.trimChars).filter fun s => !s.isEmpty

theorem trimmedParts_cons (part : List Char) (parts : List (List Char)) :
    trimmedParts (part :: parts) =
      if Text.trimChars part = [] then trimmedParts parts
      else Text.trimChars part :: trimmedParts parts := by
  rw [trimmedParts, List.map_cons, List.filter_cons]
  by_cases h : Text.trimChars part = []
  · simp [h, trimmedParts]
  · simp [h, trimmedParts]

theorem selectorsOf_of_head {cs : List Char} (h : cs.head? ≠ some '@') :
    selectorsOf cs = (trimmedParts (cs.splitOn ',')).map String.ofList := by
  unfold selectorsOf
  split
  · exact absurd rfl h
  · rfl

theorem intercalate_trimmedParts_singleton (part : List Char) :
    listSep.intercalate (trimmedParts [part]) = Text.trimChars part := by
  rw [trimmedParts_cons]
  split
  · rename_i hempty
    exact hempty.symm
  · exact List.intercalate_singleton

/-- A comma takes no part in quoting, and no character behind it is escaped. -/
theorem Quoting.run_append_comma (hs : q.Sound) (part rest : List Char) :
    q.run (part ++ ([','] ++ rest)) = Quoting.run ⟨(q.run part).quote, false⟩ rest := by
  rw [Quoting.run_append, ← Quoting.step_inert (hs.run part) (c := ',') (by decide)]
  rfl

/-- A text that is split at commas, trimmed part by part and joined again has the same strings. -/
theorem lacks_intercalate_trimmedParts (hs : q.Sound) (hq : q.escaped = false)
    (hcomma : needle ≠ ',') (hblank : needle ≠ ' ') {parts : List (List Char)}
    (h : Lacks needle q ([','].intercalate parts)) :
    Lacks needle q (listSep.intercalate (trimmedParts parts)) ∧
      (q.run (listSep.intercalate (trimmedParts parts))).quote =
        (q.run ([','].intercalate parts)).quote := by
  induction parts generalizing q with
  | nil => exact ⟨trivial, rfl⟩
  | cons part parts ih =>
    cases parts with
    | nil =>
      rw [List.intercalate_singleton] at h ⊢
      rw [intercalate_trimmedParts_singleton]
      exact ⟨h.trimChars hs hq, Quoting.quote_run_trimChars hs hq part⟩
    | cons next parts =>
      rw [List.intercalate_cons_cons, List.append_assoc] at h ⊢
      obtain ⟨hpart, -, hrest⟩ := lacks_append.mp h
      rw [Quoting.step_inert (hs.run _) (by decide)] at hrest
      have hsound : Quoting.Sound ⟨(q.run part).quote, false⟩ := hs.run part
      obtain ⟨hlacks, hquote⟩ := ih hsound rfl hrest
      rw [Quoting.run_append_comma hs, ← hquote, trimmedParts_cons]
      have htrim := Quoting.quote_run_trimChars hs hq part
      split
      · rename_i hempty
        rw [hempty] at htrim
        have hsame : (⟨(q.run part).quote, false⟩ : Quoting) = q := by
          rw [← htrim, ← hq]
          rfl
        rw [hsame] at hlacks ⊢
        exact ⟨hlacks, rfl⟩
      · cases hmore : trimmedParts (next :: parts) with
        | nil =>
          rw [List.intercalate_singleton]
          exact ⟨hpart.trimChars hs hq, htrim⟩
        | cons first more =>
          rw [hmore] at hlacks
          rw [List.intercalate_cons_cons, List.append_assoc, lacks_append, Quoting.run_append]
          have hsep : (q.run (Text.trimChars part)).run listSep = ⟨(q.run part).quote, false⟩ := by
            rw [Quoting.run_listSep (hs.run _), htrim]
          rw [Quoting.run_append, hsep, lacks_append, hsep]
          refine ⟨⟨hpart.trimChars hs hq, lacks_of_notMem ?_, hlacks⟩, rfl⟩
          simp [hcomma, hblank]

end PageBlocks.Style
