import PageBlocks.Emit.Gutenberg
import PageBlocks.Proofs.Text.Replace

/-!
The exchanges that keep attributes inside their comment, as a single pass over the text. The exchanges
are made one after the other, but none of them makes or breaks an occurrence for a later one: what is
put in has no hyphen, angle bracket, ampersand or quote, and its backslashes stand before the letter u.
-/
namespace PageBlocks.Gutenberg

open Text

/-- What is put in for two characters, if they are exchanged as a pair. -/
def pairGuard? (c d : Char) : Option (List Char) :=
  if c = '-' ∧ d = '-' then some "\\u002d\\u002d".toList
  else if c = '\\' ∧ d = '"' then some "\\u0022".toList
  else none

/-- What a single character becomes. -/
def charGuard (c : Char) : List Char :=
  if c = '<' then "\\u003c".toList
  else if c = '>' then "\\u003e".toList
  else if c = '&' then "\\u0026".toList
  else [c]

/-- The text with every exchange made where it is due. Pairs are taken from the left. -/
def guardChars : List Char → List Char
  | [] => []
  | [c] => charGuard c
  | c :: d :: rest =>
    match pairGuard? c d with
    | some text => text ++ guardChars rest
    | none => charGuard c ++ guardChars (d :: rest)

theorem guardChars_pair {c d : Char} {text : List Char} (h : pairGuard? c d = some text)
    (rest : List Char) : guardChars (c :: d :: rest) = text ++ guardChars rest := by
  rw [guardChars, h]

/-- A character that is not the first of a pair is guarded by itself. -/
theorem guardChars_cons {c : Char} {rest : List Char}
    (h : ∀ d, rest.head? = some d → pairGuard? c d = none) :
    guardChars (c :: rest) = charGuard c ++ guardChars rest := by
  cases rest with
  | nil => simp [guardChars]
  | cons d rest => rw [guardChars, h d rfl]

/-- The text is built up from its end, a pair or a character at a time. -/
theorem guard_induction {P : List Char → Prop} (hnil : P [])
    (hpair : ∀ c d text rest, pairGuard? c d = some text → P rest → P (c :: d :: rest))
    (hcons : ∀ c rest, (∀ d, rest.head? = some d → pairGuard? c d = none) → P rest →
      P (c :: rest)) (cs : List Char) : P cs := by
  fun_induction guardChars cs with
  | case1 => exact hnil
  | case2 c => exact hcons c [] (by simp) hnil
  | case3 c d rest text h ih => exact hpair c d text rest h ih
  | case4 c d rest h ih =>
    refine hcons c (d :: rest) (fun e he => ?_) ih
    obtain rfl := Option.some.inj he
    exact h

theorem pairGuard?_eq_some {c d : Char} {text : List Char} (h : pairGuard? c d = some text) :
    (c = '-' ∧ d = '-' ∧ text = "\\u002d\\u002d".toList) ∨
      (c = '\\' ∧ d = '"' ∧ text = "\\u0022".toList) := by
  unfold pairGuard? at h
  split at h
  · next hcd => exact .inl ⟨hcd.1, hcd.2, (Option.some.inj h).symm⟩
  · split at h
    · next hcd => exact .inr ⟨hcd.1, hcd.2, (Option.some.inj h).symm⟩
    · simp at h

/-! ### The exchanges one after the other -/

/-- A text shows a character in front only where the text before an exchange does. -/
theorem head?_of_exchange {pattern new cs : List Char} {c : Char} (hnew : new.head? = some '\\')
    (hc : c ≠ '\\') (h : (replaceAll pattern new cs).head? = some c) : cs.head? = some c := by
  have hne : new ≠ [] := by
    rintro rfl
    simp at hnew
  rcases head?_replaceAll pattern hne cs with hcs | hcs
  · rw [← hcs, h]
  · rw [hcs, hnew, Option.some.injEq] at h
    exact absurd h.symm hc

/-- One exchange after the other is a single pass. -/
theorem guarded_eq (cs : List Char) : guarded cs = guardChars cs := by
  simp only [guarded, guards, List.foldl_cons, List.foldl_nil]
  induction cs using guard_induction with
  | hnil => rfl
  | hpair c d text rest h ih =>
    rw [guardChars_pair h, ← ih]
    rcases pairGuard?_eq_some h with ⟨rfl, rfl, rfl⟩ | ⟨rfl, rfl, rfl⟩
    · simp [replaceAll_two, replaceAll_miss]
    · simp [replaceAll_two, replaceAll_miss]
  | hcons c rest h ih =>
    rw [guardChars_cons h, ← ih]
    by_cases hless : c = '<'
    · subst hless
      simp [charGuard, replaceAll_one, replaceAll_miss]
    by_cases hgreater : c = '>'
    · subst hgreater
      simp [charGuard, replaceAll_one, replaceAll_miss]
    by_cases hand : c = '&'
    · subst hand
      simp [charGuard, replaceAll_one, replaceAll_miss]
    have hpair : ¬ "--".toList <+: c :: rest := by
      rintro ⟨tail, htail⟩
      obtain ⟨rfl, rfl⟩ := List.cons.inj htail
      exact absurd (h '-' rfl) (by decide)
    have hl (text : List Char) : ¬ "<".toList <+: c :: text := not_prefix_of_ne hless [] text
    have hg (text : List Char) : ¬ ">".toList <+: c :: text := not_prefix_of_ne hgreater [] text
    have ha (text : List Char) : ¬ "&".toList <+: c :: text := not_prefix_of_ne hand [] text
    rw [replaceAll_miss hpair, replaceAll_miss (hl _), replaceAll_miss (hg _), replaceAll_miss (ha _),
      charGuard, if_neg hless, if_neg hgreater, if_neg hand]
    apply replaceAll_miss
    rintro ⟨tail, htail⟩
    obtain ⟨rfl, hrest⟩ := List.cons.inj htail
    have hhead := congrArg List.head? hrest
    have hquote : rest.head? = some '"' :=
      head?_of_exchange rfl (by decide) (head?_of_exchange rfl (by decide)
        (head?_of_exchange rfl (by decide) (head?_of_exchange rfl (by decide) hhead.symm)))
    exact absurd (h '"' hquote) (by decide)

/-! ### The pass on parts of a text -/

/-- A character that no exchange begins with. -/
def Unguarded (c : Char) : Prop := c ∉ ['-', '<', '>', '&', '\\']

instance (c : Char) : Decidable (Unguarded c) :=
  inferInstanceAs (Decidable (c ∉ ['-', '<', '>', '&', '\\']))

theorem pairGuard?_eq_none {c d : Char} (hhyphen : c = '-' → d ≠ '-')
    (hback : c = '\\' → d ≠ '"') : pairGuard? c d = none := by
  rw [pairGuard?, if_neg fun h => hhyphen h.1 h.2, if_neg fun h => hback h.1 h.2]

theorem Unguarded.pairGuard? {c : Char} (hc : Unguarded c) (d : Char) : pairGuard? c d = none := by
  refine pairGuard?_eq_none ?_ ?_ <;>
  · rintro rfl
    simp [Unguarded] at hc

theorem Unguarded.charGuard {c : Char} (hc : Unguarded c) : charGuard c = [c] := by
  simp only [Unguarded, List.mem_cons, List.not_mem_nil, or_false, not_or] at hc
  simp [Gutenberg.charGuard, hc]

theorem guardChars_unguarded {c : Char} (hc : Unguarded c) (rest : List Char) :
    guardChars (c :: rest) = c :: guardChars rest := by
  rw [guardChars_cons fun d _ => hc.pairGuard? d, hc.charGuard, List.singleton_append]

theorem guardChars_append {front : List Char} (h : ∀ c ∈ front, Unguarded c) (rest : List Char) :
    guardChars (front ++ rest) = front ++ guardChars rest := by
  induction front with
  | nil => rfl
  | cons c front ih =>
    have hfront := ih fun d hd => h d (List.mem_cons_of_mem c hd)
    rw [List.cons_append, guardChars_unguarded (h c List.mem_cons_self), hfront, List.cons_append]

/-- A single hyphen stays. -/
theorem guardChars_hyphen {rest : List Char} (h : rest.head? ≠ some '-') :
    guardChars ('-' :: rest) = '-' :: guardChars rest := by
  rw [guardChars_cons]
  · rfl
  · intro d hd
    refine pairGuard?_eq_none (fun _ => ?_) (by simp)
    rintro rfl
    exact h hd

/-- A backslash stays, unless it stands before a quote. -/
theorem guardChars_backslash {rest : List Char} (h : rest.head? ≠ some '"') :
    guardChars ('\\' :: rest) = '\\' :: guardChars rest := by
  rw [guardChars_cons]
  · rfl
  · intro d hd
    refine pairGuard?_eq_none (by simp) (fun _ => ?_)
    rintro rfl
    exact h hd

/-- Two texts are guarded apart unless a pair stands across the joint. -/
theorem guardChars_append_joint {front rest : List Char}
    (h : ∀ c d, front.getLast? = some c → rest.head? = some d → pairGuard? c d = none) :
    guardChars (front ++ rest) = guardChars front ++ guardChars rest := by
  induction front using guard_induction with
  | hnil => rfl
  | hpair c d text front hcd ih =>
    have hfront := ih fun e f he hf => h e f (by simp [List.getLast?_cons, he]) hf
    rw [List.cons_append, List.cons_append, guardChars_pair hcd, guardChars_pair hcd, hfront,
      List.append_assoc]
  | hcons c front hc ih =>
    have hfront := ih fun e f he hf => h e f (by simp [List.getLast?_cons, he]) hf
    have hjoint : ∀ d, (front ++ rest).head? = some d → pairGuard? c d = none := by
      intro d hd
      cases front with
      | nil => exact h c d rfl hd
      | cons e front => exact hc d hd
    rw [List.cons_append, guardChars_cons hjoint, guardChars_cons hc, hfront, List.append_assoc]

/-- A quote stays apart from the text before it, unless that text ends in a backslash. -/
theorem guardChars_append_quote {front : List Char} (h : front.getLast? ≠ some '\\')
    (rest : List Char) :
    guardChars (front ++ '"' :: rest) = guardChars front ++ '"' :: guardChars rest := by
  rw [guardChars_append_joint, guardChars_unguarded (by decide)]
  intro c d hc hd
  obtain rfl := Option.some.inj hd
  refine pairGuard?_eq_none (fun _ => by decide) ?_
  rintro rfl
  exact absurd hc h

theorem brackets_notMem_charGuard (c : Char) : '<' ∉ charGuard c ∧ '>' ∉ charGuard c := by
  unfold charGuard
  split
  · decide
  · next hless =>
    split
    · decide
    · next hgreater =>
      split
      · decide
      · simp only [List.mem_singleton]
        exact ⟨fun he => hless he.symm, fun he => hgreater he.symm⟩

/-- No angle bracket shows, so a comment neither begins nor ends. -/
theorem brackets_notMem_guardChars (cs : List Char) : '<' ∉ guardChars cs ∧ '>' ∉ guardChars cs := by
  induction cs using guard_induction with
  | hnil => exact ⟨List.not_mem_nil, List.not_mem_nil⟩
  | hpair c d text rest h ih =>
    rw [guardChars_pair h]
    rcases pairGuard?_eq_some h with ⟨rfl, rfl, rfl⟩ | ⟨rfl, rfl, rfl⟩
    · simpa using ih
    · simpa using ih
  | hcons c rest h ih =>
    obtain ⟨hless, hgreater⟩ := brackets_notMem_charGuard c
    rw [guardChars_cons h, List.mem_append, List.mem_append, not_or, not_or]
    exact ⟨⟨hless, ih.1⟩, hgreater, ih.2⟩

end PageBlocks.Gutenberg
