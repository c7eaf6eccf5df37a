import PageBlocks.Proofs.Style.Quotes
import Mathlib.Data.Finset.Interval
import Mathlib.Order.Interval.Finset.Nat

/-!
Which brace closes a block. A character counts at its place if a scan from the beginning of the text
comes there outside strings and with no escape pending. The closing brace of a block is the first one at
which the braces that count balance, and on the way there more of them are open than closed.
-/
namespace PageBlocks.Style

/-- A character stands at a place of a text, outside strings and not escaped. -/
def CountsAt (cs : List Char) (place : Nat) (c : Char) : Prop :=
  Quoting.plain.run (cs.take place) = .plain ∧ cs[place]? = some c

instance (cs : List Char) (place : Nat) (c : Char) : Decidable (CountsAt cs place c) :=
  inferInstanceAs (Decidable (_ ∧ _))

/-- How often a character counts from `first` on and before `stop`. -/
def countIn (cs : List Char) (c : Char) (first stop : Nat) : Nat :=
  ((Finset.Ico first stop).filter fun place => CountsAt cs place c).card

/-- A closing brace behind `opening` at which as many braces are closed as have been opened there and
since. -/
structure ClosesAt (cs : List Char) (opening place : Nat) : Prop where
  behind : opening < place
  counts : CountsAt cs place '\x7d'
  balances : countIn cs '\x7b' opening (place + 1) = countIn cs '\x7d' opening (place + 1)

/-- The search for the closing brace with a count that must not go below zero: there is no result where
a brace is to be closed and none is open. -/
def strictClosingBraceFrom (depth : Nat) (q : Quoting) (place : Nat) : List Char → Option (Option Nat)
  | [] => some none
  | c :: rest =>
    if q = .plain ∧ c = '\x7b' then strictClosingBraceFrom (depth + 1) q (place + 1) rest
    else if q = .plain ∧ c = '\x7d' then
      if depth = 0 then none
      else if depth - 1 = 0 then some (some place)
      else strictClosingBraceFrom (depth - 1) q (place + 1) rest
    else strictClosingBraceFrom depth (q.step c) (place + 1) rest

theorem countIn_succ (cs : List Char) (c : Char) {first stop : Nat} (h : first ≤ stop) :
    countIn cs c first (stop + 1) = countIn cs c first stop + if CountsAt cs stop c then 1 else 0 := by
  rw [countIn, Nat.Ico_succ_right_eq_insert_Ico h, Finset.filter_insert]
  split
  · rw [Finset.card_insert_of_notMem (by simp), countIn]
  · rfl

theorem countIn_self (cs : List Char) (c : Char) (place : Nat) : countIn cs c place place = 0 := by
  simp [countIn]

theorem countsAt_unique {cs : List Char} {place : Nat} {c d : Char} (hc : CountsAt cs place c)
    (hd : CountsAt cs place d) : c = d :=
  Option.some.inj (hc.2.symm.trans hd.2)

/-- A scan that has come to a place in the state of the whole text finds there what counts. -/
theorem countsAt_iff {cs rest : List Char} {place : Nat} {c : Char}
    (hrest : cs.drop place = c :: rest) (d : Char) :
    CountsAt cs place d ↔ Quoting.plain.run (cs.take place) = .plain ∧ c = d := by
  have hget : cs[place]? = some c := by
    rw [← List.head?_drop, hrest]
    rfl
  rw [CountsAt, hget, Option.some_inj]

theorem run_take_succ {cs rest : List Char} {place : Nat} {c : Char}
    (hrest : cs.drop place = c :: rest) (q : Quoting) :
    q.run (cs.take (place + 1)) = (q.run (cs.take place)).step c := by
  have htake : cs.take (place + 1) = cs.take place ++ [c] := by
    rw [List.take_add_one, ← List.head?_drop, hrest]
    rfl
  rw [htake, Quoting.run_append]
  rfl

theorem drop_succ {cs rest : List Char} {place : Nat} {c : Char} (hrest : cs.drop place = c :: rest) :
    cs.drop (place + 1) = rest := by
  rw [← List.drop_drop, hrest]
  rfl

/-- A brace does not change the state of a scan outside strings. -/
theorem step_plain_brace {c : Char} (h : c = '\x7b' ∨ c = '\x7d') :
    Quoting.plain.step c = .plain := by
  rcases h with rfl | rfl <;> decide

/-! ### The search -/

section

variable {cs rest : List Char} {opening place depth : Nat}

/-- Where the search for the closing brace stands: how many of the braces since `opening` are open, and
that there is at least one. -/
structure Searching (cs : List Char) (opening depth place : Nat) : Prop where
  behind : opening < place
  pos : 0 < depth
  excess : countIn cs '\x7b' opening place = countIn cs '\x7d' opening place + depth

/-- A search begins behind the brace whose partner it looks for. -/
theorem searching_start (hopen : CountsAt cs opening '\x7b') : Searching cs opening 1 (opening + 1) where
  behind := Nat.lt_succ_self _
  pos := Nat.one_pos
  excess := by
    have hclose : ¬ CountsAt cs opening '\x7d' := fun h => absurd (countsAt_unique hopen h) (by decide)
    rw [countIn_succ _ _ le_rfl, countIn_succ _ _ le_rfl, countIn_self, countIn_self, if_pos hopen,
      if_neg hclose]

theorem Searching.opens (h : Searching cs opening depth place) (hopen : CountsAt cs place '\x7b') :
    Searching cs opening (depth + 1) (place + 1) where
  behind := Nat.lt_succ_of_lt h.behind
  pos := Nat.succ_pos _
  excess := by
    have hclose : ¬ CountsAt cs place '\x7d' := fun h => absurd (countsAt_unique hopen h) (by decide)
    rw [countIn_succ _ _ h.behind.le, countIn_succ _ _ h.behind.le, if_pos hopen, if_neg hclose, h.excess]
    omega

theorem Searching.closes (h : Searching cs opening depth place) (hdepth : depth - 1 ≠ 0)
    (hclose : CountsAt cs place '\x7d') : Searching cs opening (depth - 1) (place + 1) where
  behind := Nat.lt_succ_of_lt h.behind
  pos := Nat.pos_of_ne_zero hdepth
  excess := by
    have hopen : ¬ CountsAt cs place '\x7b' := fun h => absurd (countsAt_unique hclose h) (by decide)
    rw [countIn_succ _ _ h.behind.le, countIn_succ _ _ h.behind.le, if_pos hclose, if_neg hopen, h.excess]
    omega

theorem Searching.passes (h : Searching cs opening depth place) (hopen : ¬ CountsAt cs place '\x7b')
    (hclose : ¬ CountsAt cs place '\x7d') : Searching cs opening depth (place + 1) where
  behind := Nat.lt_succ_of_lt h.behind
  pos := h.pos
  excess := by
    rw [countIn_succ _ _ h.behind.le, countIn_succ _ _ h.behind.le, if_neg hopen, if_neg hclose, h.excess]
    omega

/-- The block is closed where the last open brace is closed, and nowhere else on the way. -/
theorem Searching.closesAt_iff (h : Searching cs opening depth place) :
    ClosesAt cs opening place ↔ CountsAt cs place '\x7d' ∧ depth = 1 := by
  constructor
  · intro hcloses
    have hopen : ¬ CountsAt cs place '\x7b' := fun hc =>
      absurd (countsAt_unique hc hcloses.counts) (by decide)
    have hbalances := hcloses.balances
    rw [countIn_succ _ _ h.behind.le, countIn_succ _ _ h.behind.le, if_pos hcloses.counts, if_neg hopen,
      h.excess] at hbalances
    exact ⟨hcloses.counts, by omega⟩
  · rintro ⟨hclose, rfl⟩
    have hopen : ¬ CountsAt cs place '\x7b' := fun hc => absurd (countsAt_unique hc hclose) (by decide)
    refine ⟨h.behind, hclose, ?_⟩
    rw [countIn_succ _ _ h.behind.le, countIn_succ _ _ h.behind.le, if_pos hclose, if_neg hopen, h.excess]

/-- What the search from a place on says about the places there. -/
def Answers (cs : List Char) (opening place : Nat) : Option Nat → Prop
  | some found => place ≤ found ∧ ClosesAt cs opening found ∧
      ∀ k, place ≤ k → k < found → ¬ ClosesAt cs opening k
  | none => ∀ k, place ≤ k → ¬ ClosesAt cs opening k

/-- A place at which the block is not closed adds nothing to an answer. -/
theorem Answers.before {answer : Option Nat} (h : Answers cs opening (place + 1) answer)
    (hplace : ¬ ClosesAt cs opening place) : Answers cs opening place answer := by
  have hearlier : ∀ k, place ≤ k → (place + 1 ≤ k → ¬ ClosesAt cs opening k) →
      ¬ ClosesAt cs opening k := by
    intro k hk hbehind
    rcases Nat.eq_or_lt_of_le hk with rfl | hlt
    · exact hplace
    · exact hbehind hlt
  cases answer with
  | none => exact fun k hk => hearlier k hk (h k)
  | some found =>
    obtain ⟨hle, hcloses, hleast⟩ := h
    exact ⟨Nat.le_of_succ_le hle, hcloses, fun k hk hlt => hearlier k hk fun hk' => hleast k hk' hlt⟩

/-- The search behind an opening brace: it gives the first place at which the block is closed, and its
count never goes below zero. The induction is on what is left of the text. -/
theorem Searching.answers (h : Searching cs opening depth place) (hrest : cs.drop place = rest) :
    Answers cs opening place
        (closingBraceFrom depth (Quoting.plain.run (cs.take place)) place rest) ∧
      strictClosingBraceFrom depth (Quoting.plain.run (cs.take place)) place rest =
        some (closingBraceFrom depth (Quoting.plain.run (cs.take place)) place rest) := by
  induction rest generalizing depth place with
  | nil =>
    refine ⟨fun k hk hcloses => ?_, rfl⟩
    have hnone : cs[k]? = none :=
      List.getElem?_eq_none (Nat.le_trans (List.drop_eq_nil_iff.mp hrest) hk)
    rw [hcloses.counts.2] at hnone
    cases hnone
  | cons c rest ih =>
    have hbehind := drop_succ hrest
    have hstep := run_take_succ hrest .plain
    have hopenIff := countsAt_iff hrest '\x7b'
    have hcloseIff := countsAt_iff hrest '\x7d'
    have hcloses := h.closesAt_iff
    generalize Quoting.plain.run (cs.take place) = q at hstep hopenIff hcloseIff ⊢
    rw [closingBraceFrom, strictClosingBraceFrom]
    by_cases hopen : q = .plain ∧ c = '\x7b'
    · have hcounts := hopenIff.mpr hopen
      obtain ⟨hanswers, hstrict⟩ := ih (h.opens hcounts) hbehind
      rw [hstep, hopen.1, step_plain_brace (.inl hopen.2), ← hopen.1] at hanswers hstrict
      rw [if_pos hopen, if_pos hopen]
      refine ⟨hanswers.before fun hat => ?_, hstrict⟩
      exact absurd (countsAt_unique hcounts hat.counts) (by decide)
    · rw [if_neg hopen, if_neg hopen]
      by_cases hclose : q = .plain ∧ c = '\x7d'
      · have hcounts := hcloseIff.mpr hclose
        rw [if_pos hclose, if_pos hclose, if_neg (Nat.ne_of_gt h.pos)]
        by_cases hdepth : depth - 1 = 0
        · rw [if_pos hdepth, if_pos hdepth]
          refine ⟨⟨le_rfl, hcloses.mpr ⟨hcounts, by have := h.pos; omega⟩, fun k hk hlt => ?_⟩, rfl⟩
          exact absurd hk (Nat.not_le.mpr hlt)
        · obtain ⟨hanswers, hstrict⟩ := ih (h.closes hdepth hcounts) hbehind
          rw [hstep, hclose.1, step_plain_brace (.inr hclose.2), ← hclose.1] at hanswers hstrict
          rw [if_neg hdepth, if_neg hdepth]
          refine ⟨hanswers.before fun hat => hdepth ?_, hstrict⟩
          rw [(hcloses.mp hat).2]
      · rw [if_neg hclose, if_neg hclose]
        have hnot : ¬ CountsAt cs place '\x7d' := fun hat => hclose (hcloseIff.mp hat)
        obtain ⟨hanswers, hstrict⟩ := ih (h.passes (fun hat => hopen (hopenIff.mp hat)) hnot) hbehind
        rw [hstep] at hanswers hstrict
        exact ⟨hanswers.before fun hat => hnot hat.counts, hstrict⟩

end

/-! ### The brace that closes a block -/

/-- What the search for a needle finds counts at its place. -/
theorem countsAt_of_firstOutside {needle : Char} {cs : List Char} {found : Nat}
    (h : firstOutside needle cs = some found) : CountsAt cs found needle := by
  suffices hfrom : ∀ rest place, cs.drop place = rest →
      firstOutsideFrom needle (Quoting.plain.run (cs.take place)) place rest = some found →
        CountsAt cs found needle from hfrom cs 0 rfl h
  intro rest
  induction rest with
  | nil =>
    intro place _ hfound
    cases hfound
  | cons c rest ih =>
    intro place hrest hfound
    rw [firstOutsideFrom] at hfound
    split at hfound
    · rename_i hcounts
      obtain rfl := Option.some.inj hfound
      exact (countsAt_iff hrest needle).mpr hcounts
    · rw [← run_take_succ hrest] at hfound
      exact ih (place + 1) (drop_succ hrest) hfound

/-- The search for the closing brace begins with the brace that was found, in the state in which the
search for that one came there. -/
theorem closingBrace_of_counts {cs : List Char} {opening : Nat} (h : CountsAt cs opening '\x7b') :
    closingBrace cs opening =
        closingBraceFrom 1 (Quoting.plain.run (cs.take (opening + 1))) (opening + 1)
          (cs.drop (opening + 1)) ∧
      strictClosingBraceFrom 0 .plain opening (cs.drop opening) =
        strictClosingBraceFrom 1 (Quoting.plain.run (cs.take (opening + 1))) (opening + 1)
          (cs.drop (opening + 1)) := by
  obtain ⟨hplain, hget⟩ := h
  have hrest : cs.drop opening = '\x7b' :: cs.drop (opening + 1) := by
    obtain ⟨hlt, hchar⟩ := List.getElem?_eq_some_iff.mp hget
    rw [List.drop_eq_getElem_cons hlt, hchar]
  have hstate : Quoting.plain.run (cs.take (opening + 1)) = .plain := by
    rw [run_take_succ hrest, hplain, step_plain_brace (.inl rfl)]
  rw [closingBrace, hstate, hrest, closingBraceFrom, strictClosingBraceFrom, if_pos ⟨rfl, rfl⟩,
    if_pos ⟨rfl, rfl⟩]
  exact ⟨rfl, rfl⟩

theorem answers_closingBrace {cs : List Char} {opening : Nat}
    (h : firstOutside '\x7b' cs = some opening) :
    Answers cs opening (opening + 1) (closingBrace cs opening) ∧
      strictClosingBraceFrom 0 .plain opening (cs.drop opening) = some (closingBrace cs opening) := by
  have hcounts := countsAt_of_firstOutside h
  obtain ⟨hsearch, hstrict⟩ := closingBrace_of_counts hcounts
  rw [hsearch, hstrict]
  exact (searching_start hcounts).answers rfl

/-- A brace that is found for an opening brace closes its block. -/
theorem closesAt_of_closingBrace {cs : List Char} {opening closing : Nat}
    (hopen : firstOutside '\x7b' cs = some opening) (h : closingBrace cs opening = some closing) :
    ClosesAt cs opening closing := by
  have hanswers := (answers_closingBrace hopen).1
  rw [h] at hanswers
  exact hanswers.2.1

/-- The brace that is found for an opening brace is the first one behind it at which the braces that
count balance; none is found exactly if there is none; and the search never closes more braces than it
has opened. -/
theorem closingBrace_isLeast {cs : List Char} {opening : Nat}
    (h : firstOutside '\x7b' cs = some opening) :
    (∀ closing, closingBrace cs opening = some closing ↔
        IsLeast {place | ClosesAt cs opening place} closing) ∧
      (closingBrace cs opening = none ↔ ∀ place, ¬ ClosesAt cs opening place) ∧
      strictClosingBraceFrom 0 .plain opening (cs.drop opening) = some (closingBrace cs opening) := by
  obtain ⟨hanswers, hstrict⟩ := answers_closingBrace h
  cases hanswer : closingBrace cs opening with
  | none =>
    rw [hanswer] at hanswers hstrict
    have hnone : ∀ place, ¬ ClosesAt cs opening place := fun place hat => hanswers place hat.behind hat
    exact ⟨fun closing => iff_of_false (by simp) fun hleast => hnone closing hleast.1,
      iff_of_true rfl hnone, hstrict⟩
  | some found =>
    rw [hanswer] at hanswers hstrict
    obtain ⟨-, hat, hbefore⟩ := hanswers
    have hleast : IsLeast {place | ClosesAt cs opening place} found :=
      ⟨hat, fun k hk => Nat.not_lt.mp fun hlt => hbefore k hk.behind hlt hk⟩
    refine ⟨fun closing => ⟨?_, fun hother => ?_⟩, ?_, hstrict⟩
    · intro heq
      obtain rfl := Option.some.inj heq
      exact hleast
    · rw [hleast.unique hother]
    · exact iff_of_false (by simp) fun hnone => hnone found hat

/-- The text `a\{b{'}'{}"\"}"}}c`: an escaped brace, braces in strings and one block in another. -/
def nestedBraces : List Char := "a\\\x7bb\x7b'\x7d'\x7b\x7d\"\\\"\x7d\"\x7d\x7dc".toList

theorem closingBrace_nestedBraces :
    firstOutside '\x7b' nestedBraces = some 4 ∧ closingBrace nestedBraces 4 = some 15 ∧
      IsLeast {place | ClosesAt nestedBraces 4 place} 15 :=
  ⟨by decide, by decide, ((closingBrace_isLeast (by decide)).1 15).mp (by decide)⟩

end PageBlocks.Style
