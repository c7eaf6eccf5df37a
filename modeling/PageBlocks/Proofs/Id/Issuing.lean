import Mathlib.Algebra.Group.Nat.Defs
import Mathlib.Data.List.Nodup
import Mathlib.Data.List.Perm.Subperm
import Mathlib.Data.Nat.Find
import Mathlib.Logic.Function.Iterate
import PageBlocks.Id.ElementId
import Std.Data.HashSet.Lemmas

/-!
Ids that are issued one after the other. Whatever the words of the source, the id that comes next is the
first one drawn that has not been issued, if there is one; so ids that are issued in a run are all
different, and they differ as texts, since each id has its own seven digits.
-/
namespace PageBlocks

/-! ### The text of an id -/

namespace Text

theorem hexDigit_inj {m n : Nat} (hm : m < 16) (hn : n < 16) (h : hexDigit m = hexDigit n) : m = n := by
  have hvalue := congrArg (digitValue? 16) h
  rw [digitValue?_hexDigit hm, digitValue?_hexDigit hn] at hvalue
  exact Option.some.inj hvalue

/-- Numbers that fit into so many digits are told apart by them. -/
theorem hexDigits_inj {width m n : Nat} (hm : m < 16 ^ width) (hn : n < 16 ^ width)
    (h : hexDigits width m = hexDigits width n) : m = n := by
  induction width generalizing m n with
  | zero => omega
  | succ width ih =>
    obtain ⟨hhigh, hlow⟩ := List.append_inj' h rfl
    have hdigit := hexDigit_inj (Nat.mod_lt m (by decide)) (Nat.mod_lt n (by decide))
      (List.singleton_inj.mp hlow)
    rw [Nat.pow_succ] at hm hn
    have hrest := ih (by omega) (by omega) hhigh
    omega

/-- The digits `0` to `9` and the small letters `a` to `f`. -/
def isSmallHexDigit (c : Char) : Bool := c.isDigit || ('a' ≤ c && c ≤ 'f')

theorem isSmallHexDigit_of_mem {width n : Nat} {c : Char} (h : c ∈ hexDigits width n) :
    isSmallHexDigit c = true := by
  have hall : ∀ m ∈ List.range 16, isSmallHexDigit (hexDigit m) = true := by decide
  induction width generalizing n with
  | zero => cases h
  | succ width ih =>
    rcases List.mem_append.mp h with h | h
    · exact ih h
    · rw [List.mem_singleton.mp h]
      exact hall _ (List.mem_range.mpr (Nat.mod_lt n (by decide)))

end Text

namespace ElementId

/-- How many ids there are. -/
def bound : Nat := 16 ^ width

theorem ofWord_lt (w : UInt32) : ofWord w < bound := by
  have hword := w.toNat_lt
  change w.toNat >>> 4 < 268435456
  rw [Nat.shiftRight_eq_div_pow]
  omega

theorem toString_inj {m n : Nat} (hm : m < bound) (hn : n < bound) (h : toString m = toString n) :
    m = n :=
  Text.hexDigits_inj hm hn (String.ofList_injective h)

/-- Seven hexadecimal digits, with small letters. -/
def IsWritten (s : String) : Prop :=
  s.toList.length = width ∧ ∀ c ∈ s.toList, Text.isSmallHexDigit c = true

theorem isWritten_toString (id : Nat) : IsWritten (toString id) := by
  rw [IsWritten, toString, String.toList_ofList]
  exact ⟨Text.length_hexDigits width id, fun c hc => Text.isSmallHexDigit_of_mem hc⟩

end ElementId

/-! ### One id -/

variable {ρ : Type}

/-- A source after so many words. -/
def WordSource.after (words : WordSource ρ) (source : ρ) (n : Nat) : ρ :=
  (fun source => (words source).2)^[n] source

/-- The id that a source draws after so many words. -/
def WordSource.drawn (words : WordSource ρ) (source : ρ) (n : Nat) : Nat :=
  ElementId.ofWord (words (words.after source n)).1

namespace IdIssuer

variable (words : WordSource ρ)

theorem draw?_of_issued {issued : Std.HashSet Nat} {source : ρ}
    (h : words.drawn source 0 ∈ issued) :
    draw? words issued source = draw? words issued (words source).2 := by
  rw [draw?]
  exact if_pos h

theorem draw?_of_fresh {issued : Std.HashSet Nat} {source : ρ}
    (h : words.drawn source 0 ∉ issued) :
    draw? words issued source = some (words.drawn source 0, words.after source 1) := by
  rw [draw?]
  exact if_neg h

/-- The first draw that has not been issued is taken. -/
theorem draw?_of_first {issued : Std.HashSet Nat} {source : ρ} {n : Nat}
    (hfresh : words.drawn source n ∉ issued) (hissued : ∀ k < n, words.drawn source k ∈ issued) :
    draw? words issued source = some (words.drawn source n, words.after source (n + 1)) := by
  induction n generalizing source with
  | zero => exact draw?_of_fresh words hfresh
  | succ n ih =>
    rw [draw?_of_issued words (hissued 0 (by omega))]
    exact ih hfresh fun k hk => hissued (k + 1) (by omega)

/-- If some word draws an id that has not been issued, a first one does. -/
theorem exists_first {issued : Std.HashSet Nat} {source : ρ}
    (h : ∃ n, words.drawn source n ∉ issued) :
    ∃ n, words.drawn source n ∉ issued ∧ ∀ k < n, words.drawn source k ∈ issued := by
  classical
  exact ⟨Nat.find h, Nat.find_spec h, fun k hk => not_not.mp (Nat.find_min h hk)⟩

/-- Drawing has a result exactly if some word draws an id that has not been issued. -/
theorem isSome_draw?_iff (issued : Std.HashSet Nat) (source : ρ) :
    (draw? words issued source).isSome = true ↔ ∃ n, words.drawn source n ∉ issued := by
  constructor
  · intro h
    obtain ⟨result, hresult⟩ := Option.isSome_iff_exists.mp h
    refine draw?.partial_correctness words issued (fun source _ => ∃ n, words.drawn source n ∉ issued)
      ?_ source result hresult
    intro draw? ih source result hstep
    by_cases hissued : words.drawn source 0 ∈ issued
    · obtain ⟨n, hn⟩ := ih _ result ((if_pos hissued).symm.trans hstep)
      exact ⟨n + 1, hn⟩
    · exact ⟨0, hissued⟩
  · intro h
    obtain ⟨n, hfresh, hissued⟩ := exists_first words h
    rw [draw?_of_first words hfresh hissued]
    rfl

/-- The next id is the first one drawn that has not been issued, and it is issued from then on. -/
theorem next_eq {s : IdIssuer ρ} (h : ∃ n, words.drawn s.source n ∉ s.issued) :
    ∃ n, words.drawn s.source n ∉ s.issued ∧ (∀ k < n, words.drawn s.source k ∈ s.issued) ∧
      s.next words = (ElementId.toString (words.drawn s.source n),
        ⟨words.after s.source (n + 1), s.issued.insert (words.drawn s.source n)⟩) := by
  obtain ⟨n, hfresh, hissued⟩ := exists_first words h
  refine ⟨n, hfresh, hissued, ?_⟩
  simp only [next, draw?_of_first words hfresh hissued]

/-! ### A run of ids -/

/-- The next so many draws have a result each. -/
def Supplies : Nat → IdIssuer ρ → Prop
  | 0, _ => True
  | n + 1, s => (draw? words s.issued s.source).isSome = true ∧ Supplies n (s.next words).2

theorem takeFrom_succ (done : List String) (n : Nat) (s : IdIssuer ρ) :
    takeFrom words done (n + 1) s = takeFrom words ((s.next words).1 :: done) n (s.next words).2 := rfl

theorem takeFrom_eq (done : List String) (n : Nat) (s : IdIssuer ρ) :
    takeFrom words done n s = (done.reverse ++ (take words n s).1, (take words n s).2) := by
  induction n generalizing done s with
  | zero => simp [takeFrom, take]
  | succ n ih =>
    rw [take, takeFrom_succ, takeFrom_succ, ih, ih]
    simp

theorem take_succ (n : Nat) (s : IdIssuer ρ) :
    take words (n + 1) s =
      ((s.next words).1 :: (take words n (s.next words).2).1, (take words n (s.next words).2).2) := by
  rw [take, takeFrom_succ, takeFrom_eq]
  rfl

/-- Ids taken in two goes are as good as taken in one. -/
theorem take_add (m n : Nat) (s : IdIssuer ρ) :
    take words (m + n) s =
      ((take words m s).1 ++ (take words n (take words m s).2).1,
        (take words n (take words m s).2).2) := by
  induction m generalizing s with
  | zero =>
    rw [Nat.zero_add]
    rfl
  | succ m ih =>
    rw [Nat.succ_add_eq_add_succ, Nat.add_succ, take_succ, ih, take_succ]
    rfl

theorem length_take (n : Nat) (s : IdIssuer ρ) : (take words n s).1.length = n := by
  induction n generalizing s with
  | zero => rfl
  | succ n ih => rw [take_succ, List.length_cons, ih]

/-- The ids of a run are all different, and different from those issued before. -/
theorem take_spec {n : Nat} {s : IdIssuer ρ} (h : Supplies words n s) :
    ∃ ids : List Nat, (take words n s).1 = ids.map ElementId.toString ∧ ids.Nodup ∧
      ∀ id ∈ ids, id ∉ s.issued ∧ id < ElementId.bound := by
  induction n generalizing s with
  | zero => exact ⟨[], rfl, List.nodup_nil, by simp⟩
  | succ n ih =>
    obtain ⟨hdraw, hrest⟩ := h
    obtain ⟨k, hk, -, hnext⟩ := next_eq words ((isSome_draw?_iff words _ _).mp hdraw)
    obtain ⟨ids, hids, hnodup, hnew⟩ := ih hrest
    rw [hnext] at hids hnew
    refine ⟨words.drawn s.source k :: ids, ?_, List.nodup_cons.mpr ⟨fun hmem => ?_, hnodup⟩, ?_⟩
    · rw [take_succ, hnext, hids, List.map_cons]
    · exact (hnew _ hmem).1 Std.HashSet.mem_insert_self
    · intro other hother
      rcases List.mem_cons.mp hother with rfl | hother
      · exact ⟨hk, ElementId.ofWord_lt _⟩
      · obtain ⟨hmiss, hlt⟩ := hnew other hother
        exact ⟨fun hmem => hmiss (Std.HashSet.mem_insert.mpr (.inr hmem)), hlt⟩

theorem nodup_take {n : Nat} {s : IdIssuer ρ} (h : Supplies words n s) : (take words n s).1.Nodup := by
  obtain ⟨ids, hids, hnodup, hnew⟩ := take_spec words h
  rw [hids]
  exact hnodup.map_on fun m hm n hn =>
    ElementId.toString_inj (hnew m hm).2 (hnew n hn).2

theorem isWritten_take {n : Nat} {s : IdIssuer ρ} (h : Supplies words n s) :
    ∀ id ∈ (take words n s).1, ElementId.IsWritten id := by
  obtain ⟨ids, hids, -, -⟩ := take_spec words h
  rw [hids]
  intro id hid
  obtain ⟨m, -, rfl⟩ := List.mem_map.mp hid
  exact ElementId.isWritten_toString m

/-! ### Sources that have enough ids -/

theorem drawn_after (source : ρ) (m n : Nat) :
    words.drawn (words.after source m) n = words.drawn source (m + n) := by
  rw [WordSource.drawn, WordSource.drawn, WordSource.after, WordSource.after, WordSource.after,
    ← Function.iterate_add_apply, Nat.add_comm]

/-- A source supplies as many ids as it draws different ones in a row. -/
theorem supplies_of_distinct {n : Nat} {s : IdIssuer ρ}
    (hnew : ∀ k < n, words.drawn s.source k ∉ s.issued)
    (hdistinct : ∀ k < n, ∀ j < k, words.drawn s.source j ≠ words.drawn s.source k) :
    Supplies words n s := by
  induction n generalizing s with
  | zero => trivial
  | succ n ih =>
    have hfirst := hnew 0 (by omega)
    have hnext : (s.next words).2 =
        ⟨words.after s.source 1, s.issued.insert (words.drawn s.source 0)⟩ := by
      simp only [next, draw?_of_fresh words hfirst]
    refine ⟨(isSome_draw?_iff words _ _).mpr ⟨0, hfirst⟩, ?_⟩
    rw [hnext]
    apply ih
    · intro k hk hmem
      rw [drawn_after, Nat.add_comm] at hmem
      rcases Std.HashSet.mem_insert.mp hmem with hsame | hold
      · exact hdistinct (k + 1) (by omega) 0 (by omega) (beq_iff_eq.mp hsame)
      · exact hnew (k + 1) (by omega) hold
    · intro k hk j hj
      rw [drawn_after, drawn_after]
      exact hdistinct (1 + k) (by omega) (1 + j) (by omega)

/-- As long as not all ids have been issued there is one left. -/
theorem exists_notMem_of_size_lt {issued : Std.HashSet Nat} (h : issued.size < ElementId.bound) :
    ∃ id < ElementId.bound, id ∉ issued := by
  by_contra hall
  push Not at hall
  have hsubset : List.range ElementId.bound ⊆ issued.toList := fun id hid =>
    Std.HashSet.mem_toList.mpr (hall id (List.mem_range.mp hid))
  have hlength := (List.nodup_range.subperm hsubset).length_le
  rw [List.length_range, Std.HashSet.length_toList] at hlength
  omega

/-- A source that draws each id again and again supplies ids until all are issued. -/
theorem supplies_of_recurring {n : Nat} {s : IdIssuer ρ}
    (hrecur : ∀ id < ElementId.bound, ∀ m, ∃ k, words.drawn s.source (m + k) = id)
    (hroom : s.size + n ≤ ElementId.bound) : Supplies words n s := by
  induction n generalizing s with
  | zero => trivial
  | succ n ih =>
    have hsize : s.issued.size < ElementId.bound := by
      rw [size] at hroom
      omega
    obtain ⟨id, hid, hfree⟩ := exists_notMem_of_size_lt hsize
    obtain ⟨k, hk⟩ := hrecur id hid 0
    have hfresh : ∃ k, words.drawn s.source k ∉ s.issued := ⟨0 + k, hk ▸ hfree⟩
    obtain ⟨first, hfirst, -, hnext⟩ := next_eq words hfresh
    refine ⟨(isSome_draw?_iff words _ _).mpr hfresh, ?_⟩
    rw [hnext]
    apply ih
    · intro id hid m
      obtain ⟨k, hk⟩ := hrecur id hid (first + 1 + m)
      exact ⟨k, by rw [drawn_after, ← Nat.add_assoc, hk]⟩
    · rw [size, Std.HashSet.size_insert, if_neg hfirst]
      rw [size] at hroom
      omega

end IdIssuer

end PageBlocks
