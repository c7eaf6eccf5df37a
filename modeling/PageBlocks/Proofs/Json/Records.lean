import Mathlib.Data.List.Nodup
import Mathlib.Data.Option.Basic
import PageBlocks.Json.Decode
import PageBlocks.Proofs.Json.Reread

/-!
Records read back. Each sort of value is taken out of what the reader makes of its text, and a record whose
fields have different names comes back field by field.
-/
namespace PageBlocks.Json

/-- The compact text of a value is read as the value. -/
theorem read?_toText (j : Json) : read? j.toText = some j.reading := by
  have htext : j.toText = String.ofList (j.chars escape []) := by
    rw [← toText_toList, String.ofList_toList]
  rw [htext, read?_chars spells_escape]

theorem readingFields_eq (fields : Fields) :
    readingFields fields = fields.map fun f => (some f.1, f.2.reading) := by
  induction fields with
  | nil => rfl
  | cons f fields ih =>
    obtain ⟨key, value⟩ := f
    rw [readingFields, ih]
    rfl

/-- In fields with different names, each has its own value. -/
theorem lookup_readingFields {fields : Fields} (h : (fields.map (·.1)).Nodup) {f : String × Json}
    (hf : f ∈ fields) : (readingFields fields).lookup (some f.1) = some f.2.reading := by
  induction fields with
  | nil => cases hf
  | cons g fields ih =>
    rw [List.map_cons, List.nodup_cons] at h
    obtain ⟨key, value⟩ := g
    rw [readingFields]
    rcases List.mem_cons.mp hf with rfl | hf
    · exact List.lookup_cons_self
    · have hne : (some f.1 == some key) = false := by
        rw [Option.some_beq_some]
        refine beq_false_of_ne fun heq => h.1 ?_
        exact List.mem_map.mpr ⟨f, hf, heq⟩
      rw [List.lookup_cons, hne]
      exact ih h.2 hf

namespace Decoder

variable {α : Type}

/-- The fields of a record are found in the order of their names. -/
theorem slots_reading (fields : Fields) (h : (fields.map (·.1)).Nodup) :
    slots (fields.map (·.1)) (obj fields).reading = some (fields.map fun f => some f.2.reading) := by
  have hkeys : (readingFields fields).map (·.1) = (fields.map (·.1)).map some := by
    rw [readingFields_eq, List.map_map, List.map_map]
    rfl
  have hwhole : ((fields.map (·.1)).map some).contains none = false := by
    simp
  have honce : (fields.map (·.1)).any
      (fun name => decide (1 < ((fields.map (·.1)).map some).count (some name))) = false := by
    rw [List.any_eq_false]
    intro name _
    have hcount := List.nodup_iff_count_le_one.mp (h.map (Option.some_injective _)) (some name)
    simpa using hcount
  rw [reading, slots, hkeys, hwhole, honce, if_neg (by simp), Option.some_inj, List.map_map]
  exact List.map_congr_left fun f hf => lookup_readingFields h hf

theorem word64_int {n : Nat} (h : n < 18446744073709551616) : word64 (.int n) = some (UInt64.ofNat n) := by
  have hbound : 0 ≤ (n : Int) ∧ (n : Int) < 18446744073709551616 := by omega
  rw [word64, if_pos hbound, Int.toNat_natCast]

theorem word64_reading (w : UInt64) : word64 (word w).reading = some w := by
  have h := word64_int w.toNat_lt
  rw [UInt64.ofNat_toNat] at h
  exact h

theorem optional_str_reading (s : Option String) : optional str (optStr s).reading = some s := by
  cases s <;> rfl

theorem optional_word64_reading (w : Option UInt64) : optional word64 (optWord w).reading = some w := by
  cases w with
  | none => rfl
  | some w =>
    have hword := word64_reading w
    rw [word, nat, reading] at hword
    rw [optWord, word, nat, reading, optional, hword, Option.map_some]
    exact fun h => nomatch h

/-- A value goes by its name. -/
theorem name_reading {names : List (String × α)} {value : α} {key : String}
    (h : names.lookup key = some value) : name names (Json.str key).reading = some value := h

end Decoder

end PageBlocks.Json
