import Mathlib.Data.List.Basic
import PageBlocks.Json.Value

/-!
The fields of an object by their keys. A field that is written has its value from then on, and the other
fields keep theirs, in whatever order the fields stand. So the sorted fields have the value that was
written last for each key.
-/
namespace PageBlocks.Json

namespace Fields

theorem lookup_insert_self (key : String) (value : Json) (fields : Fields) :
    (fields.insert key value).lookup key = some value := by
  induction fields with
  | nil => exact List.lookup_cons_self
  | cons field fields ih =>
    obtain ⟨k, v⟩ := field
    rw [insert]
    split_ifs with hkey hlt
    · exact List.lookup_cons_self
    · exact List.lookup_cons_self
    · have hne : (key == k) = false := beq_false_of_ne fun he => hkey he.symm
      rw [List.lookup_cons, hne]
      exact ih

theorem lookup_insert_of_ne {key other : String} (hne : other ≠ key) (value : Json)
    (fields : Fields) : (fields.insert key value).lookup other = fields.lookup other := by
  have hmiss : (other == key) = false := beq_false_of_ne hne
  induction fields with
  | nil => rw [insert, List.lookup_cons, hmiss]
  | cons field fields ih =>
    obtain ⟨k, v⟩ := field
    rw [insert]
    split_ifs with hkey hlt
    · rw [List.lookup_cons, List.lookup_cons, hkey, hmiss]
    · rw [List.lookup_cons, hmiss]
    · rw [List.lookup_cons, List.lookup_cons, ih]

/-- Of the fields with one key, the last one that was written counts. -/
theorem lookup_sorted (key : String) (fields : Fields) :
    fields.sorted.lookup key = fields.reverse.lookup key := by
  have hall (done : Fields) :
      (fields.foldl (fun acc field => acc.insert field.1 field.2) done).lookup key =
        (fields.reverse ++ done).lookup key := by
    induction fields generalizing done with
    | nil => rfl
    | cons field fields ih =>
      obtain ⟨k, v⟩ := field
      rw [List.foldl_cons, ih, List.reverse_cons, List.append_assoc, List.lookup_append,
        List.lookup_append]
      congr 1
      by_cases hkey : key = k
      · subst hkey
        rw [lookup_insert_self]
        exact List.lookup_cons_self.symm
      · have hmiss : (key == k) = false := beq_false_of_ne hkey
        rw [lookup_insert_of_ne hkey, List.singleton_append, List.lookup_cons, hmiss]
  exact (hall []).trans (by rw [List.append_nil])

end Fields

/-! ### Parts of a value -/

/-- The value of a field of an object. -/
def field? (key : String) : Json → Option Json
  | obj fields => fields.lookup key
  | _ => none

/-- The text of a string. -/
def asText? : Json → Option String
  | str s => some s
  | _ => none

/-- A number that is not negative. -/
def asNumber? : Json → Option Nat
  | int n => n.toNat?
  | _ => none

theorem field?_sortedObj (key : String) (fields : Fields) :
    (sortedObj fields).field? key = fields.reverse.lookup key :=
  fields.lookup_sorted key

end PageBlocks.Json
