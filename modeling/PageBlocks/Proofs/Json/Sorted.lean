import PageBlocks.Proofs.Json.Reread

/-!
Values whose objects have their fields in the order of their keys, at every depth. These are the
values that an object type without an order of its own can hold: sorting leaves them as they are, so
what is read from their text is the value itself.
-/
namespace PageBlocks.Json

/-- The keys of the fields go up. -/
def Fields.Ascending (fields : Fields) : Prop := fields.Pairwise fun a b => a.1 < b.1

mutual

def Sorted : Json → Prop
  | null => True
  | bool _ => True
  | int _ => True
  | real _ => True
  | str _ => True
  | arr items => SortedItems items
  | obj fields => Fields.Ascending fields ∧ SortedFields fields

def SortedItems : List Json → Prop
  | [] => True
  | item :: items => item.Sorted ∧ SortedItems items

def SortedFields : List (String × Json) → Prop
  | [] => True
  | (_, value) :: fields => value.Sorted ∧ SortedFields fields

end

theorem sortedFields_iff (fields : Fields) :
    SortedFields fields ↔ ∀ field ∈ fields, field.2.Sorted := by
  induction fields with
  | nil => simp [SortedFields]
  | cons field fields ih => simp [SortedFields, ih]

/-! ### Writing a field -/

namespace Fields

theorem insert_last {key : String} (value : Json) {fields : Fields}
    (h : ∀ field ∈ fields, field.1 < key) : fields.insert key value = fields ++ [(key, value)] := by
  induction fields with
  | nil => rfl
  | cons field fields ih =>
    have hlt : field.1 < key := h field List.mem_cons_self
    have hne : field.1 ≠ key := by
      intro he
      rw [he] at hlt
      exact String.lt_irrefl key hlt
    have hrest := ih fun field hf => h field (List.mem_cons_of_mem _ hf)
    rw [insert, if_neg hne, if_neg (String.lt_asymm hlt), hrest]
    rfl

theorem mem_insert {key : String} {value : Json} {fields : Fields} {field : String × Json}
    (h : field ∈ fields.insert key value) : field = (key, value) ∨ field ∈ fields := by
  induction fields with
  | nil => simpa [insert] using h
  | cons first fields ih =>
    rw [insert] at h
    split at h
    · simp only [List.mem_cons] at h ⊢
      tauto
    · split at h
      · simpa using h
      · simp only [List.mem_cons] at h ⊢
        rcases h with h | h
        · exact .inr (.inl h)
        · rcases ih h with h | h
          · exact .inl h
          · exact .inr (.inr h)

theorem ascending_insert (key : String) (value : Json) {fields : Fields}
    (h : fields.Ascending) : (fields.insert key value).Ascending := by
  induction fields with
  | nil => exact List.pairwise_singleton ..
  | cons first fields ih =>
    obtain ⟨hfirst, hrest⟩ := List.pairwise_cons.mp h
    rw [insert]
    split
    · next he =>
      refine List.pairwise_cons.mpr ⟨fun field hf => ?_, hrest⟩
      simpa [← he] using hfirst field hf
    · next hne =>
      split
      · next hlt =>
        refine List.pairwise_cons.mpr ⟨fun field hf => ?_, h⟩
        rcases List.mem_cons.mp hf with rfl | hf
        · exact hlt
        · exact String.lt_trans hlt (hfirst field hf)
      · next hnlt =>
        refine List.pairwise_cons.mpr ⟨fun field hf => ?_, ih hrest⟩
        rcases mem_insert hf with rfl | hf
        · by_contra hle
          exact hne (String.le_antisymm (String.not_lt.mp hnlt) (String.not_lt.mp hle))
        · exact hfirst field hf

/-! ### Sorting -/

theorem ascending_sorted (fields : Fields) : fields.sorted.Ascending := by
  have h (done : Fields) (hdone : done.Ascending) :
      (fields.foldl (fun acc field => acc.insert field.1 field.2) done).Ascending := by
    induction fields generalizing done with
    | nil => exact hdone
    | cons field fields ih => exact ih _ (ascending_insert field.1 field.2 hdone)
  exact h [] .nil

theorem mem_sorted {fields : Fields} {field : String × Json} (h : field ∈ fields.sorted) :
    field ∈ fields := by
  have hall (done : Fields) :
      field ∈ fields.foldl (fun acc f => acc.insert f.1 f.2) done →
        field ∈ done ∨ field ∈ fields := by
    clear h
    induction fields generalizing done with
    | nil => exact .inl
    | cons first fields ih =>
      intro h
      rcases ih _ h with h | h
      · rcases mem_insert h with rfl | h
        · exact .inr List.mem_cons_self
        · exact .inl h
      · exact .inr (List.mem_cons_of_mem _ h)
  simpa using hall [] h

theorem insert_perm {key : String} (value : Json) {fields : Fields}
    (h : ∀ field ∈ fields, field.1 ≠ key) :
    (fields.insert key value).Perm ((key, value) :: fields) := by
  induction fields with
  | nil => exact .refl _
  | cons first fields ih =>
    have hne : first.1 ≠ key := h first List.mem_cons_self
    rw [insert, if_neg hne]
    split
    · exact .refl _
    · have hrest := ih fun field hf => h field (List.mem_cons_of_mem first hf)
      exact (hrest.cons first).trans (.swap _ _ _)

/-- Sorting keeps fields with different keys. -/
theorem sorted_perm {fields : Fields} (h : (fields.map (·.1)).Nodup) :
    fields.sorted.Perm fields := by
  have hall (done : Fields) (hdone : ((done ++ fields).map (·.1)).Nodup) :
      (fields.foldl (fun (acc : Fields) field => acc.insert field.1 field.2) done).Perm
        (done ++ fields) := by
    clear h
    induction fields generalizing done with
    | nil => simp
    | cons field fields ih =>
      have hnew : ∀ f ∈ done, f.1 ≠ field.1 := by
        intro f hf
        rw [List.map_append, List.map_cons] at hdone
        exact (List.nodup_append.mp hdone).2.2 f.1 (List.mem_map_of_mem hf) field.1
          List.mem_cons_self
      have hinsert := insert_perm field.2 hnew
      have hmiddle : (done.insert field.1 field.2 ++ fields).Perm (done ++ field :: fields) :=
        (hinsert.append_right fields).trans List.perm_middle.symm
      have hrest := ih (done.insert field.1 field.2) ((hmiddle.map (·.1)).nodup_iff.mpr hdone)
      exact hrest.trans hmiddle
  exact hall [] h

/-- Fields that are in order stay as they are. -/
theorem sorted_of_ascending {fields : Fields} (h : fields.Ascending) : fields.sorted = fields := by
  have hall (done : Fields) (hdone : Ascending (done ++ fields)) :
      fields.foldl (fun acc field => acc.insert field.1 field.2) done = done ++ fields := by
    clear h
    induction fields generalizing done with
    | nil => simp
    | cons field fields ih =>
      have hlast : ∀ f ∈ done, f.1 < field.1 := fun f hf =>
        (List.pairwise_append.mp hdone).2.2 f hf field List.mem_cons_self
      rw [List.foldl_cons, insert_last field.2 hlast, ih]
      · simp
      · simpa using hdone
  exact hall [] h

end Fields

theorem mem_stringsFields {fields : Fields} {s : String} :
    s ∈ stringsFields fields ↔ ∃ field ∈ fields, s = field.1 ∨ s ∈ field.2.strings := by
  induction fields with
  | nil => simp [stringsFields]
  | cons field fields ih => simp [stringsFields, ih, or_assoc]

/-- The strings of an object do not depend on the order of its fields. -/
theorem mem_stringsFields_sorted {fields : Fields} (h : (fields.map (·.1)).Nodup) {s : String} :
    s ∈ stringsFields fields.sorted ↔ s ∈ stringsFields fields := by
  simp only [mem_stringsFields, (Fields.sorted_perm h).mem_iff]

/-! ### Values that are read -/

mutual

theorem toJson?_reading (j : Json) (h : j.Sorted) : j.reading.toJson? = some j := by
  match j with
  | null => rfl
  | bool _ => rfl
  | int _ => rfl
  | real _ => rfl
  | str _ => rfl
  | arr items => simp [reading, Reading.toJson?, itemsToJson?_reading items h]
  | obj fields =>
    simp [reading, Reading.toJson?, fieldsToJson?_reading fields h.2, sortedObj,
      Fields.sorted_of_ascending h.1]

theorem itemsToJson?_reading (items : List Json) (h : SortedItems items) :
    Reading.itemsToJson? (readingItems items) = some items := by
  match items with
  | [] => rfl
  | item :: items =>
    simp [readingItems, Reading.itemsToJson?, toJson?_reading item h.1,
      itemsToJson?_reading items h.2]

theorem fieldsToJson?_reading (fields : Fields) (h : SortedFields fields) :
    Reading.fieldsToJson? (readingFields fields) = some fields := by
  match fields with
  | [] => rfl
  | (key, value) :: fields =>
    simp [readingFields, Reading.fieldsToJson?, toJson?_reading value h.1,
      fieldsToJson?_reading fields h.2]

end

end PageBlocks.Json
