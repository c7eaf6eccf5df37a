import PageBlocks.Block.Stamp
import PageBlocks.Convert.Config
import PageBlocks.Proofs.Text.Words

/-!
Stamps that are put on one after the other. A class attribute that has been stamped is trimmed, and from
then on a further stamp only adds itself behind what is there. So all stamps stay among the classes,
and one that is there already changes nothing.
-/
namespace PageBlocks

/-! ### Class attributes -/

theorem trim_stampClasses (classes : String) {stamp : String} (h : Text.IsWord stamp) :
    Text.trim (stampClasses classes stamp) = stampClasses classes stamp := by
  unfold stampClasses
  dsimp only
  split
  · exact Text.trim_trim classes
  · split
    · exact Text.trim_word h
    · rename_i hne
      exact Text.trim_append_word (by simpa [String.isEmpty_iff] using hne) h

theorem words_trim_append {classes stamp : String} (h : Text.IsWord stamp) :
    Text.words (Text.trim classes ++ " " ++ stamp) = Text.words (Text.trim classes) ++ [stamp] := by
  apply Text.words_append_word _ h
  intro x hx
  rw [Text.trim, String.toList_ofList] at hx
  exact Text.not_isAsciiBlank_of_not_isBlank (Text.not_isBlank_last hx)

/-- The stamp is among the classes once it has been put on. -/
theorem mem_words_stampClasses (classes : String) {stamp : String} (h : Text.IsWord stamp) :
    stamp ∈ Text.words (stampClasses classes stamp) := by
  unfold stampClasses
  dsimp only
  split
  · rename_i hthere
    simpa using hthere
  · split
    · simp [Text.words_word h]
    · simp [words_trim_append h]

/-- A class of a trimmed attribute stays when a stamp is put on. -/
theorem mem_words_of_trimmed {classes stamp word : String} (h : Text.IsWord stamp)
    (htrim : Text.trim classes = classes) (hword : word ∈ Text.words classes) :
    word ∈ Text.words (stampClasses classes stamp) := by
  unfold stampClasses
  dsimp only
  split
  · rwa [htrim]
  · split
    · rename_i hempty
      rw [htrim, String.isEmpty_iff] at hempty
      rw [hempty] at hword
      cases hword
    · rw [words_trim_append h, htrim]
      exact List.mem_append_left _ hword

/-- A stamp that is there already is not put on again. -/
theorem stampClasses_of_mem {classes stamp : String} (htrim : Text.trim classes = classes)
    (hmem : stamp ∈ Text.words classes) : stampClasses classes stamp = classes := by
  unfold stampClasses
  dsimp only
  rw [htrim, if_pos (by simpa using hmem)]

/-- What holds of the characters of a class attribute, of a space and of those of a stamp holds of the
characters of the attribute with the stamp. -/
theorem forall_mem_stampClasses {P : Char → Prop} {classes stamp : String}
    (hclasses : ∀ c ∈ classes.toList, P c) (hspace : P ' ') (hstamp : ∀ c ∈ stamp.toList, P c) :
    ∀ c ∈ (stampClasses classes stamp).toList, P c := by
  have htrim : ∀ c ∈ (Text.trim classes).toList, P c := by
    intro c hc
    rw [Text.trim, String.toList_ofList] at hc
    obtain ⟨front, back, hparts, -⟩ := Text.exists_blanks_around classes.toList
    rw [hparts] at hclasses
    exact hclasses c (List.mem_append_right _ (List.mem_append_left _ hc))
  intro c hc
  unfold stampClasses at hc
  dsimp only at hc
  split at hc
  · exact htrim c hc
  · split at hc
    · exact hstamp c hc
    · rw [String.toList_append, String.toList_append, List.mem_append, List.mem_append] at hc
      rcases hc with (hc | hc) | hc
      · exact htrim c hc
      · obtain rfl : c = ' ' := by simpa using hc
        exact hspace
      · exact hstamp c hc

/-! ### The stamps of a valid lead -/

/-- Letters, digits, hyphens and underscores. -/
def isStampChar (c : Char) : Bool := c.isAlphanum || c == '-' || c == '_'

theorem not_isBlank_of_isStampChar {c : Char} (h : isStampChar c = true) : Text.isBlank c = false := by
  simp only [isStampChar, Bool.or_eq_true, beq_iff_eq] at h
  rcases h with (halnum | rfl) | rfl
  · exact Text.isBlank_of_isAlphanum halnum
  · decide
  · decide

theorem Stamps.toList_of (lead : String) (kind : CaptureKind) :
    ∃ ending : List Char, ((Stamps.ofLead lead).of kind).toList = lead.toList ++ ending ∧
      ending.all isStampChar = true := by
  have hof : ∃ ending : String, (Stamps.ofLead lead).of kind = lead ++ ending ∧
      ending.toList.all isStampChar = true := by
    cases kind <;> exact ⟨_, rfl, by decide +kernel⟩
  obtain ⟨ending, hstamp, hending⟩ := hof
  exact ⟨ending.toList, by rw [hstamp, String.toList_append], hending⟩

/-- The stamps of a valid lead are made of such characters. -/
theorem Stamps.isStampChar_of_ofLead {lead : String} (h : isClassName lead = true) (kind : CaptureKind)
    {c : Char} (hc : c ∈ ((Stamps.ofLead lead).of kind).toList) : isStampChar c = true := by
  obtain ⟨ending, hstamp, hending⟩ := Stamps.toList_of lead kind
  rw [hstamp] at hc
  unfold isClassName at h
  split at h
  · rename_i first rest hchars
    rw [Bool.and_eq_true, List.all_eq_true] at h
    obtain ⟨hfirst, hrest⟩ := h
    rw [hchars, List.cons_append, List.mem_cons, List.mem_append] at hc
    rcases hc with rfl | hc | hc
    · simp [isStampChar, Char.isAlphanum, hfirst]
    · exact hrest c hc
    · exact List.all_eq_true.mp hending c hc
  · cases h

/-- The stamps of a valid lead are words. -/
theorem Stamps.isWord_of_ofLead {lead : String} (h : isClassName lead = true) (kind : CaptureKind) :
    Text.IsWord ((Stamps.ofLead lead).of kind) := by
  refine ⟨fun hempty => ?_, fun c hc =>
    not_isBlank_of_isStampChar (Stamps.isStampChar_of_ofLead h kind hc)⟩
  obtain ⟨ending, hstamp, -⟩ := Stamps.toList_of lead kind
  have hlead : lead.toList = [] := by
    have hnil := congrArg String.toList hempty
    rw [hstamp] at hnil
    exact (List.append_eq_nil_iff.mp hnil).1
  rw [isClassName, hlead] at h
  cases h

/-! ### Stamped elements -/

namespace Markup

/-- Of two values that are given one after the other the second one counts. -/
theorem Attributes.insert_insert (name : AttrName) (first second : String) (attrs : Attributes) :
    (attrs.insert name first).insert name second = attrs.insert name second := by
  induction attrs with
  | nil => simp [insert]
  | cons a rest ih =>
    by_cases heq : a.name = name
    · simp [insert, heq]
    · by_cases hprecedes : name.precedes a.name = true
      · simp [insert, heq, hprecedes]
      · simp [insert, heq, hprecedes, ih]

theorem Element.set_set (e : Element) (name first second : String) :
    (e.set name first).set name second = e.set name second := by
  simp only [set, Attributes.set, Attributes.insert_insert]

theorem Element.get?_set (e : Element) (name value : String) :
    (e.set name value).get? name = some value :=
  Attributes.get?_set ..

/-- An element once stamps have been put on it in turn. -/
def Element.stampedBy (e : Element) (stamps : List String) : Element := stamps.foldl stamp e

theorem Element.stampedBy_concat (e : Element) (stamps : List String) (stamp : String) :
    e.stampedBy (stamps ++ [stamp]) = (e.stampedBy stamps).stamp stamp := by
  rw [stampedBy, stampedBy, List.foldl_append, List.foldl_cons, List.foldl_nil]

/-- What stamps leave behind: a trimmed class attribute with all of them in it, and nothing else that
is new. -/
def Element.Bears (e f : Element) (stamps : List String) : Prop :=
  ∃ classes, f = e.set "class" classes ∧ Text.trim classes = classes ∧
    ∀ stamp ∈ stamps, stamp ∈ Text.words classes

theorem Element.bears_stamp (e : Element) {stamp : String} (h : Text.IsWord stamp) :
    e.Bears (e.stamp stamp) [stamp] := by
  refine ⟨_, rfl, trim_stampClasses _ h, fun word hword => ?_⟩
  rw [List.mem_singleton.mp hword]
  exact mem_words_stampClasses _ h

/-- One more stamp joins those that are there. -/
theorem Element.Bears.stamp {e f : Element} {stamps : List String} (hf : e.Bears f stamps)
    {stamp : String} (h : Text.IsWord stamp) : e.Bears (f.stamp stamp) (stamps ++ [stamp]) := by
  obtain ⟨classes, rfl, htrim, hmem⟩ := hf
  refine ⟨stampClasses classes stamp, ?_, trim_stampClasses _ h, fun word hword => ?_⟩
  · rw [Element.stamp, stampedClasses, get?_set, Option.getD_some, set_set]
  · rcases List.mem_append.mp hword with hword | hword
    · exact mem_words_of_trimmed h htrim (hmem word hword)
    · rw [List.mem_singleton.mp hword]
      exact mem_words_stampClasses _ h

theorem Element.Bears.stamp_again {e f : Element} {stamps : List String} (hf : e.Bears f stamps)
    {stamp : String} (hmem : stamp ∈ stamps) : f.stamp stamp = f := by
  obtain ⟨classes, rfl, htrim, hall⟩ := hf
  rw [Element.stamp, stampedClasses, get?_set, Option.getD_some, set_set,
    stampClasses_of_mem htrim (hall stamp hmem)]

/-- Stamps that are put on in turn are all there in the end. -/
theorem Element.bears_stampedBy (e : Element) {stamps : List String} (hne : stamps ≠ [])
    (h : ∀ stamp ∈ stamps, Text.IsWord stamp) : e.Bears (e.stampedBy stamps) stamps := by
  induction stamps using List.reverseRecOn with
  | nil => exact absurd rfl hne
  | append_singleton stamps stamp ih =>
    have hstamp := h stamp (by simp)
    rw [stampedBy_concat]
    by_cases hnil : stamps = []
    · rw [hnil]
      exact e.bears_stamp hstamp
    · exact (ih hnil fun s hs => h s (List.mem_append_left _ hs)).stamp hstamp

end Markup

end PageBlocks
