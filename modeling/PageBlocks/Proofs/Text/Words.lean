import PageBlocks.Proofs.Text.Trim
import Mathlib.Data.List.SplitBy

/-!
Words. A word without a blank in it is the only word of itself, and a word that is put behind a text,
with a space between them, is added to the words of the text.
-/
namespace PageBlocks.Text

/-- A text that is one word: not empty, and without a blank in it. -/
def IsWord (s : String) : Prop := s ≠ "" ∧ ∀ c ∈ s.toList, isBlank c = false

theorem IsWord.chars_ne {s : String} (h : IsWord s) : s.toList ≠ [] := by
  simpa using h.1

theorem not_isAsciiBlank_of_not_isBlank {c : Char} (h : isBlank c = false) : isAsciiBlank c = false := by
  by_contra hne
  rw [isBlank_of_isAsciiBlank (by simpa using hne)] at h
  cases h

theorem IsWord.not_isAsciiBlank {s : String} (h : IsWord s) {c : Char} (hc : c ∈ s.toList) :
    isAsciiBlank c = false :=
  not_isAsciiBlank_of_not_isBlank (h.2 c hc)

/-- The runs that words are cut into. -/
def runs (cs : List Char) : List (List Char) :=
  cs.splitBy fun a b => isAsciiBlank a == isAsciiBlank b

theorem words_eq (s : String) :
    words s = ((runs s.toList).filter fun run => !(run.all isAsciiBlank)).map String.ofList := rfl

theorem runs_word {s : String} (h : IsWord s) : runs s.toList = [s.toList] := by
  apply List.splitBy_of_isChain h.chars_ne
  apply List.Pairwise.isChain
  apply List.pairwise_of_forall_mem_list
  intro a ha b hb
  rw [h.not_isAsciiBlank ha, h.not_isAsciiBlank hb]
  rfl

theorem not_all_isAsciiBlank {s : String} (h : IsWord s) : s.toList.all isAsciiBlank = false := by
  rw [List.all_eq_false]
  exact ⟨_, List.head_mem h.chars_ne, by rw [h.not_isAsciiBlank (List.head_mem _)]; simp⟩

/-- A word is the only one in itself. -/
theorem words_word {s : String} (h : IsWord s) : words s = [s] := by
  rw [words_eq, runs_word h, List.filter_cons_of_pos (by rw [not_all_isAsciiBlank h]; rfl)]
  simp

/-- A space in front of what is no blank is a run of its own. -/
theorem runs_space_cons {cs : List Char} (h : ∀ x ∈ cs.head?, isAsciiBlank x = false) :
    runs (' ' :: cs) = [' '] :: runs cs := by
  rw [runs, ← List.singleton_append, List.splitBy_append]
  · rfl
  · intro x hx y hy
    obtain rfl : ' ' = x := by simpa using hx
    rw [h y hy]
    rfl

/-- A word behind a text that does not end in a blank is added to its words. -/
theorem words_append_word {c s : String} (hc : ∀ x ∈ c.toList.getLast?, isAsciiBlank x = false)
    (hs : IsWord s) : words (c ++ " " ++ s) = words c ++ [s] := by
  have hspace : runs (' ' :: s.toList) = [' '] :: runs s.toList :=
    runs_space_cons fun x hx => hs.not_isAsciiBlank (List.mem_of_mem_head? hx)
  have hruns : runs (c ++ " " ++ s).toList = runs c.toList ++ [' '] :: runs s.toList := by
    rw [String.toList_append, String.toList_append, List.append_assoc, runs]
    change (c.toList ++ ' ' :: s.toList).splitBy _ = _
    rw [List.splitBy_append_cons, ← runs, ← runs, hspace]
    intro x hx
    rw [hc x hx]
    rfl
  rw [words_eq, hruns, List.filter_append, List.map_append, ← words_eq,
    List.filter_cons_of_neg (by decide), ← words_eq, words_word hs]

/-- A word in front of a text that does not begin with a blank is added to its words. -/
theorem words_word_append {c s : String} (hs : IsWord s)
    (hc : ∀ x ∈ c.toList.head?, isAsciiBlank x = false) : words (s ++ " " ++ c) = s :: words c := by
  have hruns : runs (s ++ " " ++ c).toList = s.toList :: [' '] :: runs c.toList := by
    rw [String.toList_append, String.toList_append, List.append_assoc, runs]
    change (s.toList ++ ' ' :: c.toList).splitBy _ = _
    rw [List.splitBy_append_cons, ← runs, ← runs, runs_space_cons hc, runs_word hs]
    · rfl
    · intro x hx
      rw [hs.not_isAsciiBlank (List.mem_of_mem_getLast? hx)]
      rfl
  rw [words_eq, hruns, List.filter_cons_of_pos (by rw [not_all_isAsciiBlank hs]; rfl),
    List.filter_cons_of_neg (by decide), List.map_cons, ← words_eq, String.ofList_toList]

theorem trim_word {s : String} (h : IsWord s) : trim s = s := by
  have hself : trimChars s.toList = s.toList := by
    rw [trimChars_eq_self_iff]
    exact ⟨fun c hc => h.2 c (List.mem_of_mem_head? hc),
      fun c hc => h.2 c (List.mem_of_mem_getLast? hc)⟩
  rw [trim, hself, String.ofList_toList]

/-- A trimmed text with a word behind it is trimmed. -/
theorem trim_append_word {c s : String} (hne : trim c ≠ "") (hs : IsWord s) :
    trim (trim c ++ " " ++ s) = trim c ++ " " ++ s := by
  have hchars : (trim c ++ " " ++ s).toList = (trim c).toList ++ ' ' :: s.toList := by
    simp
  have hself : trimChars (trim c ++ " " ++ s).toList =
      (trim c ++ " " ++ s).toList := by
    rw [hchars, trimChars_eq_self_iff]
    constructor
    · intro x hx
      rw [List.head?_append_of_ne_nil _ (by simpa using hne)] at hx
      rw [trim, String.toList_ofList] at hx
      exact not_isBlank_head hx
    · intro x hx
      apply hs.2
      rw [List.getLast?_append_of_ne_nil _ (List.cons_ne_nil _ _),
        List.getLast?_cons_of_ne_nil hs.chars_ne] at hx
      exact List.mem_of_mem_getLast? hx
  rw [trim, hself, String.ofList_toList]

/-- A trimmed text with a word in front of it is trimmed. -/
theorem trim_word_append {c s : String} (hne : trim c ≠ "") (hs : IsWord s) :
    trim (s ++ " " ++ trim c) = s ++ " " ++ trim c := by
  have hchars : (s ++ " " ++ trim c).toList = s.toList ++ ' ' :: (trim c).toList := by
    simp
  have hself : trimChars (s ++ " " ++ trim c).toList = (s ++ " " ++ trim c).toList := by
    rw [hchars, trimChars_eq_self_iff]
    constructor
    · intro x hx
      rw [List.head?_append_of_ne_nil _ hs.chars_ne] at hx
      exact hs.2 x (List.mem_of_mem_head? hx)
    · intro x hx
      rw [List.getLast?_append_of_ne_nil _ (List.cons_ne_nil _ _),
        List.getLast?_cons_of_ne_nil (by simpa using hne), trim, String.toList_ofList] at hx
      exact not_isBlank_last hx
  rw [trim, hself, String.ofList_toList]

end PageBlocks.Text
