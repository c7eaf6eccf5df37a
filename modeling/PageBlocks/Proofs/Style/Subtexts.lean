import PageBlocks.Proofs.Style.Taken
import PageBlocks.Proofs.Text.Places

/-!
Where the parts of rules come from. The selectors and declarations that are read from a text stand in it
in their order, one behind the other: reading repeats nothing and changes no order.
-/
namespace PageBlocks.Style

open Text (StandInOrder)

/-- The selectors of a rule and then its declarations. -/
def Rule.parts (r : Rule) : List (List Char) := r.selectors.map String.toList ++ [r.declarations.toList]

def Rule.chars (r : Rule) : List Char := r.selectors.flatMap String.toList ++ r.declarations.toList

theorem Rule.flatten_parts (r : Rule) : r.parts.flatten = r.chars := by
  rw [parts, List.flatten_append, List.flatten_singleton, ← List.flatMap_def, chars]

theorem trimChars_inside (cs : List Char) : Text.trimChars cs <:+: cs :=
  (Text.trimEndChars_prefix _).isInfix.trans (List.dropWhile_suffix _).isInfix

/-- The parts between commas stand between them when they are trimmed. -/
theorem standInOrder_trimmedParts (parts : List (List Char)) :
    StandInOrder ([','].intercalate parts) (trimmedParts parts) := by
  have hone : ∀ part, StandInOrder part (trimmedParts [part]) := by
    intro part
    rw [trimmedParts_cons]
    split
    · exact .nil part
    · exact .singleton (trimChars_inside part)
  induction parts with
  | nil => exact .nil _
  | cons part parts ih =>
    cases parts with
    | nil =>
      rw [List.intercalate_singleton]
      exact hone part
    | cons next parts =>
      have hsplit : trimmedParts (part :: next :: parts) = trimmedParts [part] ++ trimmedParts (next :: parts) := by
        rw [trimmedParts, trimmedParts, trimmedParts, ← List.filter_append, ← List.map_append,
          List.singleton_append]
      rw [List.intercalate_cons_cons, List.append_assoc, List.singleton_append, hsplit]
      exact (hone part).concat ih ','

theorem standInOrder_selectorsOf (cs : List Char) :
    StandInOrder cs ((selectorsOf cs).map String.toList) := by
  by_cases hat : cs.head? = some '@'
  · rw [selectorsOf_at hat, List.map_singleton, String.toList_ofList]
    exact .singleton List.infix_rfl
  · have hchars : String.toList ∘ String.ofList = id := funext fun _ => String.toList_ofList
    have hparts := standInOrder_trimmedParts (cs.splitOn ',')
    rw [List.intercalate_splitOn] at hparts
    rw [selectorsOf_of_head hat, List.map_map, hchars, List.map_id]
    exact hparts

/-- The parts of a block stand before its brace and behind it. -/
theorem standInOrder_rule? (front body : List Char) :
    StandInOrder (front ++ '\x7b' :: body)
      ((rule? (selectorsOf (Text.trimChars front)) (Text.trimChars body)).toList.flatMap Rule.parts) := by
  unfold rule?
  split
  · exact .nil _
  · have hselectors := (standInOrder_selectorsOf (Text.trimChars front)).of_inside (trimChars_inside front)
    rw [Option.toList_some, List.flatMap_singleton, Rule.parts, String.toList_ofList]
    exact hselectors.concat (.singleton (trimChars_inside body)) _

/-- What is taken off a text stands before what is left of it. -/
theorem Taken.standInOrder {text rest : List Char} {rule : Option Rule} (h : Taken text rule rest)
    {parts : List (List Char)} (hrest : StandInOrder rest parts) (hnone : rest = [] → parts = []) :
    StandInOrder text (rule.toList.flatMap Rule.parts ++ parts) := by
  cases h with
  | @statement front _ hsplit _ hat =>
    have hne : Text.trimChars front ≠ [] := by
      intro hnil
      have hblank := (Text.trimChars_eq_nil_iff front).mp hnil '@' (List.mem_of_head? hat)
      exact absurd hblank (by decide)
    have hselector : StandInOrder front [Text.trimChars front, []] := .pair (trimChars_inside front) hne
    have hparts : (some (⟨[String.ofList (Text.trimChars front)], "", true⟩ : Rule)).toList.flatMap Rule.parts =
        [Text.trimChars front, []] := by
      simp [Rule.parts]
    rw [hsplit, hparts]
    exact hselector.concat hrest ';'
  | @block front body _ hsplit _ =>
    have htext : text = (front ++ '\x7b' :: body) ++ '\x7d' :: rest := by
      rw [hsplit, List.append_assoc, List.cons_append]
    rw [htext]
    exact (standInOrder_rule? front body).concat hrest _
  | @openBlock front body hsplit _ =>
    rw [hsplit, hnone rfl, List.append_nil]
    exact standInOrder_rule? front body

/-- The selectors and declarations of the rules of a text stand in the text, in this order. The induction is on
the turns of the reading. -/
theorem standInOrder_rulesOf (text : List Char) : StandInOrder text ((rulesOf text).flatMap Rule.parts) := by
  fun_induction rulesOf text with
  | case1 text => exact .nil text
  | case2 text => exact .nil text
  | case3 text c cs hstart rule rest htake ih =>
    have htrim : c :: cs <:+ text := by
      rw [← hstart]
      exact List.dropWhile_suffix _
    rw [List.flatMap_append]
    refine ((taken_of_takeRule htake).standInOrder ih ?_).of_suffix htrim
    rintro rfl
    rw [rulesOf_eq]
    rfl

theorem chars_rulesOf_sublist (text : List Char) : ((rulesOf text).flatMap Rule.chars).Sublist text := by
  have hparts := (standInOrder_rulesOf text).flatten_sublist
  have hchars : List.flatten ∘ Rule.parts = Rule.chars := funext Rule.flatten_parts
  rwa [List.flatMap_def, List.flatten_flatten, List.map_map, hchars, ← List.flatMap_def] at hparts

end PageBlocks.Style
