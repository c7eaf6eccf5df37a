import PageBlocks.Proofs.Style.AsRead
import PageBlocks.Proofs.Style.Subtexts

/-!
Rules in canonical form. Whatever a style sheet holds, each rule that is read from it has trimmed parts and
selectors that are not empty; a statement is a single text that begins with an at sign, and selectors that
have been told apart hold no comma. The parts of all rules stand one behind the other in what the sheet is
without its comments.
-/
namespace PageBlocks.Style

/-- The form in which rules come out of a style sheet. -/
structure Rule.IsCanonical (r : Rule) : Prop where
  selectors_ne : r.selectors ≠ []
  selector_ne : ∀ s ∈ r.selectors, s ≠ ""
  selector_trimmed : ∀ s ∈ r.selectors, Text.trim s = s
  declarations_trimmed : Text.trim r.declarations = r.declarations
  statement : r.isStatement = true →
    ∃ s, r.selectors = [s] ∧ s.toList.head? = some '@' ∧ r.declarations = ""
  comma_free : 1 < r.selectors.length → ∀ s ∈ r.selectors, ',' ∉ s.toList

/-- Selectors are told apart at all their commas, unless they are taken as one. -/
theorem comma_notMem_of_selectorsOf {cs : List Char} (h : 1 < (selectorsOf cs).length) :
    ∀ s ∈ selectorsOf cs, ',' ∉ s.toList := by
  intro s hs
  refine comma_notMem_of_mem_selectorsOf hs fun hat => ?_
  rw [selectorsOf_at hat] at h
  exact Nat.lt_irrefl 1 h

theorem eq_of_rule? {selectors : List String} {declarations : List Char} {r : Rule}
    (h : some r = rule? selectors declarations) : r = ⟨selectors, String.ofList declarations, false⟩ := by
  unfold rule? at h
  split at h
  · cases h
  · exact Option.some.inj h

/-- How many selectors a rule can have. -/
theorem Taken.selectors {text rest : List Char} {r : Rule} (h : Taken text (some r) rest) :
    (r.isStatement = true → ∃ s, r.selectors = [s]) ∧
      (1 < r.selectors.length → ∀ s ∈ r.selectors, ',' ∉ s.toList) := by
  generalize hrule : some r = rule at h
  cases h with
  | statement =>
    obtain rfl := Option.some.inj hrule
    exact ⟨fun _ => ⟨_, rfl⟩, fun h => absurd h (Nat.lt_irrefl 1)⟩
  | block =>
    obtain rfl := eq_of_rule? hrule
    exact ⟨nofun, comma_notMem_of_selectorsOf⟩
  | openBlock =>
    obtain rfl := eq_of_rule? hrule
    exact ⟨nofun, comma_notMem_of_selectorsOf⟩

theorem Rule.AsRead.isCanonical {r : Rule} (h : r.AsRead)
    (hone : r.isStatement = true → ∃ s, r.selectors = [s])
    (hcomma : 1 < r.selectors.length → ∀ s ∈ r.selectors, ',' ∉ s.toList) : r.IsCanonical where
  selectors_ne := h.selectors_ne
  selector_ne := h.selector_ne
  selector_trimmed s hs := h.trimmed s (List.mem_cons_of_mem _ hs)
  declarations_trimmed := h.trimmed _ List.mem_cons_self
  statement := by
    intro hstatement
    obtain ⟨s, hs⟩ := hone hstatement
    obtain ⟨hat, hempty, -⟩ := h.statement hstatement
    refine ⟨s, hs, ?_, hempty⟩
    rw [isAtRule, hs] at hat
    exact eq_of_beq hat
  comma_free := hcomma

/-- Every rule of a style sheet is in canonical form, and the selectors and declarations of its rules stand in
the text without comments, each behind the ones before it. -/
theorem parse_isCanonical (css : String) :
    (∀ r ∈ parse css, r.IsCanonical) ∧
      Text.StandInOrder (withoutComments css.toList) ((parse css).flatMap Rule.parts) := by
  refine ⟨fun r hr => ?_, standInOrder_rulesOf _⟩
  obtain ⟨front, rest, hhead, htaken⟩ := exists_taken_of_mem_rulesOf hr
  exact (asRead_of_taken hhead htaken).isCanonical htaken.selectors.1 htaken.selectors.2

/-- A statement with a brace in a string, a block without selectors, selectors with empty ones among them and one
that looks like a statement, and a string that never ends. -/
def tornSheet : String := "@a \"\x7b\" ; ,\x7bm\x7d b /* , */,, @c;d \x7b n \x7b\x7d \x7d .e\x7b \"\x7d"

def tornRules : List Rule :=
  [⟨["@a \"\x7b\""], "", true⟩, ⟨["b", "@c;d"], "n \x7b\x7d", false⟩, ⟨[".e"], "\"\x7d", false⟩]

theorem parse_tornSheet :
    parse tornSheet = tornRules ∧ (∀ r ∈ tornRules, r.IsCanonical) ∧
      Text.StandInOrder (withoutComments tornSheet.toList)
        (["@a \"\x7b\"", "", "b", "@c;d", "n \x7b\x7d", ".e", "\"\x7d"].map String.toList) := by
  have hrules : parse tornSheet = tornRules := by decide +kernel
  obtain ⟨hcanonical, hplaces⟩ := parse_isCanonical tornSheet
  rw [hrules] at hcanonical hplaces
  exact ⟨hrules, hcanonical, hplaces⟩

end PageBlocks.Style
