import PageBlocks.Style.Rule
import PageBlocks.Style.Scanner
import PageBlocks.Text.Blank

/-!
Reading style sheet text. Only as much structure is found as it takes to tell selectors from blocks.
A block without an end takes the rest of the text, and a rest without a block is dropped.
-/
namespace PageBlocks.Style

/-- The selectors that stand before a block. -/
def selectorsOf (prelude : List Char) : List String :=
  match prelude with
  | '@' :: _ => [String.ofList prelude]
  | _ =>
    (((prelude.splitOn ',').map Text.trimChars).filter fun s => !s.isEmpty).map String.ofList

/-- A rule unless it has no selector. -/
def rule? (selectors : List String) (declarations : List Char) : Option Rule :=
  if selectors.isEmpty then none else some ⟨selectors, String.ofList declarations, false⟩

/-- The place of the semicolon that ends a rule without a block. -/
def statementEnd? (text : List Char) (opening : Option Nat) : Option Nat :=
  match text with
  | '@' :: _ => firstOutside ';' (text.take (opening.getD text.length))
  | _ => none

/-- Take the first rule off a text, if there is one, and yield the rest of the text. -/
def takeRule (text : List Char) : Option (Option Rule × List Char) :=
  let opening := firstOutside '\x7b' text
  match statementEnd? text opening with
  | some stop =>
    let selector := String.ofList (Text.trimChars (text.take stop))
    some (some ⟨[selector], "", true⟩, text.drop (stop + 1))
  | none =>
    match opening with
    | none => none
    | some opening =>
      let selectors := selectorsOf (Text.trimChars (text.take opening))
      let body := text.drop (opening + 1)
      match closingBrace text opening with
      | some closing =>
        let declarations := Text.trimChars (body.take (closing - (opening + 1)))
        some (rule? selectors declarations, text.drop (closing + 1))
      | none => some (rule? selectors (Text.trimChars body), [])

theorem length_of_takeRule {text rest : List Char} {rule : Option Rule} (hne : text ≠ [])
    (h : takeRule text = some (rule, rest)) : rest.length < text.length := by
  have hpos : 0 < text.length := List.length_pos_iff.mpr hne
  unfold takeRule at h
  simp only at h
  split at h
  · simp only [Option.some.injEq, Prod.mk.injEq] at h
    rw [← h.2, List.length_drop]
    omega
  · split at h
    · simp at h
    · split at h <;> simp only [Option.some.injEq, Prod.mk.injEq] at h <;> rw [← h.2]
      · rw [List.length_drop]
        omega
      · simpa using hpos

/-- The rules of a text without comments. -/
def rulesOf (text : List Char) : List Rule :=
  match _hstart : Text.trimStartChars text with
  | [] => []
  | c :: cs =>
    match _htake : takeRule (c :: cs) with
    | none => []
    | some (rule, rest) => rule.toList ++ rulesOf rest
termination_by text.length
decreasing_by
  have hrest := length_of_takeRule (by simp) _htake
  have hle : (Text.trimStartChars text).length ≤ text.length :=
    (List.dropWhile_suffix _).length_le
  rw [_hstart] at hle
  omega

/-- The rules of a style sheet. -/
def parse (css : String) : List Rule := rulesOf (withoutComments css.toList)

end PageBlocks.Style
