import PageBlocks.Proofs.Style.OctetScan
import PageBlocks.Proofs.Style.Taken

/-!
Rules read from the octets of a text. A reader that scans octets and cuts the text where the scans say
reads the same rules as one that scans characters: whatever the text, it never cuts inside a character or
behind the end, each rule that it takes off leaves less of the text, and so it comes to an end.
-/
namespace PageBlocks.Style

open Text (octets offset cut? between?)

/-- The text before a place in octets, or all of it. -/
def before? (text : List Char) : Option Nat → Option (List Char)
  | some stop => (cut? text stop).map (·.1)
  | none => some text

/-- The text behind the octet at a place, or none of it. -/
def behind? (text : List Char) : Option Nat → Option (List Char)
  | some place => (cut? text (place + 1)).map (·.2)
  | none => some []

/-- The place of the semicolon that ends a rule without a block, in octets. -/
def statementOctet? (text : List Char) (opening : Option Nat) : Option (Option Nat) :=
  match text with
  | '@' :: _ => (before? text opening).map fun head => firstOctet ';'.toUInt8 (octets head)
  | _ => some none

/-- Take off the rule that a semicolon ends. -/
def takeStatementOctets? (text : List Char) (stop : Nat) : Option (Option Rule × List Char) := do
  let selector ← before? text (some stop)
  let rest ← behind? text (some stop)
  return (some ⟨[String.ofList (Text.trimChars selector)], "", true⟩, rest)

/-- Take off the rule whose block a brace opens, with the brace that closes it, if any. -/
def takeBlockOctets? (text : List Char) (opening : Nat) (closing : Option Nat) :
    Option (Option Rule × List Char) := do
  let front ← before? text (some opening)
  let body ← between? text (opening + 1) (closing.getD (octets text).length)
  let rest ← behind? text closing
  return (rule? (selectorsOf (Text.trimChars front)) (Text.trimChars body), rest)

/-- Take the first rule off a text, if there is one, with all places in octets. There is no result at all
if a place is not between two characters of the text, or two places are not in order. -/
def takeRuleOctets? (text : List Char) : Option (Option (Option Rule × List Char)) :=
  let opening := firstOctet '\x7b'.toUInt8 (octets text)
  match statementOctet? text opening, opening with
  | none, _ => none
  | some (some stop), _ => (takeStatementOctets? text stop).map some
  | some none, some opening =>
    (takeBlockOctets? text opening (closingOctet (octets text) opening)).map some
  | some none, none => some none

/-- The rules of a text without comments, with all places in octets. Nothing bounds the loop. -/
def rulesOfOctets? : ReaderT (List Char) Option (List Rule) := fun text =>
  if (Text.trimStartChars text).isEmpty then some []
  else do
    let taken ← takeRuleOctets? (Text.trimStartChars text)
    if h : taken.isSome then
      let rules ← rulesOfOctets?.run (taken.get h).2
      return (taken.get h).1.toList ++ rules
    else return []
partial_fixpoint

/-! ### One rule -/

variable {text : List Char}

theorem before?_offset (text : List Char) (stop : Option Nat) :
    before? text (stop.map (offset text)) = some (text.take (stop.getD text.length)) := by
  cases stop with
  | none => rw [Option.getD_none, List.take_length]; rfl
  | some stop =>
    rw [Option.map_some, before?, Text.cut?_offset]
    rfl

theorem behind?_offset {place : Nat} (h : offset text (place + 1) = offset text place + 1) :
    behind? text (some (offset text place)) = some (text.drop (place + 1)) := by
  rw [behind?, ← h, Text.cut?_offset]
  rfl

/-- The semicolon that ends a statement stands in the text before the first block. -/
theorem statementOctet?_eq (text : List Char) :
    statementOctet? text (firstOctet '\x7b'.toUInt8 (octets text)) =
      some ((statementEnd? text (firstOutside '\x7b' text)).map (offset text)) := by
  rw [firstOctet_octets rfl]
  generalize firstOutside '\x7b' text = opening
  by_cases hat : ∃ cs, text = '@' :: cs
  · obtain ⟨cs, rfl⟩ := hat
    change (before? _ _).map _ =
      some ((firstOutside ';' (('@' :: cs).take (opening.getD ('@' :: cs).length))).map _)
    rw [before?_offset, Option.map_some, firstOctet_octets rfl]
    cases hend : firstOutside ';' (('@' :: cs).take (opening.getD ('@' :: cs).length)) with
    | none => rfl
    | some stop =>
      have hlt := lt_length_of_firstOutside hend
      rw [List.length_take] at hlt
      rw [Option.map_some, Option.map_some, Text.offset_take _ (by omega)]
  · have hnot : ∀ cs, text = '@' :: cs → False := fun cs htext => hat ⟨cs, htext⟩
    rw [statementOctet?.eq_2 _ _ hnot, statementEnd?.eq_2 _ _ hnot]
    rfl

/-- A semicolon is a single octet. -/
theorem offset_statementEnd {opening : Option Nat} {stop : Nat} (h : statementEnd? text opening = some stop) :
    offset text (stop + 1) = offset text stop + 1 := by
  unfold statementEnd? at h
  split at h
  · have hget := (countsAt_of_firstOutside h).2
    have hlt := lt_length_of_firstOutside h
    rw [List.length_take] at hlt
    rw [List.getElem?_take_of_lt (by omega)] at hget
    exact Text.offset_succ hget rfl
  · cases h

theorem takeStatementOctets?_eq {stop : Nat} (h : offset text (stop + 1) = offset text stop + 1) :
    takeStatementOctets? text (offset text stop) =
      some (some ⟨[String.ofList (Text.trimChars (text.take stop))], "", true⟩, text.drop (stop + 1)) := by
  have hselector : before? text (some (offset text stop)) = some (text.take stop) :=
    before?_offset text (some stop)
  rw [takeStatementOctets?, hselector, behind?_offset h]
  rfl

theorem takeBlockOctets?_eq {opening : Nat} (hopen : firstOutside '\x7b' text = some opening) :
    takeBlockOctets? text (offset text opening) ((closingBrace text opening).map (offset text)) =
      some (match closingBrace text opening with
        | some closing =>
          (rule? (selectorsOf (Text.trimChars (text.take opening)))
            (Text.trimChars ((text.drop (opening + 1)).take (closing - (opening + 1)))),
            text.drop (closing + 1))
        | none =>
          (rule? (selectorsOf (Text.trimChars (text.take opening)))
            (Text.trimChars (text.drop (opening + 1))), [])) := by
  have hfront : before? text (some (offset text opening)) = some (text.take opening) :=
    before?_offset text (some opening)
  have hbehind := Text.offset_succ (countsAt_of_firstOutside hopen).2 rfl
  rw [takeBlockOctets?, hfront, ← hbehind]
  cases hclose : closingBrace text opening with
  | some closing =>
    have hcloses := closesAt_of_closingBrace hopen hclose
    have hle : opening + 1 ≤ closing := hcloses.behind
    rw [Option.map_some, Option.getD_some, Text.between?_offset _ hle, List.drop_take,
      behind?_offset (Text.offset_succ hcloses.counts.2 rfl)]
    rfl
  | none =>
    have hle : opening + 1 ≤ text.length := lt_length_of_firstOutside hopen
    rw [Option.map_none, Option.getD_none, ← Text.offset_length, Text.between?_offset _ hle,
      List.take_length]
    rfl

/-- What is taken off in octets is what is taken off in characters. -/
theorem takeRuleOctets?_eq (text : List Char) : takeRuleOctets? text = some (takeRule text) := by
  rw [takeRuleOctets?, takeRule, statementOctet?_eq, firstOctet_octets rfl]
  cases hstop : statementEnd? text (firstOutside '\x7b' text) with
  | some stop =>
    simp only [Option.map_some, takeStatementOctets?_eq (offset_statementEnd hstop)]
  | none =>
    cases hopen : firstOutside '\x7b' text with
    | none => rfl
    | some opening =>
      simp only [Option.map_some, Option.map_none, closingOctet_octets, takeBlockOctets?_eq hopen]
      cases closingBrace text opening <;> rfl

/-- What is left of a text when a rule is taken off is its end. -/
theorem suffix_of_takeRule {rule : Option Rule} {rest : List Char} (h : takeRule text = some (rule, rest)) :
    rest <:+ text := by
  cases taken_of_takeRule h with
  | @statement front _ hsplit => exact ⟨front ++ [';'], by rw [hsplit, List.append_assoc]; rfl⟩
  | @block front body _ hsplit =>
    exact ⟨front ++ '\x7b' :: (body ++ ['\x7d']), by rw [hsplit]; simp⟩
  | openBlock => exact List.nil_suffix

/-- Each rule that is taken off leaves fewer octets. -/
theorem length_octets_of_takeRule {rule : Option Rule} {rest : List Char} (hne : text ≠ [])
    (h : takeRule text = some (rule, rest)) : (octets rest).length < (octets text).length :=
  Text.length_octets_lt (suffix_of_takeRule h) (length_of_takeRule hne h)

/-- Whatever the text, its rules are read to the end. The induction is on the turns of the loop. -/
theorem rulesOfOctets?_eq (text : List Char) : rulesOfOctets? text = some (rulesOf text) := by
  fun_induction rulesOf text with
  | case1 text hstart =>
    rw [rulesOfOctets?, hstart]
    rfl
  | case2 text c cs hstart htake =>
    rw [rulesOfOctets?, hstart, takeRuleOctets?_eq, htake]
    rfl
  | case3 text c cs hstart rule rest htake ih =>
    rw [rulesOfOctets?, hstart, takeRuleOctets?_eq, htake]
    simp [ReaderT.run, ih]

/-- A scan of the octets of a text finds what a scan of its characters finds, in the same places, and a
closing brace comes behind the opening one. So the reader that cuts the text at what it finds in the
octets never fails and reads the same rules, each time leaving less of the text. -/
theorem octetScans_agree (text : List Char) :
    (∀ needle, Text.isAscii needle = true →
        firstOctet needle.toUInt8 (octets text) = (firstOutside needle text).map (offset text)) ∧
      (∀ opening, closingOctet (octets text) (offset text opening) =
        (closingBrace text opening).map (offset text)) ∧
      (∀ opening closing, firstOctet '\x7b'.toUInt8 (octets text) = some opening →
        closingOctet (octets text) opening = some closing → opening < closing) ∧
      takeRuleOctets? text = some (takeRule text) ∧
      (∀ rule rest, text ≠ [] → takeRuleOctets? text = some (some (rule, rest)) →
        (octets rest).length < (octets text).length) ∧
      rulesOfOctets? text = some (rulesOf text) := by
  refine ⟨fun needle hneedle => firstOctet_octets hneedle text, closingOctet_octets text, ?_,
    takeRuleOctets?_eq text, ?_, rulesOfOctets?_eq text⟩
  · intro opening closing hopen hclose
    rw [firstOctet_octets rfl] at hopen
    obtain ⟨place, hplace, rfl⟩ := Option.map_eq_some_iff.mp hopen
    rw [closingOctet_octets] at hclose
    obtain ⟨stop, hstop, rfl⟩ := Option.map_eq_some_iff.mp hclose
    have hcloses := closesAt_of_closingBrace hplace hstop
    exact Text.offset_lt (countsAt_of_firstOutside hplace).2 rfl hcloses.behind
  · intro rule rest hne htake
    rw [takeRuleOctets?_eq] at htake
    exact length_octets_of_takeRule hne (Option.some.inj htake)

/-- A statement and two blocks, with characters of two, three and four octets in strings, behind
backslashes and before braces. -/
def wideSheet : List Char := "@i \"ö;\";é\\é\x7b'\\“\x7d'\\𝄞\x7d\x7d €\x7b".toList

theorem octetScans_agree_wideSheet :
    wideSheet ≠ [] ∧ Text.isAscii ';' = true ∧
      firstOctet ';'.toUInt8 (octets wideSheet) = (firstOutside ';' wideSheet).map (offset wideSheet) ∧
      firstOctet '\x7b'.toUInt8 (octets wideSheet) = some 14 ∧
      closingOctet (octets wideSheet) 14 = some 27 ∧ 14 < 27 ∧
      rulesOfOctets? wideSheet = some (rulesOf wideSheet) := by
  obtain ⟨hfirst, -, hordered, -, -, hrules⟩ := octetScans_agree wideSheet
  have hopen : firstOctet '\x7b'.toUInt8 (octets wideSheet) = some 14 := by decide
  have hclose : closingOctet (octets wideSheet) 14 = some 27 := by decide
  exact ⟨by decide, rfl, hfirst ';' rfl, hopen, hclose, hordered 14 27 hopen hclose, hrules⟩

end PageBlocks.Style
