import PageBlocks.Markup.Construction.Step

/-!
Elements that stand inside each other as the rules of the construction want them to: no start tag closes
anything that is open, and every end tag finds its own element as the current one. What such an element
does when it begins and ends depends on the sort of its tag, and whether it can begin depends on the tags
of the elements around it.
-/
namespace PageBlocks.Markup

/-- What elements have in common as far as the beginning and the end of an element go. Elements whose
text is read in a mode of its own and those with rules that reach further are of the sort `other`. -/
inductive TagSort where
  | block | paragraph | heading | item | link | formatting | inline
  | table | section | row | cell | caption
  /-- Elements of running text that hold nothing. -/
  | void
  | rule
  | other
  deriving DecidableEq

namespace TagSort

/-- The sorts of elements that hold something and begin in running text. -/
def isOfText : TagSort → Bool
  | .block | .paragraph | .heading | .item | .link | .formatting | .inline | .table => true
  | _ => false

/-- The sorts of elements that hold nothing. -/
def isEmpty : TagSort → Bool
  | .void | .rule => true
  | _ => false

end TagSort

namespace Tag

def sort (tag : Tag) : TagSort :=
  if tag.isHeading then .heading
  else if tag.isFormatting then .formatting
  else if tag.isBodyVoid then .void
  else if tag.isSection then .section
  else if tag.isCell then .cell
  else if tag = .p then .paragraph
  else if tag.isBlock then .block
  else
    match tag with
    | .li | .dd | .dt => .item
    | .a => .link
    | .span | .sub | .sup | .var | .ruby | .other _ => .inline
    | .table => .table
    | .tr => .row
    | .caption => .caption
    | .hr => .rule
    | _ => .other

theorem toString_ofString (s : String) : (ofString s).toString = s := by
  have hknown : (known.all fun entry => entry.2.toString == entry.1) = true := by decide +kernel
  rw [ofString]
  cases hlookup : known.lookup s with
  | none => rfl
  | some tag =>
    obtain ⟨front, back, hmem, -⟩ := List.lookup_eq_some_iff.mp hlookup
    have hentry : (s, tag) ∈ known := by
      rw [hmem]
      exact List.mem_append_right _ List.mem_cons_self
    exact eq_of_beq (List.all_eq_true.mp hknown _ hentry)

/-- Whether a paragraph is open that the beginning of a block would close. -/
def paragraphOpen : List Tag → Bool
  | [] => false
  | tag :: ts =>
    if tag = .p then true
    else if tag.isScopeBarrier || tag = .button then false
    else paragraphOpen ts

/-- Whether the beginning of an item closes another one. -/
def closesItem (item tag : Tag) : Bool :=
  if item = .li then tag == .li else tag == .dd || tag == .dt

/-- Whether an item is open that the beginning of another one would close. -/
def itemOpen (item : Tag) : List Tag → Bool
  | [] => false
  | tag :: ts =>
    if closesItem item tag then true
    else if tag.isSpecial && !(tag == .address || tag == .div || tag == .p) then false
    else itemOpen item ts

/-- The rules in force inside elements with these tags, the innermost first. -/
def modeIn : List Tag → Mode
  | [] => .inBody
  | tag :: ts =>
    match tag.sort with
    | .table => .inTable
    | .section => .inTableBody
    | .row => .inRow
    | .cell => .inCell
    | .caption => .inCaption
    | _ => modeIn ts

/-- Whether an element can begin in the running text inside elements with these tags. -/
def beginsInText (ts : List Tag) (tag : Tag) : Bool :=
  match tag.sort with
  | .block | .paragraph => !paragraphOpen ts
  | .heading => !paragraphOpen ts && !ts.head?.any isHeading
  | .item => !itemOpen tag ts && !paragraphOpen ts
  | .link => !ts.contains .a
  | .formatting | .inline | .table => true
  | _ => false

/-- Whether running text can stand right inside elements with these tags. -/
def takesText (ts : List Tag) : Bool :=
  modeIn ts = .inBody || modeIn ts = .inCell || modeIn ts = .inCaption

/-- Whether an element can begin inside elements with these tags without closing anything. -/
def begins (ts : List Tag) (tag : Tag) : Bool :=
  match modeIn ts, tag.sort with
  | .inTable, .section | .inTable, .caption | .inTableBody, .row | .inRow, .cell => true
  | _, _ => takesText ts && beginsInText ts tag

/-- Whether an element that holds nothing can stand inside elements with these tags. -/
def standsEmpty (ts : List Tag) (tag : Tag) : Bool :=
  takesText ts && (tag.sort = .void || tag.sort = .rule && !paragraphOpen ts)

/-- The tags of elements each of which has begun inside the next one, up to the body. -/
inductive Nested : List Tag → Prop
  | body : Nested [.body, .html]
  | inside {tag : Tag} {ts : List Tag} : begins ts tag = true → Nested ts → Nested (tag :: ts)

theorem beginsInText_sort {ts : List Tag} {tag : Tag} (h : beginsInText ts tag = true) :
    tag.sort.isOfText = true := by
  unfold beginsInText at h
  cases hsort : tag.sort <;> rw [hsort] at h <;> first | rfl | cases h

/-- Where an element can begin. -/
theorem begins_cases {ts : List Tag} {tag : Tag} (h : begins ts tag = true) :
    (takesText ts = true ∧ beginsInText ts tag = true) ∨
      (modeIn ts = .inTable ∧ (tag.sort = .section ∨ tag.sort = .caption)) ∨
      (modeIn ts = .inTableBody ∧ tag.sort = .row) ∨ (modeIn ts = .inRow ∧ tag.sort = .cell) := by
  unfold begins at h
  split at h
  · simp [*]
  · simp [*]
  · simp [*]
  · simp [*]
  · exact Or.inl (Bool.and_eq_true_iff.mp h)

theorem begins_of_takesText {ts : List Tag} {tag : Tag} (htakes : takesText ts = true)
    (htext : beginsInText ts tag = true) : begins ts tag = true := by
  unfold begins
  split
  · rfl
  · rfl
  · rfl
  · rfl
  · rw [htakes, htext, Bool.and_self]

theorem sort_ne_other_of_begins {ts : List Tag} {tag : Tag} (h : begins ts tag = true) :
    tag.sort ≠ .other := by
  intro hsort
  rcases begins_cases h with ⟨-, htext⟩ | ⟨-, h | h⟩ | ⟨-, h⟩ | ⟨-, h⟩
  · have hofText := beginsInText_sort htext
    rw [hsort] at hofText
    cases hofText
  all_goals
    rw [hsort] at h
    cases h

theorem isEmpty_of_begins {ts : List Tag} {tag : Tag} (h : begins ts tag = true) :
    tag.sort.isEmpty = false := by
  rcases begins_cases h with ⟨-, htext⟩ | ⟨-, h | h⟩ | ⟨-, h⟩ | ⟨-, h⟩
  · have hofText := beginsInText_sort htext
    cases hsort : tag.sort <;> rw [hsort] at hofText <;> first | rfl | cases hofText
  all_goals
    rw [h]
    rfl

theorem isEmpty_of_standsEmpty {ts : List Tag} {tag : Tag} (h : standsEmpty ts tag = true) :
    tag.sort.isEmpty = true := by
  rw [standsEmpty, Bool.and_eq_true, Bool.or_eq_true, decide_eq_true_iff, Bool.and_eq_true,
    decide_eq_true_iff] at h
  rcases h.2 with hsort | ⟨hsort, -⟩ <;> rw [hsort] <;> rfl

theorem takesText_iff {ts : List Tag} :
    takesText ts = true ↔ modeIn ts = .inBody ∨ modeIn ts = .inCell ∨ modeIn ts = .inCaption := by
  simp [takesText, or_assoc]

theorem modeIn_of_isOfText {tag : Tag} (h : tag.sort.isOfText = true) (hne : tag.sort ≠ .table)
    (ts : List Tag) : modeIn (tag :: ts) = modeIn ts := by
  rw [modeIn]
  cases hsort : tag.sort <;> rw [hsort] at h hne <;> first | rfl | exact absurd rfl hne | cases h

/-- Running text can stand right inside an element unless it is a table or a part of one that holds
other parts. -/
theorem Nested.takesText {tag : Tag} {ts : List Tag} (h : Nested (tag :: ts)) :
    tag.sort = .table ∨ tag.sort = .section ∨ tag.sort = .row ∨ Tag.takesText (tag :: ts) = true := by
  cases h with
  | body => exact Or.inr (Or.inr (Or.inr rfl))
  | inside hbegins hnested =>
    rcases begins_cases hbegins with ⟨htakes, htext⟩ | ⟨-, h | h⟩ | ⟨-, h⟩ | ⟨-, h⟩
    · by_cases htable : tag.sort = .table
      · exact Or.inl htable
      · rw [Tag.takesText, modeIn_of_isOfText (beginsInText_sort htext) htable]
        exact Or.inr (Or.inr (Or.inr htakes))
    · simp [h]
    · simp [Tag.takesText, modeIn, h]
    · simp [h]
    · simp [Tag.takesText, modeIn, h]

theorem sort_eq_table {tag : Tag} (h : tag.sort = .table) : tag = .table := by
  cases tag <;> first | rfl | cases h

theorem sort_eq_row {tag : Tag} (h : tag.sort = .row) : tag = .tr := by
  cases tag <;> first | rfl | cases h

theorem sort_eq_caption {tag : Tag} (h : tag.sort = .caption) : tag = .caption := by
  cases tag <;> first | rfl | cases h

theorem sort_eq_section {tag : Tag} (h : tag.sort = .section) :
    tag = .tbody ∨ tag = .tfoot ∨ tag = .thead := by
  cases tag <;> first | exact TagSort.noConfusion h | simp

theorem isTableBodyContext_of_sort {tag : Tag} (h : tag.sort = .section) :
    tag.isTableBodyContext = true := by
  rcases sort_eq_section h with rfl | rfl | rfl <;> rfl

theorem isCell_of_sort {tag : Tag} (h : tag.sort = .cell) : tag.isCell = true := by
  cases tag <;> first | rfl | cases h

/-- The rules for tables tell what the innermost element is. -/
theorem Nested.sort_of_modeIn {tag : Tag} {ts : List Tag} (h : Nested (tag :: ts)) :
    (modeIn (tag :: ts) = .inTable → tag.sort = .table) ∧
      (modeIn (tag :: ts) = .inTableBody → tag.sort = .section) ∧
      (modeIn (tag :: ts) = .inRow → tag.sort = .row) := by
  rcases h.takesText with h | h | h | h
  · simp [modeIn, h]
  · simp [modeIn, h]
  · simp [modeIn, h]
  · rcases takesText_iff.mp h with h | h | h <;> simp [h]

end Tag

end PageBlocks.Markup

namespace PageBlocks.Markup.Construction

open Tag

/-- The construction behind the start tag of an element of running text. -/
def startOfText (c : Construction) (t : StartTag) : Construction :=
  match t.tag.sort with
  | .block | .paragraph => c.closeOpenParagraph.insert t
  | .heading =>
    let c := c.closeOpenParagraph
    (if c.currentHas Tag.isHeading then c.pop else c).insert t
  | .item => c.startItem t
  | .link => c.closeNestedLink.reconstruct.insertFormatting t
  | .formatting => c.reconstruct.insertFormatting t
  | .inline => c.reconstruct.insert t
  | .table => c.startTable t
  | .void => c.startBodyVoid t
  | .rule => (c.closeOpenParagraph.insertVoid t).noFrameset
  | _ => c

/-- The construction behind the end tag of an element of running text. -/
def endOfText (c : Construction) (tag : Tag) : Construction :=
  match tag.sort with
  | .block => c.endBlock tag
  | .paragraph => c.endParagraph
  | .heading => c.endHeading
  | .item => c.endItem tag
  | .link | .formatting => c.closeFormatting tag
  | _ => c.closeAnyTag tag

/-! ### Elements that are current already -/

theorem popTo_current {c : Construction} {e : OpenElement} {rest : List OpenElement}
    (hopens : c.opens = e :: rest) {p : Tag → Bool} (h : e.has p = true) : c.popTo p = c := by
  rw [popTo, hopens, List.dropWhile_cons_of_neg (by simpa using h), ← hopens]

theorem popImplied_current {c : Construction} {e : OpenElement} {rest : List OpenElement}
    (hopens : c.opens = e :: rest) {p : Tag → Bool} (h : e.has p = false) : c.popImplied p = c := by
  rw [popImplied, hopens, List.dropWhile_cons_of_neg (by simpa using h), ← hopens]

theorem popThrough_current {c : Construction} {e : OpenElement} {rest : List OpenElement}
    (hopens : c.opens = e :: rest) {p : OpenElement → Bool} (h : p e = true) :
    c.popThrough p = c.pop := by
  rw [popThrough, hopens, List.dropWhile_cons_of_neg (by simpa using h), ← hopens, pop]

theorem reaches_current {e : OpenElement} {target : OpenElement → Bool} (h : target e = true)
    (barrier : OpenElement → Bool) (rest : List OpenElement) :
    reaches target barrier (e :: rest) = true := by
  rw [reaches, h, if_pos rfl]

/-! ### What a tag does by its sort -/

theorem startInBody_of_sort (c : Construction) {t : StartTag}
    (h : (t.tag.sort.isOfText || t.tag.sort.isEmpty) = true) :
    c.startInBody t = (c.startOfText t).done := by
  obtain ⟨tag, attrs, selfClosing⟩ := t
  cases tag <;> first | rfl | cases h

theorem endInBody_of_sort (c : Construction) {tag : Tag} (h : tag.sort.isOfText = true)
    (hne : tag ≠ .table) : c.endInBody tag = (c.endOfText tag).done := by
  cases tag <;> first | rfl | exact absurd rfl hne | cases h

theorem applyMode_start_of_sort {c : Construction} {t : StartTag}
    (h : (t.tag.sort.isOfText || t.tag.sort.isEmpty) = true)
    (hmode : c.mode = .inBody ∨ c.mode = .inCell ∨ c.mode = .inCaption) :
    c.applyMode (.startTag t) = (c.startOfText t).done := by
  have hbody := startInBody_of_sort c h
  have hcell : (endsTableBody t.tag || t.tag.isCell || t.tag = .tr) = false := by
    cases htag : t.tag <;> rw [htag] at h <;> first | rfl | cases h
  have hcaption : endsCaption t.tag = false := by
    cases htag : t.tag <;> rw [htag] at h <;> first | rfl | cases h
  rcases hmode with hmode | hmode | hmode
  · rw [applyMode, hmode]
    exact hbody
  · rw [applyMode, hmode]
    change inCell c _ = _
    rw [inCell, hcell, if_neg Bool.false_ne_true]
    exact hbody
  · rw [applyMode, hmode]
    change inCaption c _ = _
    rw [inCaption, hcaption, if_neg Bool.false_ne_true]
    exact hbody

theorem applyMode_end_of_sort {c : Construction} {tag : Tag} (h : tag.sort.isOfText = true)
    (hne : tag ≠ .table) (hmode : c.mode = .inBody ∨ c.mode = .inCell ∨ c.mode = .inCaption) :
    c.applyMode (.endTag tag) = (c.endOfText tag).done := by
  have hbody := endInBody_of_sort c h hne
  have hcell : tag.isCell = false := by
    cases tag <;> first | rfl | cases h
  have hpart : (tag = .table || tag.isSection || tag = .tr) = false := by
    cases tag <;> first | rfl | exact absurd rfl hne | cases h
  have hcaption : (tag = .caption || tag = .table) = false := by
    cases tag <;> first | rfl | exact absurd rfl hne | cases h
  have hother : (endsCaption tag || tag = .body || tag = .html) = false := by
    cases tag <;> first | rfl | cases h
  rcases hmode with hmode | hmode | hmode
  · rw [applyMode, hmode]
    exact hbody
  · rw [applyMode, hmode]
    change c.inCell (.endTag tag) = _
    rw [inCell, hcell, hpart, if_neg Bool.false_ne_true, if_neg Bool.false_ne_true]
    · exact hbody
    all_goals
      rintro rfl
      cases h
  · rw [applyMode, hmode]
    change c.inCaption (.endTag tag) = _
    rw [inCaption, hcaption, hother, if_neg Bool.false_ne_true, if_neg Bool.false_ne_true]
    exact hbody

theorem closesImplicitly_of_sort {tag : Tag} (h : tag.sort = .block ∨ tag.sort = .heading) :
    tag.closesImplicitly = false := by
  rcases h with h | h <;> cases tag <;> first | rfl | cases h

theorem closesImplicitly_of_isMarked {tag : Tag} (h : tag.sort = .cell ∨ tag.sort = .caption) :
    tag.closesImplicitly = false := by
  rcases h with h | h <;> cases tag <;> first | rfl | cases h

theorem isHeading_of_sort {tag : Tag} (h : tag.sort = .heading) : tag.isHeading = true := by
  cases tag <;> first | rfl | cases h

theorem sort_eq_paragraph {tag : Tag} (h : tag.sort = .paragraph) : tag = .p := by
  cases tag <;> first | rfl | cases h

/-- The end tag of the current element closes it and nothing else. -/
theorem endOfText_current {c : Construction} {id : CellId} {tag : Tag} {rest : List OpenElement}
    (hopens : c.opens = ⟨id, .html, tag⟩ :: rest) (h : tag.sort.isOfText = true)
    (hsort : tag.sort ≠ .formatting ∧ tag.sort ≠ .link) : c.endOfText tag = c.pop := by
  have hnamed : (⟨id, .html, tag⟩ : OpenElement).named tag = true := by
    simp [OpenElement.named]
  have hreaches : ∀ barrier, reaches (·.named tag) barrier c.opens = true := by
    intro barrier
    rw [hopens]
    exact reaches_current hnamed barrier rest
  have hexcept : c.popImpliedEndsExcept tag = c := by
    apply popImplied_current hopens
    simp [OpenElement.has]
  have hthrough : c.popThroughTag tag = c.pop := popThrough_current hopens hnamed
  have hends : tag.closesImplicitly = false → c.popImpliedEnds = c := by
    intro hcloses
    apply popImplied_current hopens
    rw [OpenElement.has, hcloses, Bool.and_false]
  rw [endOfText]
  cases hof : tag.sort <;> rw [hof] at h hsort
  case block =>
    dsimp only
    rw [endBlock, tagInScope, inScope, hreaches, if_pos rfl,
      hends (closesImplicitly_of_sort (Or.inl hof)), hthrough]
  case paragraph =>
    obtain rfl := sort_eq_paragraph hof
    dsimp only
    rw [endParagraph, tagInButtonScope, hreaches, if_pos rfl, closeParagraph, hexcept, hthrough]
  case heading =>
    have hheading : (⟨id, .html, tag⟩ : OpenElement).has Tag.isHeading = true := by
      rw [OpenElement.has, isHeading_of_sort hof]
      rfl
    dsimp only
    rw [endHeading, inScope, hopens, reaches_current hheading, if_pos rfl,
      hends (closesImplicitly_of_sort (Or.inr hof)), popThrough_current hopens hheading]
  case item =>
    dsimp only
    rw [endItem, tagInListScope, tagInScope, inScope, hreaches, hreaches, ite_self, if_pos rfl,
      hexcept, hthrough]
  case inline | table =>
    dsimp only
    rw [closeAnyTag, hreaches, if_pos rfl, hexcept, hthrough]
  case formatting => exact absurd rfl hsort.1
  case link => exact absurd rfl hsort.2
  all_goals cases h

theorem startInTable_of_section {c : Construction} {t : StartTag} (h : t.tag.sort = .section) :
    c.startInTable t = { c.popToTable.insert t with mode := .inTableBody }.done := by
  rw [startInTable]
  rcases sort_eq_section h with h | h | h <;> rw [h]

/-- What an element says about the mode that fits the stack. -/
theorem fittingMode_cons (c : Construction) {id : CellId} {tag : Tag} {below : List OpenElement}
    (h : tag.sort ≠ .other) (hbelow : below ≠ []) :
    c.fittingMode (⟨id, .html, tag⟩ :: below) =
      match tag.sort with
      | .table => .inTable
      | .section => .inTableBody
      | .row => .inRow
      | .cell => .inCell
      | .caption => .inCaption
      | _ => c.fittingMode below := by
  obtain ⟨next, rest, rfl⟩ := List.exists_cons_of_ne_nil hbelow
  cases tag <;> first | rfl | exact absurd rfl h

end PageBlocks.Markup.Construction
