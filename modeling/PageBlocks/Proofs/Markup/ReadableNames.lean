import PageBlocks.Markup.Construction.Foreign
import PageBlocks.Proofs.Markup.ShownTags
import PageBlocks.Proofs.Text.Letters

/-!
Names and comments that can be read as they are written. A name ends where a tag would end it, and the text
of a comment does not end the comment. The lexer makes the letters of names small; the construction gives
some names of other vocabularies their capitals back.
-/
namespace PageBlocks.Markup

open Lexer

/-- An element name as the lexer yields it: it can be read as it is written, and it is in small letters. -/
structure Tag.IsNamed (t : Tag) : Prop where
  name : isTagName t.toString.toList = true
  known : .ofString t.toString = t

theorem Tag.isNamed_ofString {name : String} (h : isTagName name.toList = true) :
    (Tag.ofString name).IsNamed := by
  have hstring := Tag.toString_ofString name
  exact ⟨hstring.symm ▸ h, congrArg ofString hstring⟩

/-- A token whose names, comment or document type can be read as they are written. -/
def Token.IsReadable : Token → Prop
  | .startTag t => t.tag.IsNamed ∧ ∀ a ∈ t.attrs, isAttrText a.1.toList = true
  | .comment value => IsSealed value.toList
  | .doctype d => '>' ∉ (d.name.getD "").toList
  | _ => True

namespace Lexer

/-! ### Names -/

theorem isNameChar_of_isAlpha {c : Char} (h : c.isAlpha = true) : isNameChar c.toLower = true := by
  have hlower : c.toLower.isAlpha = true := Text.isAlpha_toLower h
  simp only [isNameChar, isSpace, Bool.and_eq_true, Bool.not_eq_true', Bool.or_eq_false_iff, bne_iff_ne,
    beq_eq_false_iff_ne, beq_iff_eq, Text.toLower_toLower, and_true]
  refine ⟨⟨⟨⟨⟨⟨⟨?_, ?_⟩, ?_⟩, ?_⟩, ?_⟩, ?_⟩, ?_⟩, ?_⟩
  all_goals exact ne_of_isAlpha hlower rfl

theorem isTagChar_mended {c : Char} (hspace : isSpace c = false) (hslash : c ≠ '/') (hend : c ≠ '>')
    (hbreak : c ≠ '\r') : isTagChar (mended c) = true := by
  by_cases hnul : c = '\x00'
  · subst hnul
    rfl
  · rw [mended, if_neg (by simpa using hnul)]
    simp [isTagChar, hspace, hslash, hend, hbreak, hnul]

theorem toLower_eq_of_not_isAlpha {c : Char} (h : ¬ c.isAlpha = true) : c.toLower = c := by
  exact Text.toLower_of_not_isUpper fun hupper => h (Text.isAlpha_iff.mpr (Or.inl hupper))

/-- A character of a name counts as a small letter. -/
theorem isNameChar_toLower {c : Char} (h : isTagChar c = true) : isNameChar c.toLower = true := by
  by_cases halpha : c.isAlpha = true
  · exact isNameChar_of_isAlpha halpha
  · have hsame := toLower_eq_of_not_isAlpha halpha
    rw [hsame]
    simp only [isTagChar, Bool.and_eq_true] at h
    simp only [isNameChar, Bool.and_eq_true, hsame, beq_self_eq_true, and_true]
    exact h

theorem isTagChar_of_isNameChar {c : Char} (h : isNameChar c = true) : isTagChar c = true := by
  rw [isNameChar, Bool.and_eq_true] at h
  exact h.1

theorem isTagName_begin {c : Char} (h : c.isAlpha = true) : isTagName [c.toLower] = true := by
  simp [isTagName, isNameChar_of_isAlpha h, Text.isAlpha_toLower h]

theorem isTagName_push {name : List Char} (h : isTagName name = true) {c : Char}
    (hc : isNameChar c = true) : isTagName (name ++ [c]) = true := by
  rw [isTagName, Bool.and_eq_true] at h ⊢
  cases name with
  | nil => exact absurd h.1 (by simp)
  | cons first tail =>
    refine ⟨h.1, ?_⟩
    rw [List.all_append, h.2, Bool.true_and, List.all_cons, hc]
    rfl

theorem isElementText_of_isTagName {name : List Char} (h : isTagName name = true) :
    isElementText name = true := by
  rw [isTagName, Bool.and_eq_true] at h
  rw [isElementText, Bool.and_eq_true]
  exact ⟨h.1, List.all_eq_true.mpr fun c hc => isTagChar_of_isNameChar (List.all_eq_true.mp h.2 c hc)⟩

theorem isAttrText_begin {c : Char} (h : isTagChar c = true) : isAttrText [c] = true := by
  simp [isAttrText, h]

theorem isAttrText_push {name : List Char} (h : name = [] ∨ isAttrText name = true) {c : Char}
    (hc : isTagChar c = true) (hequal : c ≠ '=') : isAttrText (name ++ [c]) = true := by
  rcases h with rfl | h
  · exact isAttrText_begin hc
  · simp only [isAttrText, Bool.and_eq_true, Bool.not_eq_true', List.isEmpty_eq_false_iff] at h ⊢
    obtain ⟨⟨hne, hchars⟩, hequals⟩ := h
    refine ⟨⟨by simp, by simp [hchars, hc]⟩, ?_⟩
    rw [List.tail_append_of_ne_nil hne, List.all_append, hequals]
    simpa using hequal

theorem mended_eq_iff {c d : Char} (hnul : d ≠ '\x00') (hreplaced : d ≠ replacement) :
    mended c = d ↔ c = d := by
  unfold mended
  split
  · rename_i hc
    rw [eq_of_beq hc]
    exact iff_of_false (Ne.symm hreplaced) (Ne.symm hnul)
  · rfl

theorem mended_ne_return {c : Char} (hc : c ≠ '\r') : mended c ≠ '\r' := by
  rw [Ne, mended_eq_iff (by decide) (by decide)]
  exact hc

/-- To replace NUL and to make letters small yields no mark that was not there. -/
theorem toLower_ne {c d : Char} (hmark : d.isAlpha = false) (hnul : d ≠ '\x00')
    (hreplaced : d ≠ replacement) (hc : c ≠ d) : (mended c).toLower ≠ d := by
  by_cases halpha : (mended c).isAlpha = true
  · exact ne_of_isAlpha (Text.isAlpha_toLower halpha) hmark
  · rw [toLower_eq_of_not_isAlpha halpha, Ne, mended_eq_iff hnul hreplaced]
    exact hc

/-! ### Comments -/

/-- The lexer stands in a comment that only its own end brings to an end. -/
def inCommentText : LexState → Bool
  | .commentStart | .commentStartDash | .comment | .commentEndDash | .commentEnd | .commentEndBang => true
  | _ => false

theorem commentStep_of_ne {s : LexState} (h : inCommentText s = true) {c : Char} (hc : c ≠ '>') :
    ∃ s', commentStep s c = some s' ∧ inCommentText s' = true := by
  cases s <;> simp only [inCommentText] at h <;> try cases h
  all_goals
    simp only [commentStep, hc, if_false]
    repeat' split
    all_goals exact ⟨_, rfl, rfl⟩

/-- A text without a bracket that closes does not end a comment. -/
theorem isSealed_of_notMem {cs : List Char} (hclose : '>' ∉ cs) (hbreak : '\r' ∉ cs) : IsSealed cs := by
  have hrun : ∀ s, inCommentText s = true → ∃ s', commentRun s cs = some s' := by
    clear hbreak
    induction cs with
    | nil => exact fun s _ => ⟨s, rfl⟩
    | cons c cs ih =>
      intro s hs
      rw [List.mem_cons, not_or] at hclose
      obtain ⟨mid, hstep, hmid⟩ := commentStep_of_ne hs (Ne.symm hclose.1)
      obtain ⟨s', hrest⟩ := ih hclose.2 mid hmid
      exact ⟨s', Option.bind_eq_some_iff.mpr ⟨mid, hstep, hrest⟩⟩
  exact ⟨hbreak, hrun .commentStart rfl⟩

theorem isSealed_of_append {cs : List Char} (ds : List Char) (h : IsSealed (cs ++ ds)) : IsSealed cs := by
  obtain ⟨hbreak, s, hrun⟩ := h
  rw [commentRun, List.foldlM_append] at hrun
  obtain ⟨mid, hmid, -⟩ := Option.bind_eq_some_iff.mp hrun
  exact ⟨fun h => hbreak (List.mem_append_left ds h), mid, hmid⟩

/-- What has been read of a comment without being counted to its text yet. -/
def dashesBehind : LexState → List Char
  | .commentStartDash | .commentEndDash => ['-']
  | .commentEnd => ['-', '-']
  | .commentEndBang => ['-', '-', '!']
  | _ => []

/-- The comment in the making is at the place where its text leads. -/
structure AtComment (s : LexState) (comment : List Char) : Prop where
  run : commentRun .commentStart (comment.reverse ++ dashesBehind s) = some s
  noReturn : '\r' ∉ comment

theorem AtComment.isSealed {s : LexState} {comment : List Char} (h : AtComment s comment) :
    IsSealed comment.reverse := by
  refine isSealed_of_append (dashesBehind s) ⟨?_, _, h.run⟩
  rw [List.mem_append, List.mem_reverse, not_or]
  refine ⟨h.noReturn, ?_⟩
  cases s <;> simp [dashesBehind]

end Lexer

/-! ### Elements and attributes -/

/-- An element name that can be read as it is written, and that is not the name of a style sheet written
otherwise. -/
structure Tag.IsReadable (t : Tag) : Prop where
  text : isElementText t.toString.toList = true
  style : Text.lower t.toString = "style" → t.toString = "style"

theorem Tag.IsNamed.isReadable {t : Tag} (h : t.IsNamed) : t.IsReadable := by
  refine ⟨isElementText_of_isTagName h.name, fun hstyle => ?_⟩
  have hsmall : Text.lower t.toString = t.toString := by
    have hname := h.name
    rw [isTagName, Bool.and_eq_true, List.all_eq_true] at hname
    rw [← String.toList_inj, Text.lower_toList]
    refine (List.map_congr_left fun c hc => ?_).trans (List.map_id' _)
    have hchar := hname.2 c hc
    rw [isNameChar, Bool.and_eq_true, beq_iff_eq] at hchar
    exact hchar.2
  rw [← hsmall, hstyle]

/-- Attributes whose names can be read as they are written. -/
def Attributes.IsReadable (attrs : Attributes) : Prop :=
  ∀ a ∈ attrs, isAttrText a.name.written.toList = true

namespace Attributes

theorem isReadable_insert {attrs : Attributes} (h : attrs.IsReadable) {name : AttrName}
    (hname : isAttrText name.written.toList = true) (value : String) :
    (attrs.insert name value).IsReadable := by
  induction attrs with
  | nil => exact List.forall_mem_singleton.mpr hname
  | cons a attrs ih =>
    obtain ⟨hfirst, hrest⟩ := List.forall_mem_cons.mp h
    unfold insert
    split_ifs
    · exact List.forall_mem_cons.mpr ⟨hname, hrest⟩
    · exact List.forall_mem_cons.mpr ⟨hname, h⟩
    · exact List.forall_mem_cons.mpr ⟨hfirst, ih hrest⟩

theorem isReadable_addMissing {attrs more : Attributes} (h : attrs.IsReadable) (hmore : more.IsReadable) :
    (attrs.addMissing more).IsReadable := by
  unfold addMissing
  induction more generalizing attrs with
  | nil => exact h
  | cons a more ih =>
    obtain ⟨hfirst, hrest⟩ := List.forall_mem_cons.mp hmore
    rw [List.foldl_cons]
    refine ih ?_ hrest
    split
    · exact h
    · exact isReadable_insert h hfirst a.value

end Attributes

namespace Construction

theorem isReadable_htmlAttrs {t : StartTag} (h : (Token.startTag t).IsReadable) :
    (htmlAttrs t).IsReadable := by
  refine Attributes.isReadable_addMissing (List.forall_mem_nil _) fun a ha => ?_
  obtain ⟨own, hown, rfl⟩ := List.mem_map.mp ha
  exact h.2 own hown

theorem written_foreignName (name : String) : (foreignName name).written = name := by
  unfold foreignName
  split <;> rfl

/-- A word of letters can be the name of an element and of an attribute. -/
theorem isText_of_word {name : List Char} (h : (!name.isEmpty && name.all Char.isAlpha) = true) :
    isElementText name = true ∧ isAttrText name = true := by
  rw [Bool.and_eq_true, Bool.not_eq_true', List.isEmpty_eq_false_iff, List.all_eq_true] at h
  obtain ⟨hne, halpha⟩ := h
  obtain ⟨first, tail, rfl⟩ := List.exists_cons_of_ne_nil hne
  have hchars : (first :: tail).all isTagChar = true := by
    refine List.all_eq_true.mpr fun c hc => ?_
    simp only [isTagChar, isSpace, Bool.and_eq_true, Bool.not_eq_true', Bool.or_eq_false_iff, bne_iff_ne,
      beq_eq_false_iff_ne]
    refine ⟨⟨⟨⟨⟨⟨⟨?_, ?_⟩, ?_⟩, ?_⟩, ?_⟩, ?_⟩, ?_⟩, ?_⟩
    all_goals exact ne_of_isAlpha (halpha c hc) rfl
  have hequals : tail.all (· != '=') = true := by
    refine List.all_eq_true.mpr fun c hc => bne_iff_ne.mpr ?_
    exact ne_of_isAlpha (halpha c (List.mem_cons_of_mem first hc)) rfl
  constructor
  · rw [isElementText, hchars, Bool.and_true]
    exact halpha first List.mem_cons_self
  · rw [isAttrText, hchars, List.tail_cons, hequals]
    rfl

theorem withCapitals_cases (names : List String) (s : String) :
    withCapitals names s = s ∨ withCapitals names s ∈ names ∧ Text.lower (withCapitals names s) = s := by
  unfold withCapitals
  cases hfind : names.find? fun name => Text.lower name == s with
  | none => exact .inl rfl
  | some name => exact .inr ⟨List.mem_of_find?_eq_some hfind, by simpa using List.find?_some hfind⟩

theorem isReadable_attrsIn (space : Space) {t : StartTag} (h : (Token.startTag t).IsReadable) :
    (attrsIn space t).IsReadable := by
  have hwords : ∀ name ∈ svgAttrs, (!name.toList.isEmpty && name.toList.all Char.isAlpha) = true := by
    decide +kernel
  refine Attributes.isReadable_addMissing (List.forall_mem_nil _) fun a ha => ?_
  obtain ⟨own, hown, rfl⟩ := List.mem_map.mp ha
  dsimp only
  rw [written_foreignName]
  have hname := h.2 own hown
  cases space with
  | html => exact hname
  | svg =>
    rcases withCapitals_cases svgAttrs own.1 with hsame | ⟨hmem, -⟩
    · dsimp only
      rwa [hsame]
    · exact (isText_of_word (hwords _ hmem)).2
  | mathml =>
    dsimp only
    split
    · decide +kernel
    · exact hname

theorem isReadable_tagIn (space : Space) {tag : Tag} (h : tag.IsNamed) : (tagIn space tag).IsReadable := by
  have hwords : ∀ name ∈ svgTags, (!name.toList.isEmpty && name.toList.all Char.isAlpha) = true := by
    decide +kernel
  unfold tagIn
  split
  · rename_i name
    rcases withCapitals_cases svgTags name with hsame | ⟨hmem, hlower⟩
    · rw [hsame]
      exact h.isReadable
    · refine ⟨(isText_of_word (hwords _ hmem)).1, fun hstyle => ?_⟩
      -- the name of a style sheet has a rule of its own
      rw [show (Tag.other (withCapitals svgTags name)).toString = withCapitals svgTags name from rfl,
        hlower] at hstyle
      subst hstyle
      exact absurd h.known (by decide +kernel)
  · exact h.isReadable

end Construction

end PageBlocks.Markup
