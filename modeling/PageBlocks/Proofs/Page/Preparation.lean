import PageBlocks.Page.Preparation
import PageBlocks.Proofs.Markup.Numbered
import PageBlocks.Proofs.Markup.Reading

/-!
Reading a prepared page. Running text, the text of a title or of an edit field and the values of
attributes come out the same whether their characters are written as they are or as references by
number: both complete the same tokens, and no token of text changes how the text behind it is read.
-/
namespace PageBlocks

/-! ### References are ASCII -/

namespace Preparation

theorem referenceChar_of_not_ascii {c : Char} (h : Text.isAscii c = false) :
    referenceChar c = '&' :: (('#' :: Nat.toDigits 10 c.toNat) ++ [';']) := by
  rw [referenceChar, h, if_neg Bool.false_ne_true, String.toList_append, String.toList_append,
    Nat.toString_eq_repr, Nat.toList_repr]
  rfl

theorem isAscii_of_mem_referenceChar {c d : Char} (h : d ∈ referenceChar c) :
    Text.isAscii d = true := by
  by_cases hascii : Text.isAscii c = true
  · rw [referenceChar, if_pos hascii, List.mem_singleton] at h
    rwa [h]
  · rw [Bool.not_eq_true] at hascii
    rw [referenceChar_of_not_ascii hascii, List.mem_cons, List.mem_append, List.mem_cons,
      List.mem_singleton] at h
    rcases h with rfl | (rfl | hdigit) | rfl
    · rfl
    · rfl
    · have hbounds := Markup.Lexer.toNat_of_isDigit (Json.isDigit_of_mem_digits hdigit)
      rw [Text.isAscii, decide_eq_true_eq]
      omega
    · rfl

/-- A text whose characters are written as references is one of ASCII. -/
theorem isAscii_withReferences (text : String) :
    (withReferences text).toList.all Text.isAscii = true := by
  rw [withReferences, String.toList_ofList, List.all_eq_true]
  intro d hd
  obtain ⟨c, -, hc⟩ := List.mem_flatMap.mp hd
  exact isAscii_of_mem_referenceChar hc

end Preparation

namespace Markup

/-! ### Text leaves the reading as it is -/

/-- Whether the text behind a token is read as the text before it. -/
def Next.readsOn : Next → Bool
  | .done | .again => true
  | .read _ | .scriptEnd => false

namespace Construction

theorem readsOn_inForeign (c : Construction) (ch : Char) :
    (c.inForeign (.char ch)).2.readsOn = true := by
  unfold inForeign
  dsimp only
  split <;> rfl

theorem readsOn_inTable (c : Construction) (ch : Char) :
    (c.inTable (.char ch)).2.readsOn = true := by
  unfold inTable
  dsimp only
  unfold charInTable
  split <;> rfl

theorem readsOn_inColumnGroup (c : Construction) (ch : Char) :
    (c.inColumnGroup (.char ch)).2.readsOn = true := by
  unfold inColumnGroup
  dsimp only
  split
  · rfl
  · unfold endColumnGroup
    split <;> rfl

/-- No rule for text asks for a mode of reading. -/
theorem readsOn_applyMode (c : Construction) (ch : Char) :
    (c.applyMode (.char ch)).2.readsOn = true := by
  unfold applyMode
  cases c.mode
  case inTable | inTableBody | inRow => exact readsOn_inTable c ch
  case inColumnGroup => exact readsOn_inColumnGroup c ch
  case inBody | text | inCaption | inCell | inSelect | inSelectInTable | inTemplate => rfl
  case inTableText | afterAfterFrameset => rfl
  -- the other modes only tell blank characters from the rest
  all_goals
    simp only [inInitial, inBeforeHtml, inBeforeHead, inHead, inAfterHead, inAfterBody,
      inAfterAfterBody, inFrameset, inAfterFrameset]
    split <;> rfl

theorem answer_consider (n : Nat) (c : Construction) (ch : Char) :
    (consider n c (.char ch)).2 = .readOn := by
  induction n generalizing c with
  | zero => rfl
  | succ n ih =>
    have hreads : (if c.isForeign (.char ch) then c.inForeign (.char ch)
        else c.applyMode (.char ch)).2.readsOn = true := by
      split
      · exact readsOn_inForeign c ch
      · exact readsOn_applyMode c ch
    rw [consider]
    generalize (if c.isForeign (.char ch) then c.inForeign (.char ch)
      else c.applyMode (.char ch)) = r at hreads ⊢
    obtain ⟨c', next⟩ := r
    cases next with
    | done => rfl
    | again => exact ih c'
    | read mode => cases hreads
    | scriptEnd => cases hreads

/-- Text never changes how the text behind it is read. -/
theorem answer_textual (c : Construction) {t : Token} (ht : Lexer.IsTextual t) :
    (c.accept t).2 = .readOn := by
  rcases ht with rfl | ⟨ch, rfl⟩
  · rfl
  · unfold accept
    dsimp only
    split
    · rfl
    · exact answer_consider _ _ ch

/-- The construction behind a text. -/
def takeText (c : Construction) (ts : List Token) : Construction :=
  ts.foldl (fun c t => (c.accept t).1) c

theorem takeText_append (c : Construction) (ts us : List Token) :
    c.takeText (ts ++ us) = (c.takeText ts).takeText us := List.foldl_append

end Construction

namespace Parser

open Lexer

variable {lx : Lexer} {c : Construction} {fresh : Bool}

theorem foldl_accept_textual {ts : List Token} (h : ∀ t ∈ ts, IsTextual t) :
    ts.foldl accept ⟨lx, c, fresh⟩ = ⟨lx, c.takeText ts, fresh⟩ := by
  induction ts generalizing c with
  | nil => rfl
  | cons t ts ih =>
    have hanswer := c.answer_textual (h t List.mem_cons_self)
    have haccept : accept ⟨lx, c, fresh⟩ t = ⟨lx, (c.accept t).1, fresh⟩ := by
      rw [accept]
      dsimp only
      rw [hanswer]
    rw [List.foldl_cons, haccept, ih (fun u hu => h u (List.mem_cons_of_mem t hu))]
    rfl

theorem step_textual {ch : Char} {r : Result} (hmark : (fresh && ch == '\ufeff') = false)
    (hstep : lx.step c.isInIsland ch = r) (h : ∀ t ∈ r.2, IsTextual t) :
    step ⟨lx, c, fresh⟩ ch = ⟨r.1, c.takeText r.2, false⟩ := by
  rw [step]
  dsimp only
  rw [hmark, if_neg Bool.false_ne_true, hstep]
  exact foldl_accept_textual h

/-- Whether a character is read as a reference to it by number would be. -/
def undoes (p : Parser) (ch : Char) : Bool :=
  Text.isAscii ch ||
    ((referenceTarget? p.lexer.state).isSome && numbered ch.toNat == ch &&
      !(p.isFresh && ch == '\ufeff'))

/-- Whether all characters of a text are read as references to them by number would be. -/
def undoesAll (p : Parser) : List Char → Bool
  | [] => true
  | ch :: cs => p.undoes ch && (p.step ch).undoesAll cs

theorem toNat_le (ch : Char) : ch.toNat ≤ 0x10FFFF := by
  have hvalid : ch.toNat < 0xD800 ∨ 0xDFFF < ch.toNat ∧ ch.toNat < 0x110000 := ch.valid
  omega

/-- A character that is aloof, and no ampersand, leads to the same parser as the reference to it. -/
theorem foldl_reference {target : ReferenceTarget} {ch : Char}
    (htarget : referenceTarget? lx.state = some target) (haloof : Aloof ch) (hne : ch ≠ '&')
    (hnumbered : numbered ch.toNat = ch) (hmark : (fresh && ch == '\ufeff') = false) :
    ('&' :: (('#' :: Nat.toDigits 10 ch.toNat) ++ [';'])).foldl step ⟨lx, c, fresh⟩ =
      step ⟨lx, c, fresh⟩ ch := by
  obtain ⟨mid, pre, hmid, hpre, hampersand, hread⟩ := exists_step c.isInIsland htarget
  have hbegin : step ⟨lx, c, fresh⟩ '&' =
      ⟨{ mid with state := .reference target .ampersand }, c.takeText pre, false⟩ :=
    step_textual (Bool.and_false fresh) hampersand hpre
  have hdigits : ('#' :: Nat.toDigits 10 ch.toNat).foldl step
      ⟨{ mid with state := .reference target .ampersand }, c.takeText pre, false⟩ =
        ⟨mid.counting target ch.toNat, c.takeText pre, false⟩ :=
    foldl_passes (passes_number hmid (toNat_le ch))
  have hend : step ⟨mid.counting target ch.toNat, c.takeText pre, false⟩ ';' =
      ⟨(mid.resolve target [ch]).1, (c.takeText pre).takeText (mid.resolve target [ch]).2, false⟩ := by
    refine step_textual rfl ?_ (isTextual_resolve mid target _)
    rw [step_counting hmid, hnumbered]
  have hself : step ⟨lx, c, fresh⟩ ch =
      ⟨(mid.resolve target [ch]).1, c.takeText (pre ++ (mid.resolve target [ch]).2), false⟩ := by
    refine step_textual hmark (hread ch haloof hne) ?_
    intro t ht
    rcases List.mem_append.mp ht with ht | ht
    · exact hpre t ht
    · exact isTextual_resolve mid target _ t ht
  rw [List.foldl_cons, hbegin, List.foldl_append, hdigits, List.foldl_cons, List.foldl_nil, hend,
    hself, Construction.takeText_append]

theorem foldl_referenceChar {p : Parser} {ch : Char} (h : p.undoes ch = true) :
    (Preparation.referenceChar ch).foldl step p = p.step ch := by
  by_cases hascii : Text.isAscii ch = true
  · rw [Preparation.referenceChar, if_pos hascii]
    rfl
  · rw [Bool.not_eq_true] at hascii
    rw [undoes, hascii, Bool.false_or, Bool.and_eq_true, Bool.and_eq_true, beq_iff_eq,
      Bool.not_eq_true'] at h
    obtain ⟨⟨htarget, hnumbered⟩, hmark⟩ := h
    obtain ⟨target, htarget⟩ := Option.isSome_iff_exists.mp htarget
    rw [Preparation.referenceChar_of_not_ascii hascii]
    have hne : ch ≠ '&' := by
      rintro rfl
      cases hascii
    exact foldl_reference htarget (.inr (.inr (.inr hascii))) hne hnumbered hmark

theorem foldl_references {p : Parser} {cs : List Char} (h : p.undoesAll cs = true) :
    (cs.flatMap Preparation.referenceChar).foldl step p = cs.foldl step p := by
  induction cs generalizing p with
  | nil => rfl
  | cons ch cs ih =>
    rw [undoesAll, Bool.and_eq_true] at h
    rw [List.flatMap_cons, List.foldl_append, foldl_referenceChar h.1, ih h.2]
    rfl

end Parser

end Markup

open Markup

/-- A page whose characters are written as references is the page that it was. -/
theorem Preparation.read_numericReferences {text : String}
    (h : Parser.start.undoesAll text.toList = true) :
    numericReferences.read text = asIs.read text := by
  rw [read, read, prepare, prepare, withReferences, Document.ofText, Document.ofText,
    String.toList_ofList, Parser.foldl_references h]

end PageBlocks
