import Mathlib.Data.List.Chain
import PageBlocks.Proofs.Markup.Scaffold.Shown

/-!
The shape of the stack of open elements. It stands on a ground that no rule takes away: the body and the
root element, or a template and what it was opened in. Parts of tables stand right on the parts around
them or in a template, and the rules in force are those of what the stack holds first. Elements that are
loose, which tables, templates and the ground are not made of, come and go without changing this.
-/
namespace PageBlocks.Markup

/-! ### Tags by their place on the stack -/

namespace Tag

/-- Elements of which there is one on the stack, at its bottom, if any. -/
def isOuter : Tag → Bool
  | .html | .head | .body | .frameset => true
  | _ => false

/-- Parts of a table that stand right on others. -/
def isPart : Tag → Bool
  | .caption | .colgroup | .tbody | .tfoot | .thead | .tr | .td | .th => true
  | _ => false

/-- What a part of a table can stand on. -/
def standsOn : Tag → Tag → Bool
  | .caption, below | .colgroup, below | .tbody, below | .tfoot, below | .thead, below =>
    below == .table || below == .template
  | .tr, below => below.isSection || below == .template
  | .td, below | .th, below => below == .tr || below == .template
  | _, _ => true

/-- Elements on which parts of a table stand. -/
def bearsPart : Tag → Bool
  | .table | .template | .tbody | .tfoot | .thead | .tr => true
  | _ => false

/-- Elements behind which nothing that is to be closed is looked for. -/
def isGround : Tag → Bool
  | .html | .body | .template => true
  | _ => false

/-- Elements on which the shape of the stack depends. -/
def isFixture (tag : Tag) : Bool := tag.isOuter || tag.isPart || tag == .table || tag == .template

theorem bearsPart_of_standsOn {tag below : Tag} (hpart : tag.isPart = true)
    (h : tag.standsOn below = true) : below.bearsPart = true := by
  cases tag <;> cases hpart
  all_goals cases below <;> first | rfl | cases h

theorem isFixture_of_bearsPart {tag : Tag} (h : tag.bearsPart = true) : tag.isFixture = true := by
  cases tag <;> first | rfl | cases h

theorem isPart_of_bearsPart {tag : Tag} (h : tag.bearsPart = true) :
    tag.isPart = true ∨ tag = .table ∨ tag = .template := by
  cases tag <;> simp [isPart] <;> cases h

theorem eq_of_isGround {tag : Tag} (h : tag.isGround = true) : tag = .html ∨ tag = .body ∨ tag = .template := by
  cases tag <;> simp at * <;> cases h

theorem isPart_of_isCell {tag : Tag} (h : tag.isCell = true) : tag.isPart = true := by
  cases tag <;> first | rfl | cases h

theorem standsOn_of_isCell {tag : Tag} (h : tag.isCell = true) (below : Tag) :
    tag.standsOn below = (below == .tr || below == .template) := by
  cases tag <;> first | rfl | cases h

theorem isGround_of_isPart {tag : Tag} (h : tag.isPart = true) : tag.isGround = false := by
  cases tag <;> first | rfl | cases h

theorem isFixture_of_isGround {tag : Tag} (h : tag.isGround = true) : tag.isFixture = true := by
  cases tag <;> first | rfl | cases h

theorem isFixture_eq_false_iff {tag : Tag} : tag.isFixture = false ↔
    tag.isOuter = false ∧ tag.isPart = false ∧ tag ≠ .table ∧ tag ≠ .template := by
  simp [isFixture, and_assoc]

end Tag

namespace OpenElement

variable {e : OpenElement} {p q : Tag → Bool} {tag : Tag}

theorem has_iff : e.has p = true ↔ e.space = .html ∧ p e.tag = true := by
  simp [has]

theorem named_iff : e.named tag = true ↔ e.space = .html ∧ e.tag = tag := by
  simp [named]

theorem has_mono (hpq : ∀ tag, p tag = true → q tag = true) (h : e.has p = true) : e.has q = true :=
  has_iff.mpr ⟨(has_iff.mp h).1, hpq _ (has_iff.mp h).2⟩

theorem has_eq_false_mono (hpq : ∀ tag, p tag = true → q tag = true) (h : e.has q = false) :
    e.has p = false := by
  rw [Bool.eq_false_iff] at h ⊢
  exact fun hp => h (has_mono hpq hp)

theorem has_of_named (h : e.named tag = true) : e.has p = p tag := by
  obtain ⟨hspace, htag⟩ := named_iff.mp h
  simp [has, hspace, htag]

theorem has_of_space (h : e.space = .html) : e.has p = p e.tag := by simp [has, h]

theorem has_eq_false_of_space (h : e.space ≠ .html) : e.has p = false := by simp [has, h]

/-- The shape of the stack does not depend on the element. -/
def IsLoose (e : OpenElement) : Prop := e.has Tag.isFixture = false

theorem IsLoose.has_eq_false (h : e.IsLoose) (hp : ∀ tag, p tag = true → tag.isFixture = true) :
    e.has p = false :=
  has_eq_false_mono hp h

theorem isLoose_of_tag (h : e.tag.isFixture = false) : e.IsLoose := by simp [IsLoose, has, h]

theorem isLoose_of_space (h : e.space ≠ .html) : e.IsLoose := has_eq_false_of_space h

end OpenElement

/-! ### Modes and what they go with -/

namespace Mode

/-- What the rules of a mode go with: the first open element that has or ends this has it. Modes that do
not go with elements on the ground seek nothing that there is. -/
def seeks : Mode → Tag → Bool
  | .inBody, tag | .inCaption, tag | .inColumnGroup, tag | .inSelect, tag =>
    tag == .body || tag == .template
  | .inTemplate, tag => tag == .template
  | .inTable, tag => tag == .table || tag == .template
  | .inTableBody, tag => tag.isSection || tag == .template
  | .inRow, tag => tag == .tr || tag == .template
  | .inCell, tag => tag.isCell
  | .inSelectInTable, tag => tag == .select
  | .afterBody, tag | .afterAfterBody, tag => tag == .body
  | _, _ => false

def stops : Mode → Tag → Bool
  | .inTableBody, tag | .inRow, tag => tag == .table || tag == .html
  | .inCell, tag | .inSelectInTable, tag => tag == .table || tag == .template || tag == .html
  | .afterBody, tag | .afterAfterBody, tag => tag == .template || tag == .html
  | .inTemplate, tag => tag.isFixture && tag != .template
  | _, tag => tag == .html

theorem isFixture_of_seeks {m : Mode} (hm : m ≠ .inSelectInTable) {tag : Tag} (h : m.seeks tag = true) :
    tag.isFixture = true := by
  cases m
  all_goals first | exact absurd rfl hm | cases h | skip
  all_goals cases tag <;> first | rfl | cases h

theorem isFixture_of_stops {m : Mode} {tag : Tag} (h : m.stops tag = true) : tag.isFixture = true := by
  by_cases hm : m = .inTemplate
  · subst hm
    exact (Bool.and_eq_true_iff.mp h).1
  · have hstops : tag = .html ∨ tag = .table ∨ tag = .template := by
      cases m <;> simp [stops] at h <;> tauto
    rcases hstops with rfl | rfl | rfl <;> rfl

/-- The modes that the content of a template can turn it to. -/
def isTurned : Mode → Bool
  | .inTemplate | .inTable | .inColumnGroup | .inTableBody | .inRow | .inBody => true
  | _ => false

end Mode

namespace Construction

open OpenElement

/-! ### What is reached -/

section

variable {target barrier : OpenElement → Bool}

theorem exists_of_reaches {es : List OpenElement} (h : reaches target barrier es = true) :
    ∃ front x rest, es = front ++ x :: rest ∧ (∀ e ∈ front, target e = false ∧ barrier e = false) ∧
      target x = true := by
  induction es with
  | nil => cases h
  | cons e es ih =>
    rw [reaches] at h
    by_cases htarget : target e = true
    · exact ⟨[], e, es, rfl, List.forall_mem_nil _, htarget⟩
    · rw [if_neg htarget] at h
      by_cases hbarrier : barrier e = true
      · rw [if_pos hbarrier] at h
        cases h
      · rw [if_neg hbarrier] at h
        obtain ⟨front, x, rest, rfl, hfront, hx⟩ := ih h
        rw [Bool.not_eq_true] at htarget hbarrier
        exact ⟨e :: front, x, rest, rfl, List.forall_mem_cons.mpr ⟨⟨htarget, hbarrier⟩, hfront⟩, hx⟩

/-- What is reached with more barriers is reached with fewer. -/
theorem reaches_mono {barrier' : OpenElement → Bool} (hbarrier : ∀ e, barrier' e = true → barrier e = true)
    {es : List OpenElement} (h : reaches target barrier es = true) : reaches target barrier' es = true := by
  induction es with
  | nil => cases h
  | cons e es ih =>
    rw [reaches] at h ⊢
    by_cases htarget : target e = true
    · rw [if_pos htarget]
    · rw [if_neg htarget] at h ⊢
      by_cases hstop : barrier e = true
      · rw [if_pos hstop] at h
        cases h
      · rw [if_neg hstop] at h
        rw [if_neg fun hstop' => hstop (hbarrier e hstop')]
        exact ih h

theorem reaches_append {front : List OpenElement}
    (hfront : ∀ e ∈ front, target e = false ∧ barrier e = false) (rest : List OpenElement) :
    reaches target barrier (front ++ rest) = reaches target barrier rest := by
  induction front with
  | nil => rfl
  | cons e front ih =>
    obtain ⟨⟨htarget, hbarrier⟩, htail⟩ := List.forall_mem_cons.mp hfront
    rw [List.cons_append, reaches, htarget, hbarrier]
    exact ih htail

theorem dropWhile_front {front : List OpenElement} (hfront : ∀ e ∈ front, target e = false)
    {x : OpenElement} (hx : target x = true) (rest : List OpenElement) :
    ((front ++ x :: rest).dropWhile fun e => !target e) = x :: rest := by
  rw [List.dropWhile_append_of_pos fun e he => by rw [hfront e he]; rfl,
    List.dropWhile_cons_of_neg (by rw [hx]; exact Bool.false_ne_true)]

end

/-! ### Parts of tables -/

/-- An element can stand right above another one. -/
def StandsOn (e below : OpenElement) : Prop := e.has Tag.isPart = true → below.has e.tag.standsOn = true

/-- Parts of tables stand right on the parts around them or in a template. -/
def Framed (es : List OpenElement) : Prop := es.IsChain StandsOn

namespace Framed

variable {e x : OpenElement} {es front rest : List OpenElement}

theorem cons (h : Framed es) (he : e.has Tag.isPart = false) : Framed (e :: es) := by
  refine List.IsChain.cons h fun below _ hpart => ?_
  rw [he] at hpart
  cases hpart

theorem cons_part (h : Framed (x :: es)) (hx : x.has e.tag.standsOn = true) : Framed (e :: x :: es) :=
  List.isChain_cons_cons.mpr ⟨fun _ => hx, h⟩

theorem append (h : Framed rest) (hfront : ∀ e ∈ front, e.has Tag.isPart = false) :
    Framed (front ++ rest) := by
  induction front with
  | nil => exact h
  | cons e front ih =>
    obtain ⟨he, htail⟩ := List.forall_mem_cons.mp hfront
    exact (ih htail).cons he

theorem drop (h : Framed (front ++ rest)) : Framed rest := List.IsChain.right_of_append h

/-- A part of a table has what it stands on right below. -/
theorem exists_below (h : Framed (e :: es)) (hne : es ≠ []) (he : e.has Tag.isPart = true) :
    ∃ below rest, es = below :: rest ∧ below.has e.tag.standsOn = true := by
  obtain ⟨below, rest, rfl⟩ := List.exists_cons_of_ne_nil hne
  exact ⟨below, rest, rfl, (List.isChain_cons_cons.mp h).1 he⟩

/-- Above an element on which no part of a table stands there are no such parts unless a table or a
template is in between. -/
theorem isPart_eq_false (h : Framed (front ++ x :: rest))
    (hfront : ∀ e ∈ front, e.has (fun tag => tag == .table || tag == .template) = false)
    (hx : x.has Tag.bearsPart = false) : ∀ e ∈ front, e.has Tag.isPart = false := by
  induction front with
  | nil => exact List.forall_mem_nil _
  | cons e front ih =>
    obtain ⟨-, htail⟩ := List.forall_mem_cons.mp hfront
    have hbelow := ih h.tail htail
    refine List.forall_mem_cons.mpr ⟨?_, hbelow⟩
    by_contra hpart
    rw [Bool.not_eq_false] at hpart
    have htagPart := (has_iff.mp hpart).2
    have hbears : ∀ below : OpenElement, below.has e.tag.standsOn = true → below.has Tag.bearsPart = true :=
      fun below => has_mono fun tag => Tag.bearsPart_of_standsOn htagPart
    cases front with
    | nil =>
      rw [hbears x ((List.isChain_cons_cons.mp h).1 hpart)] at hx
      cases hx
    | cons next front =>
      obtain ⟨hspace, htag⟩ := has_iff.mp (hbears next ((List.isChain_cons_cons.mp h).1 hpart))
      have hnext := htail next List.mem_cons_self
      have hnextPart := hbelow next List.mem_cons_self
      rw [has_of_space hspace] at hnext hnextPart
      rcases Tag.isPart_of_bearsPart htag with hpart | hother | hother
      · rw [hpart] at hnextPart
        cases hnextPart
      · rw [hother] at hnext
        cases hnext
      · rw [hother] at hnext
        cases hnext

end Framed

/-- An element on which no part of a table stands can be taken out of the stack. -/
theorem Framed.remove {front rest : List OpenElement} {e : OpenElement} (h : Framed (front ++ e :: rest))
    (he : e.has Tag.bearsPart = false) : Framed (front ++ rest) := by
  induction front with
  | nil => exact h.tail
  | cons next front ih =>
    cases front with
    | nil =>
      have hrest : Framed rest := h.tail.tail
      refine hrest.cons ?_
      by_contra hpart
      rw [Bool.not_eq_false] at hpart
      have hon := (List.isChain_cons_cons.mp h).1 hpart
      rw [has_mono (fun tag => Tag.bearsPart_of_standsOn (has_iff.mp hpart).2) hon] at he
      cases he
    | cons below front =>
      obtain ⟨hon, htail⟩ := List.isChain_cons_cons.mp h
      exact List.isChain_cons_cons.mpr ⟨hon, ih htail⟩

/-! ### The ground -/

/-- What is open in or behind the head: the root element, and the head if that has not ended. -/
inductive IsOuter (a : Arena) : List OpenElement → Prop
  | inHead {h r : OpenElement} : h.named .head = true → r.named .html = true → ShowsRoot a r.id →
    IsOuter a [h, r]
  | afterHead {r : OpenElement} : r.named .html = true → ShowsRoot a r.id → IsOuter a [r]

/-- What a stack stands on: the body, or a template that was opened in or behind the head. -/
inductive IsGround (a : Arena) : List OpenElement → Prop
  | body {b r : OpenElement} : b.named .body = true → r.named .html = true → ShowsBody a r.id b.id →
    IsGround a [b, r]
  | template {t : OpenElement} {outer : List OpenElement} : t.named .template = true → IsOuter a outer →
    IsGround a (t :: outer)

section

variable {a b : Arena}

theorem IsOuter.grown {outer : List OpenElement} (h : IsOuter a outer) (hgrown : a.Extends b) :
    IsOuter b outer := by
  cases h with
  | inHead hh hr hroot => exact .inHead hh hr (hroot.grown hgrown)
  | afterHead hr hroot => exact .afterHead hr (hroot.grown hgrown)

/-- The ground stays what it is while the arena grows. -/
theorem IsGround.grown {ground : List OpenElement} (h : IsGround a ground) (hgrown : a.Extends b) :
    IsGround b ground := by
  cases h with
  | body hb hr hbody => exact .body hb hr (hbody.grown hgrown)
  | template ht houter => exact .template ht (houter.grown hgrown)

end

/-- The stack stands on a ground, and no element above it is one of those that stand below. -/
inductive Above (ground : List OpenElement) : List OpenElement → Prop
  | ground : Above ground ground
  | inner {e : OpenElement} {es : List OpenElement} : e.has Tag.isOuter = false → Above ground es →
    Above ground (e :: es)

section

variable {a : Arena} {ground : List OpenElement}

theorem Above.tail (hground : IsGround a ground) {x : OpenElement} {rest : List OpenElement}
    (h : Above ground (x :: rest)) (hx : x.has Tag.isGround = false) :
    Above ground rest ∧ x.has Tag.isOuter = false := by
  cases h with
  | inner houter h => exact ⟨h, houter⟩
  | ground =>
    cases hground with
    | body hb => rw [has_of_named hb] at hx; cases hx
    | template ht => rw [has_of_named ht] at hx; cases hx

theorem Above.drop (hground : IsGround a ground) {front rest : List OpenElement}
    (h : Above ground (front ++ rest)) (hfront : ∀ e ∈ front, e.has Tag.isGround = false) :
    Above ground rest ∧ ∀ e ∈ front, e.has Tag.isOuter = false := by
  induction front with
  | nil => exact ⟨h, List.forall_mem_nil _⟩
  | cons e front ih =>
    obtain ⟨he, htail⟩ := List.forall_mem_cons.mp hfront
    obtain ⟨hrest, houter⟩ := Above.tail hground h he
    obtain ⟨hlast, houters⟩ := ih hrest htail
    exact ⟨hlast, List.forall_mem_cons.mpr ⟨houter, houters⟩⟩

theorem IsOuter.has_isFixture {outer : List OpenElement} (h : IsOuter a outer) :
    ∀ e ∈ outer, e.has Tag.isFixture = true := by
  cases h with
  | inHead hh hr => simp [has_of_named hh, has_of_named hr, Tag.isFixture, Tag.isOuter]
  | afterHead hr => simp [has_of_named hr, Tag.isFixture, Tag.isOuter]

theorem IsGround.has_isFixture (h : IsGround a ground) : ∀ e ∈ ground, e.has Tag.isFixture = true := by
  cases h with
  | body hb hr => simp [has_of_named hb, has_of_named hr, Tag.isFixture, Tag.isOuter]
  | template ht houter => exact List.forall_mem_cons.mpr ⟨has_of_named ht, houter.has_isFixture⟩

theorem Above.remove (hground : IsGround a ground) {front rest : List OpenElement} {e : OpenElement}
    (h : Above ground (front ++ e :: rest)) (he : e.IsLoose) : Above ground (front ++ rest) := by
  have hnot : e ∉ ground := by
    intro hmem
    rw [IsLoose, hground.has_isFixture e hmem] at he
    cases he
  induction front with
  | nil => exact (Above.tail hground h (he.has_eq_false fun _ => Tag.isFixture_of_isGround)).1
  | cons next front ih =>
    cases h with
    | ground => exact absurd (by simp) hnot
    | inner houter h => exact .inner houter (ih h)

/-- What is looked for no deeper than to the next template, and is not of the ground itself, is found above
the ground. -/
theorem Above.exists_of_reaches (hground : IsGround a ground) {opens : List OpenElement}
    (h : Above ground opens) {target barrier : OpenElement → Bool}
    (hbarrier : ∀ e, e.named .template = true → barrier e = true)
    (htarget : ∀ e ∈ opens, target e = true → e.has Tag.isGround = false)
    (hreach : reaches target barrier opens = true) :
    ∃ front x rest, opens = front ++ x :: rest ∧ (∀ e ∈ front, target e = false ∧ barrier e = false) ∧
      target x = true ∧ Above ground rest ∧ ∀ e ∈ front ++ [x], e.has Tag.isOuter = false := by
  have hmiss : ∀ e ∈ opens, e.has Tag.isGround = true → target e = false := by
    intro e he hbottom
    rw [Bool.eq_false_iff]
    intro htrue
    rw [htarget e he htrue] at hbottom
    cases hbottom
  induction h with
  | ground =>
    cases hground with
    | @body b r hb hr =>
      have hbMiss := hmiss b List.mem_cons_self (has_of_named hb)
      have hrMiss := hmiss r (List.mem_cons_of_mem b List.mem_cons_self) (has_of_named hr)
      simp [reaches, hbMiss, hrMiss] at hreach
    | @template t outer ht =>
      have htMiss := hmiss t List.mem_cons_self (has_of_named ht)
      simp [reaches, htMiss, hbarrier t ht] at hreach
  | @inner e es houter h ih =>
    rw [reaches] at hreach
    by_cases hfound : target e = true
    · refine ⟨[], e, es, rfl, List.forall_mem_nil _, hfound, h, ?_⟩
      exact List.forall_mem_singleton.mpr houter
    · rw [if_neg hfound] at hreach
      by_cases hstop : barrier e = true
      · rw [if_pos hstop] at hreach
        cases hreach
      · rw [if_neg hstop] at hreach
        obtain ⟨front, x, rest, rfl, hfront, hx, hrest, houters⟩ :=
          ih (fun e he => htarget e (List.mem_cons_of_mem _ he)) hreach
            fun e he => hmiss e (List.mem_cons_of_mem _ he)
        rw [Bool.not_eq_true] at hfound hstop
        exact ⟨e :: front, x, rest, rfl, List.forall_mem_cons.mpr ⟨⟨hfound, hstop⟩, hfront⟩, hx, hrest,
          List.forall_mem_cons.mpr ⟨houter, houters⟩⟩

end

/-! ### The whole stack -/

/-- The stack stands on its ground, with the parts of tables where they can be. Every open template counts
among the modes of templates. -/
structure Stack (old : Arena) (ground opens : List OpenElement) (templateModes : List Mode)
    (head : Option CellId) : Prop where
  firm : IsGround old ground
  above : Above ground opens
  framed : Framed opens
  templates : opens.countP (·.named .template) ≤ templateModes.length
  turned : ∀ m ∈ templateModes, m.isTurned = true
  head : head.isSome = true

namespace Stack

variable {old : Arena} {ground front rest opens : List OpenElement} {modes : List Mode}
  {head : Option CellId} {e : OpenElement}

theorem drop (h : Stack old ground (front ++ rest) modes head)
    (hfront : ∀ e ∈ front, e.has Tag.isGround = false) : Stack old ground rest modes head where
  firm := h.firm
  above := (h.above.drop h.firm hfront).1
  framed := h.framed.drop
  templates := (List.sublist_append_right front rest).countP_le.trans h.templates
  turned := h.turned
  head := h.head

/-- An element is put on the stack where it can stand. -/
theorem push (h : Stack old ground opens modes head) (houter : e.has Tag.isOuter = false)
    (hframed : Framed (e :: opens)) (htemplate : e.named .template = false) :
    Stack old ground (e :: opens) modes head where
  firm := h.firm
  above := .inner houter h.above
  framed := hframed
  templates := by
    rw [List.countP_cons, htemplate]
    exact h.templates
  turned := h.turned
  head := h.head

theorem push_loose (h : Stack old ground opens modes head) (he : e.IsLoose) :
    Stack old ground (e :: opens) modes head := by
  have hpart := he.has_eq_false (p := Tag.isPart) fun tag htag => by simp [Tag.isFixture, htag]
  refine h.push (he.has_eq_false fun tag htag => by simp [Tag.isFixture, htag]) (h.framed.cons hpart) ?_
  rw [Bool.eq_false_iff]
  intro hnamed
  rw [IsLoose, has_of_named hnamed] at he
  cases he

/-- Loose elements can be taken out of the stack wherever they are. -/
theorem remove (h : Stack old ground (front ++ e :: rest) modes head) (he : e.IsLoose) :
    Stack old ground (front ++ rest) modes head where
  firm := h.firm
  above := h.above.remove h.firm he
  framed := h.framed.remove (he.has_eq_false fun _ => Tag.isFixture_of_bearsPart)
  templates := (List.Sublist.countP_le (by simp)).trans h.templates
  turned := h.turned
  head := h.head

theorem append_loose (h : Stack old ground rest modes head) (hfront : ∀ e ∈ front, e.IsLoose) :
    Stack old ground (front ++ rest) modes head := by
  induction front with
  | nil => exact h
  | cons e front ih =>
    obtain ⟨he, htail⟩ := List.forall_mem_cons.mp hfront
    exact (ih htail).push_loose he

/-- A part of a table is put right on what it stands on. -/
theorem push_part {below : OpenElement} (h : Stack old ground (below :: rest) modes head)
    (hpart : e.tag.isPart = true) (hbelow : below.has e.tag.standsOn = true) :
    Stack old ground (e :: below :: rest) modes head := by
  refine h.push ?_ (h.framed.cons_part hbelow) ?_
  · rw [has, Bool.and_eq_false_iff]
    right
    cases htag : e.tag <;> rw [htag] at hpart <;> first | rfl | cases hpart
  · rw [Bool.eq_false_iff]
    intro hnamed
    rw [(named_iff.mp hnamed).2] at hpart
    cases hpart

theorem push_template (h : Stack old ground opens modes head) (he : e.named .template = true) :
    Stack old ground (e :: opens) (.inTemplate :: modes) head where
  firm := h.firm
  above := .inner (has_of_named he) h.above
  framed := h.framed.cons (has_of_named he)
  templates := by
    rw [List.countP_cons, he]
    exact Nat.succ_le_succ h.templates
  turned := List.forall_mem_cons.mpr ⟨rfl, h.turned⟩
  head := h.head

/-- With the innermost template goes its mode. -/
theorem drop_template {t : OpenElement} (h : Stack old ground (front ++ t :: rest) modes head)
    (ht : t.named .template = true) (habove : Above ground rest) :
    Stack old ground rest modes.tail head where
  firm := h.firm
  above := habove
  framed := h.framed.drop.tail
  templates := by
    have hcount := h.templates
    rw [List.countP_append, List.countP_cons, ht, if_pos rfl] at hcount
    rw [List.length_tail]
    omega
  turned m hm := h.turned m (List.mem_of_mem_tail hm)
  head := h.head

/-- What a scope does not reach beyond: all elements down to one that is loose are loose. -/
theorem isLoose_of_scope {x : OpenElement} (h : Stack old ground (front ++ x :: rest) modes head)
    (houter : ∀ e ∈ front, e.has Tag.isOuter = false) (hscope : ∀ e ∈ front, boundsScope e = false)
    (hx : x.IsLoose) : ∀ e ∈ front, e.IsLoose := by
  have hbears : x.has Tag.bearsPart = false := hx.has_eq_false fun _ => Tag.isFixture_of_bearsPart
  have htable : ∀ e ∈ front, e.has (fun tag => tag == .table || tag == .template) = false := by
    intro e he
    rw [Bool.eq_false_iff]
    intro hhas
    obtain ⟨hspace, htag⟩ := has_iff.mp hhas
    have hbound := hscope e he
    rw [boundsScope, hspace] at hbound
    rcases (Bool.or_eq_true_iff.mp htag) with htag | htag
    · rw [eq_of_beq htag] at hbound
      cases hbound
    · rw [eq_of_beq htag] at hbound
      cases hbound
  have hpart := h.framed.isPart_eq_false htable hbears
  intro e he
  rw [IsLoose, Bool.eq_false_iff]
  intro hfixture
  obtain ⟨hspace, htag⟩ := has_iff.mp hfixture
  have hno := htable e he
  have hnoOuter := houter e he
  have hnoPart := hpart e he
  rw [has_of_space hspace] at hno hnoOuter hnoPart
  rw [Bool.or_eq_false_iff] at hno
  rw [Tag.isFixture, hnoOuter, hnoPart, hno.1, hno.2] at htag
  cases htag

end Stack

/-! ### Modes that fit -/

/-- The rules of the mode go with what the stack holds first. -/
def Fits (m : Mode) (opens : List OpenElement) : Prop := reaches (·.has m.seeks) (·.has m.stops) opens = true

section

variable {m : Mode} {front rest opens : List OpenElement}

theorem fits_append (hfront : ∀ e ∈ front, e.has m.seeks = false ∧ e.has m.stops = false) :
    Fits m (front ++ rest) ↔ Fits m rest := by
  rw [Fits, reaches_append hfront, Fits]

theorem fits_cons {e : OpenElement} (he : e.has m.seeks = false ∧ e.has m.stops = false) :
    Fits m (e :: rest) ↔ Fits m rest := by
  rw [Fits, reaches, he.1, he.2, if_neg Bool.false_ne_true, if_neg Bool.false_ne_true, Fits]

/-- Loose elements do not change which rules fit. -/
theorem fits_append_loose (hm : m ≠ .inSelectInTable) (hfront : ∀ e ∈ front, e.IsLoose) :
    Fits m (front ++ rest) ↔ Fits m rest :=
  fits_append fun e he => ⟨(hfront e he).has_eq_false fun _ => Mode.isFixture_of_seeks hm,
    (hfront e he).has_eq_false fun _ => Mode.isFixture_of_stops⟩

theorem fits_of_current {e : OpenElement} (he : e.has m.seeks = true) (rest : List OpenElement) :
    Fits m (e :: rest) := by
  rw [Fits, reaches, he, if_pos rfl]

/-- Above a body or a template the rules for running text fit. -/
theorem fits_of_above {a : Arena} {ground : List OpenElement} (hground : IsGround a ground)
    (h : Above ground opens)
    (hm : m.seeks = (fun tag => tag == .body || tag == .template) ∧ m.stops = (· == .html)) :
    Fits m opens := by
  rw [Fits, hm.1, hm.2]
  induction h with
  | ground =>
    cases hground with
    | body hb => rw [reaches, has_of_named hb]; rfl
    | template ht => rw [reaches, has_of_named ht]; rfl
  | @inner e es houter _ ih =>
    have hstop : e.has (· == .html) = false := by
      refine has_eq_false_mono (fun tag htag => ?_) houter
      rw [eq_of_beq htag]
      rfl
    rw [reaches, hstop, ih]
    simp

end

/-- The construction has grown out of an old arena and its stack stands on the ground. -/
def Rests (old : Arena) (ground : List OpenElement) (c : Construction) : Prop :=
  c.Grows old ∧ Stack old ground c.opens c.templateModes c.head

/-- The construction stands on the ground with the rules of a mode in force, and these fit. -/
def Inside (old : Arena) (ground : List OpenElement) (m : Mode) (c : Construction) : Prop :=
  c.Rests old ground ∧ c.mode = m ∧ Fits m c.opens

end Construction

end PageBlocks.Markup
