import PageBlocks.Proofs.Style.Rescope
import Mathlib.Data.List.Destutter

/-!
Scoping for one post after the other. The token in front of a selector tells for which post the selector
was scoped last: for the same post nothing changes, and for any other post its token is put before all
that is there. So of each run of the same post one token is left.
-/
namespace PageBlocks.Style

/-! ### Telling tokens apart -/

theorem Quiet.takeWhile_append {token : String} (h : Quiet token) (rest : List Char) :
    (token.toList ++ ' ' :: rest).takeWhile (fun c => !Text.isBlank c) = token.toList := by
  rw [List.takeWhile_append_of_pos fun c hc => by rw [(h.2 c hc).not_blank]; rfl,
    List.takeWhile_cons_of_neg (by decide), List.append_nil]

/-- A selector behind a token carries another token only if they are the same. -/
theorem isScoped_behind {token other : String} (h : Quiet token) (hother : Quiet other)
    (selector : String) : isScoped token (other ++ " " ++ selector) = (token == other) := by
  have hchars : (other ++ " " ++ selector).toList = other.toList ++ ' ' :: selector.toList := by
    simp
  have hne : (other ++ " " ++ selector == token) = false := by
    rw [beq_eq_false_iff_ne]
    intro heq
    have hmem : ' ' ∈ token.toList := by simp [← heq]
    exact absurd (h.2 ' ' hmem).not_blank (by decide)
  rw [isScoped, hne, Bool.false_or, Bool.eq_iff_iff, List.isPrefixOf_iff_prefix, beq_iff_eq, hchars]
  constructor
  · rintro ⟨rest, hrest⟩
    rw [List.append_assoc, List.singleton_append] at hrest
    have hfront := congrArg (List.takeWhile fun c => !Text.isBlank c) hrest
    rw [h.takeWhile_append, hother.takeWhile_append] at hfront
    exact String.toList_inj.mp hfront
  · rintro rfl
    exact ⟨selector.toList, by simp⟩

theorem postToken_inj {a b : Nat} : postToken a = postToken b ↔ a = b := by
  refine ⟨fun h => ?_, fun h => h ▸ rfl⟩
  rw [postToken, postToken, String.append_right_inj] at h
  have hdigits : Nat.toDigits 10 a = Nat.toDigits 10 b := by
    rw [← Nat.toList_repr, ← Nat.toList_repr]
    exact congrArg String.toList h
  rw [← Nat.ofDigitChars_toDigits (b := 10) (n := a) (by decide) (by decide), hdigits,
    Nat.ofDigitChars_toDigits (by decide) (by decide)]

/-- A token of a post is no other post's token. -/
theorem isScoped_postToken {a b : Nat} (h : a ≠ b) : isScoped (postToken a) (postToken b) = false := by
  have hne : (postToken b == postToken a) = false := by
    rw [beq_eq_false_iff_ne, ne_eq, postToken_inj]
    exact h.symm
  rw [isScoped, hne, Bool.false_or, Bool.eq_false_iff, ne_eq, List.isPrefixOf_iff_prefix]
  intro hprefix
  -- the blank behind the token would have to be a character of the other one
  have hmem : ' ' ∈ (postToken b).toList := List.IsPrefix.subset hprefix (by simp)
  exact absurd ((quiet_postToken b).2 ' ' hmem).not_blank (by decide)

/-! ### Selectors behind tokens -/

/-- A selector behind the tokens of posts, the latest post first. -/
def behindTokens (latest : List Nat) (selector : String) : String :=
  " ".intercalate (latest.map postToken ++ [selector])

theorem behindTokens_nil (selector : String) : behindTokens [] selector = selector :=
  String.intercalate_singleton

theorem behindTokens_cons (id : Nat) (latest : List Nat) (selector : String) :
    behindTokens (id :: latest) selector = postToken id ++ " " ++ behindTokens latest selector := by
  rw [behindTokens, List.map_cons, List.cons_append, String.intercalate_cons_of_ne_nil (by simp)]
  rfl

/-- Scoping a selector for a post compares the post with the latest one alone. -/
theorem scopedSelector_behindTokens (id last : Nat) (latest : List Nat) (selector : String) :
    scopedSelector (postToken id) (behindTokens (last :: latest) selector) =
      if id = last then behindTokens (last :: latest) selector
      else behindTokens (id :: last :: latest) selector := by
  have hscoped : isScoped (postToken id) (behindTokens (last :: latest) selector) =
      decide (id = last) := by
    rw [behindTokens_cons, isScoped_behind (quiet_postToken id) (quiet_postToken last),
      Bool.eq_iff_iff, beq_iff_eq, postToken_inj, decide_eq_true_iff]
  rw [scopedSelector, hscoped, behindTokens_cons id]
  simp only [decide_eq_true_eq]

theorem foldl_scopedSelector_behindTokens (ids : List Nat) (last : Nat) (latest : List Nat)
    (selector : String) :
    ids.foldl (fun s id => scopedSelector (postToken id) s) (behindTokens (last :: latest) selector) =
      behindTokens ((ids.destutter' (· ≠ ·) last).reverse ++ latest) selector := by
  induction ids generalizing last latest with
  | nil => rfl
  | cons id ids ih =>
    rw [List.foldl_cons, scopedSelector_behindTokens]
    by_cases h : id = last
    · rw [if_pos h, ih, List.destutter'_cons_neg _ (by simpa using h.symm)]
    · rw [if_neg h, ih, List.destutter'_cons_pos _ (Ne.symm h), List.reverse_cons, List.append_assoc]
      rfl

/-- A selector without any of the tokens is put behind the token of each post whose predecessor is
another one. -/
theorem foldl_scopedSelector {ids : List Nat} {selector : String}
    (h : ∀ id ∈ ids, isScoped (postToken id) selector = false) :
    ids.foldl (fun s id => scopedSelector (postToken id) s) selector =
      behindTokens (ids.destutter (· ≠ ·)).reverse selector := by
  cases ids with
  | nil => exact (behindTokens_nil selector).symm
  | cons id ids =>
    have hfirst : scopedSelector (postToken id) selector = behindTokens [id] selector := by
      rw [scopedSelector, h id List.mem_cons_self, if_neg Bool.false_ne_true, behindTokens_cons,
        behindTokens_nil]
    rw [List.foldl_cons, hfirst, foldl_scopedSelector_behindTokens, List.append_nil]
    rfl

/-! ### Rules and style sheets -/

theorem foldl_scope (ids : List Nat) (r : Rule) :
    ids.foldl (fun r id => r.scope (postToken id)) r =
      if r.isAtRule then r
      else { r with selectors :=
        r.selectors.map fun s => ids.foldl (fun s id => scopedSelector (postToken id) s) s } := by
  induction ids generalizing r with
  | nil => simp
  | cons id ids ih =>
    rw [List.foldl_cons, ih, Rule.isAtRule_scope (quiet_postToken id)]
    cases hat : r.isAtRule with
    | true => rw [if_pos rfl, if_pos rfl, Rule.scope_of_isAtRule hat]
    | false =>
      rw [if_neg Bool.false_ne_true, if_neg Bool.false_ne_true,
        Rule.scope_of_not_isAtRule hat (quiet_postToken id), List.map_map]
      rfl

/-- Rules that are scoped for one post after the other. -/
def scopedForPosts (rules : List Rule) (ids : List Nat) : List Rule :=
  ids.foldl (fun rules id => (ScopedSheet.ofRules rules (postToken id)).rules) rules

theorem scopedForPosts_eq (rules : List Rule) (ids : List Nat) :
    scopedForPosts rules ids =
      rules.map fun r => ids.foldl (fun r id => r.scope (postToken id)) r := by
  induction ids generalizing rules with
  | nil => exact (List.map_id rules).symm
  | cons id ids ih =>
    rw [scopedForPosts, List.foldl_cons, ← scopedForPosts, ih, ScopedSheet.ofRules,
      (quiet_postToken id).trim, List.map_map]
    rfl

/-- Scoping rules for one post after the other puts before each selector the tokens of the posts without
immediate repetitions, the latest first, and changes nothing else. No post is taken for another one. -/
theorem scopedForPosts_eq_map (rules : List Rule) (ids : List Nat)
    (h : ∀ r ∈ rules, r.isAtRule = false → ∀ s ∈ r.selectors, ∀ id ∈ ids,
      s ≠ postToken id ∧ ¬ (postToken id ++ " ").toList <+: s.toList) :
    scopedForPosts rules ids =
      (rules.map fun r =>
        if r.isAtRule then r
        else { r with selectors :=
          r.selectors.map (behindTokens (ids.destutter (· ≠ ·)).reverse) }) ∧
    ∀ a b : Nat, a ≠ b → isScoped (postToken a) (postToken b) = false ∧
      ∀ s, isScoped (postToken a) (postToken b ++ " " ++ s) = false := by
  refine ⟨?rules, fun a b hne => ⟨isScoped_postToken hne, fun s => ?_⟩⟩
  case rules =>
    rw [scopedForPosts_eq]
    apply List.map_congr_left
    intro r hr
    rw [foldl_scope]
    cases hat : r.isAtRule with
    | true => rfl
    | false =>
      rw [if_neg Bool.false_ne_true, if_neg Bool.false_ne_true]
      congr 1
      apply List.map_congr_left
      intro s hs
      apply foldl_scopedSelector
      intro id hid
      obtain ⟨hne, hprefix⟩ := h r hr hat s hs id hid
      rw [isScoped, beq_false_of_ne hne, Bool.false_or, Bool.eq_false_iff, ne_eq,
        List.isPrefixOf_iff_prefix]
      rwa [String.toList_append] at hprefix
  · rw [isScoped_behind (quiet_postToken a) (quiet_postToken b), beq_eq_false_iff_ne, ne_eq,
      postToken_inj]
    exact hne

/-- Rules with an at-rule, a list of selectors and a statement. -/
def postRules : List Rule :=
  [⟨["@media print"], "a\x7bb:c\x7d", false⟩, ⟨[".a", "body.postid-53 p"], "d:e", false⟩,
    ⟨["@import url(a.css)"], "", true⟩]

/-- The decimal form of the first post begins that of the second, a post comes twice at once, and one
comes again later. -/
theorem scopedForPosts_postRules :
    scopedForPosts postRules [5, 51, 51, 5] =
      [⟨["@media print"], "a\x7bb:c\x7d", false⟩,
        ⟨["body.postid-5 body.postid-51 body.postid-5 .a",
          "body.postid-5 body.postid-51 body.postid-5 body.postid-53 p"], "d:e", false⟩,
        ⟨["@import url(a.css)"], "", true⟩] := by
  have hrules := (scopedForPosts_eq_map postRules [5, 51, 51, 5] (by decide +kernel)).1
  rw [hrules]
  decide +kernel

end PageBlocks.Style
