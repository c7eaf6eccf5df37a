import PageBlocks.Markup.Node

/-!
The content container of a page. What is written into it is found there again, unless a page without
a `body` is given one by the change; nothing else of the page changes.
-/
namespace PageBlocks.Markup

namespace Node

mutual

/-- To change the first element with a tag is to change what is found under that tag. -/
theorem find?_modifyFirst? (tag : String) (f : List Node → List Node) (n : Node) :
    match n.find? tag with
    | some (e, children) =>
      ∃ m, n.modifyFirst? tag f = some m ∧ m.find? tag = some (e, f children)
    | none => n.modifyFirst? tag f = none := by
  cases n with
  | element self children =>
    by_cases htag : (self.tag == tag) = true
    · simp [find?, modifyFirst?, htag]
    · have hin := findIn?_modifyFirstIn? tag f children
      rw [find?, if_neg htag, modifyFirst?, if_neg htag]
      split at hin
      · rename_i e inner hfind
        obtain ⟨changed, hmodify, hchanged⟩ := hin
        exact ⟨.element self changed, by rw [hmodify]; rfl, by rw [find?, if_neg htag, hchanged]⟩
      · rename_i hfind
        rw [hin]
        rfl
  | text value => rfl
  | comment value => rfl
  | doctype name => rfl

theorem findIn?_modifyFirstIn? (tag : String) (f : List Node → List Node) (ns : List Node) :
    match findIn? tag ns with
    | some (e, children) =>
      ∃ ms, modifyFirstIn? tag f ns = some ms ∧ findIn? tag ms = some (e, f children)
    | none => modifyFirstIn? tag f ns = none := by
  cases ns with
  | nil => rfl
  | cons n rest =>
    have hhead := find?_modifyFirst? tag f n
    rw [findIn?, modifyFirstIn?]
    cases hfind : n.find? tag with
    | some found =>
      rw [hfind] at hhead
      obtain ⟨m, hmodify, hm⟩ := hhead
      rw [hmodify]
      exact ⟨m :: rest, rfl, by rw [findIn?, hm]⟩
    | none =>
      rw [hfind] at hhead
      dsimp only at hhead
      have hrest := findIn?_modifyFirstIn? tag f rest
      rw [hhead]
      dsimp only
      split at hrest
      · rename_i e inner hin
        obtain ⟨ms, hmodify, hms⟩ := hrest
        refine ⟨n :: ms, by rw [hmodify]; rfl, ?_⟩
        rw [findIn?, hfind]
        exact hms
      · rename_i hin
        rw [hrest]
        rfl

end

mutual

/-- Changes that do the same to what they find are the same. -/
theorem modifyFirst?_congr {tag : String} {f g : List Node → List Node} {n : Node}
    (h : ∀ e children, n.find? tag = some (e, children) → f children = g children) :
    n.modifyFirst? tag f = n.modifyFirst? tag g := by
  cases n with
  | element self children =>
    by_cases htag : (self.tag == tag) = true
    · rw [modifyFirst?, if_pos htag, modifyFirst?, if_pos htag,
        h self children (by rw [find?, if_pos htag])]
    · rw [modifyFirst?, if_neg htag, modifyFirst?, if_neg htag, modifyFirstIn?_congr]
      intro e inner hfind
      exact h e inner (by rw [find?, if_neg htag, hfind])
  | text value => rfl
  | comment value => rfl
  | doctype name => rfl

theorem modifyFirstIn?_congr {tag : String} {f g : List Node → List Node} {ns : List Node}
    (h : ∀ e children, findIn? tag ns = some (e, children) → f children = g children) :
    modifyFirstIn? tag f ns = modifyFirstIn? tag g ns := by
  cases ns with
  | nil => rfl
  | cons n rest =>
    cases hfind : n.find? tag with
    | some found =>
      rw [modifyFirstIn?, modifyFirstIn?, modifyFirst?_congr (g := g)]
      · have hhead := find?_modifyFirst? tag g n
        rw [hfind] at hhead
        obtain ⟨m, hmodify, -⟩ := hhead
        rw [hmodify]
      · intro e children hn
        exact h e children (by rw [findIn?, hn])
    | none =>
      rw [modifyFirstIn?, modifyFirstIn?, modifyFirst?_congr (g := g), modifyFirstIn?_congr (g := g)]
      · intro e children hrest
        exact h e children (by rw [findIn?, hfind, hrest])
      · intro e children hn
        rw [hfind] at hn
        cases hn

end

mutual

/-- A change that does nothing leaves the tree as it is, if it finds its place. -/
theorem modifyFirst?_id {tag : String} {n m : Node} (h : n.modifyFirst? tag id = some m) :
    m = n := by
  cases n with
  | element self children =>
    rw [modifyFirst?] at h
    split at h
    · exact (Option.some.inj h).symm
    · obtain ⟨changed, hchanged, rfl⟩ := Option.map_eq_some_iff.mp h
      rw [modifyFirstIn?_id hchanged]
  | text value => cases h
  | comment value => cases h
  | doctype name => cases h

theorem modifyFirstIn?_id {tag : String} {ns ms : List Node}
    (h : modifyFirstIn? tag id ns = some ms) : ms = ns := by
  cases ns with
  | nil => cases h
  | cons n rest =>
    rw [modifyFirstIn?] at h
    split at h
    · rename_i m hm
      rw [← Option.some.inj h, modifyFirst?_id hm]
    · obtain ⟨changed, hchanged, rfl⟩ := Option.map_eq_some_iff.mp h
      rw [modifyFirstIn?_id hchanged]

end

end Node

namespace Document

variable {d : Document} {f g : List Node → List Node}

/-- What is written into the content container is found there. The condition holds of every change
that makes up no `body`. -/
theorem bodyChildren_modifyBody
    (h : Node.findIn? "body" d.children = none → Node.findIn? "body" (f d.children) = none) :
    (d.modifyBody f).bodyChildren = f d.bodyChildren := by
  have hin := Node.findIn?_modifyFirstIn? "body" f d.children
  unfold bodyChildren modifyBody
  cases hfind : Node.findIn? "body" d.children with
  | some found =>
    rw [hfind] at hin
    obtain ⟨ms, hmodify, hms⟩ := hin
    rw [hmodify, hms]
  | none =>
    rw [hfind] at hin
    dsimp only at hin
    rw [hin]
    dsimp only
    rw [h hfind]

theorem modifyBody_congr (h : f d.bodyChildren = g d.bodyChildren) :
    d.modifyBody f = d.modifyBody g := by
  have hin := Node.findIn?_modifyFirstIn? "body" g d.children
  unfold bodyChildren at h
  unfold modifyBody
  rw [Node.modifyFirstIn?_congr (g := g)]
  · split
    · rfl
    · rename_i hnone
      cases hfind : Node.findIn? "body" d.children with
      | some found =>
        rw [hfind] at hin
        obtain ⟨ms, hmodify, -⟩ := hin
        rw [hnone] at hmodify
        cases hmodify
      | none =>
        rw [hfind] at h
        exact congrArg Document.mk h
  · intro e children hfind
    rwa [hfind] at h

theorem modifyBody_id (d : Document) : d.modifyBody id = d := by
  unfold modifyBody
  split
  · rename_i children hmodify
    rw [Node.modifyFirstIn?_id hmodify]
  · rfl

/-- A change that leaves the contents of the container alone leaves the page alone. -/
theorem modifyBody_of_fixed (h : f d.bodyChildren = d.bodyChildren) : d.modifyBody f = d := by
  rw [modifyBody_congr (g := id) h, modifyBody_id]

end Document

end PageBlocks.Markup
