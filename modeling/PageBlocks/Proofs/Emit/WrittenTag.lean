import PageBlocks.Proofs.Emit.Unescape
import PageBlocks.Proofs.Markup.Tags

/-!
Tags as they are written. A start tag in markup and the opening of a shortcode have the same shape: a
name, then attributes with their values in double quotes, then a closing character. As no written value
has a double quote or the closing character in it, the tag ends where that character first stands, and
the double quotes part it into its names and values.
-/
namespace PageBlocks.Emit

/-- A tag with the values of its attributes as they are written. -/
structure WrittenTag where
  name : String
  attrs : List (String × String)
  deriving DecidableEq

namespace WrittenTag

/-- The value of an attribute with its escapes undone. -/
def value? (t : WrittenTag) (table : Escapes) (name : String) : Option String :=
  (t.attrs.lookup name).map (unescape table)

/-- The tag with a name and attributes, as it is written. -/
def of (escape : Char → List Char) (name : String) (attrs : List (String × String)) : WrittenTag :=
  ⟨name, attrs.map fun a => (a.1, String.ofList (a.2.toList.flatMap escape))⟩

/-- The attributes in the pieces of a text between double quotes: the name of each stands before its
value, behind a space and before an equals sign. -/
def attrsIn : List (List Char) → List (String × String)
  | name :: value :: pieces =>
    (String.ofList ((name.drop 1).takeWhile (· != '=')), String.ofList value) :: attrsIn pieces
  | _ => []

/-- A character of the name of a tag. -/
def isNamePart (c : Char) : Bool := c != ' ' && c != '/'

/-- The tag at the front of a text, up to the closing character, and what follows it. -/
def read (close : Char) (cs : List Char) : WrittenTag × List Char :=
  let inside := (cs.takeWhile (· != close)).drop 1
  (⟨String.ofList (inside.takeWhile isNamePart), attrsIn ((inside.dropWhile isNamePart).splitOn '"')⟩,
    (cs.dropWhile (· != close)).drop 1)

end WrittenTag

/-- Of things that each have two marks around others, none has any inside exactly if there are no marks
but the two of each. -/
theorem flatMap_around_eq_iff {α β : Type} (first last : α → β) (inside : α → List β) (xs : List α) :
    (xs.flatMap fun a => first a :: (inside a ++ [last a])) =
        (xs.flatMap fun a => [first a, last a]) ↔ ∀ a ∈ xs, inside a = [] := by
  have hlength : ∀ ys : List α, (ys.flatMap fun a => first a :: (inside a ++ [last a])).length =
      (ys.flatMap fun a => [first a, last a]).length + (ys.flatMap inside).length := by
    intro ys
    induction ys with
    | nil => rfl
    | cons a ys ih =>
      simp only [List.flatMap_cons, List.length_append, List.length_cons, List.length_nil, ih]
      omega
  constructor
  · intro h
    have hsame := congrArg List.length h
    rw [hlength] at hsame
    exact List.flatMap_eq_nil_iff.mp (List.length_eq_zero_iff.mp (by omega))
  · intro h
    exact List.flatMap_congr fun a ha => by rw [h a ha, List.nil_append]

/-- A name as tags and attributes have it. -/
def isName (s : String) : Bool := s.toList.all fun c => c.isAlphanum || c == '_'

theorem ne_of_isName {s : String} (h : isName s = true) {c d : Char} (hc : c ∈ s.toList)
    (hd : (d.isAlphanum || d == '_') = false) : c ≠ d := by
  rintro rfl
  rw [isName, List.all_eq_true] at h
  rw [h c hc] at hd
  cases hd

/-- Values are written without double quotes and without the closing character. -/
def KeepsOut (close : Char) (escape : Char → List Char) : Prop :=
  ∀ c, '"' ∉ escape c ∧ close ∉ escape c

theorem keepsOut_attrChar : KeepsOut ']' Shortcode.attrChar := by
  intro c
  unfold Shortcode.attrChar
  split
  · decide
  · decide
  · decide
  · rename_i hquote _ hend
    simp only [List.mem_singleton]
    exact ⟨fun h => hquote h.symm, fun h => hend h.symm⟩

variable {close : Char} {escape : Char → List Char}

theorem KeepsOut.value (h : KeepsOut close escape) (v : List Char) :
    '"' ∉ v.flatMap escape ∧ close ∉ v.flatMap escape :=
  ⟨notMem_escaped (fun c => (h c).1) v, notMem_escaped (fun c => (h c).2) v⟩

/-- What ends tags: the closing bracket of markup or of shortcodes. -/
def IsClose (close : Char) : Prop := close = '>' ∨ close = ']'

/-- A character that names, values and what joins them do not have stands nowhere among attributes. -/
theorem notMem_attrsText {c : Char} (hc : c ∉ [' ', '=', '"'])
    (hname : (c.isAlphanum || c == '_') = false) (hescape : ∀ d, c ∉ escape d)
    {attrs : List (String × String)} (hnames : ∀ a ∈ attrs, isName a.1 = true) :
    c ∉ Markup.attrsText escape attrs := by
  simp only [List.mem_cons, List.not_mem_nil, or_false, not_or] at hc
  obtain ⟨hspace, hequals, hquote⟩ := hc
  intro hmem
  obtain ⟨a, ha, hmem⟩ := List.mem_flatMap.mp hmem
  simp only [Markup.attrText, List.mem_cons, List.mem_append, List.not_mem_nil, or_false] at hmem
  rcases hmem with h | h | h | h | h | h
  · exact hspace h
  · exact ne_of_isName (hnames a ha) h hname rfl
  · exact hequals h
  · exact hquote h
  · exact notMem_escaped hescape a.2.toList h
  · exact hquote h

/-- The closing character stands nowhere among the attributes. -/
theorem KeepsOut.attrsText (h : KeepsOut close escape) (hclose : IsClose close)
    {attrs : List (String × String)} (hnames : ∀ a ∈ attrs, isName a.1 = true) :
    close ∉ Markup.attrsText escape attrs := by
  rcases hclose with rfl | rfl
  · exact notMem_attrsText (by decide) (by decide) (fun c => (h c).2) hnames
  · exact notMem_attrsText (by decide) (by decide) (fun c => (h c).2) hnames

/-- No escaped text has a bracket that could open a tag. -/
theorem open_notMem_escapeTextChar (c : Char) : '<' ∉ escapeTextChar c := by
  unfold escapeTextChar
  split
  · decide
  · decide
  · decide
  · rename_i hlt _
    exact fun hmem => hlt (List.mem_singleton.mp hmem).symm

theorem open_notMem_escapeValueChar (c : Char) : '<' ∉ escapeValueChar c := by
  unfold escapeValueChar
  split
  · decide
  · exact open_notMem_escapeTextChar c

theorem open_notMem_escapeText (s : String) : '<' ∉ (escapeText s).toList := by
  rw [escapeText, String.toList_ofList]
  exact notMem_escaped open_notMem_escapeTextChar s.toList

namespace WrittenTag

end WrittenTag

end PageBlocks.Emit
