import PageBlocks.Markup.Parser
import PageBlocks.Proofs.Markup.Settled
import PageBlocks.Proofs.Markup.Tags

/-!
Reading markup inside open elements. What a piece of markup does is said by the open elements before and
after it, with what is finished inside each of them. Two things may still be kept back between two pieces:
the character of a reference, until the next character, and blank text inside a table, until the next tag.
-/
namespace PageBlocks.Markup

open Tag

/-- An open element without its cell. -/
structure Layer where
  tag : Tag
  attrs : Attributes
  done : List Node

/-- Whether a token is a tag. -/
def Token.isTag : Token → Bool
  | .startTag _ | .endTag _ => true
  | _ => false

/-- Attributes that are added count where there were none of their names. -/
theorem Attributes.find?_addMissing (own more : Attributes) (name : AttrName) :
    (own.addMissing more).find? name = (own.find? name).or (more.find? name) := by
  induction more generalizing own with
  | nil => exact Option.or_none.symm
  | cons a more ih =>
    have hcons : own.addMissing (a :: more) =
        (if (own.find? a.name).isSome then own else own.insert a.name a.value).addMissing more := rfl
    rw [hcons, ih, Attributes.find?]
    by_cases hname : a.name = name
    · subst hname
      rw [if_pos rfl]
      cases hown : own.find? a.name with
      | none => simp [Attributes.find?_insert]
      | some v => simp [hown]
    · rw [if_neg hname]
      split
      · rfl
      · rw [Attributes.find?_insert_of_ne (Ne.symm hname)]

namespace Layer

def node (l : Layer) : Node := .element ⟨.html, l.tag.toString, l.attrs⟩ l.done

def add (l : Layer) (n : Node) : Layer := { l with done := l.done ++ [n] }

def push (l : Layer) (ch : Char) : Layer := { l with done := Node.pushChar l.done ch }

def tags (ls : List Layer) : List Tag := ls.map Layer.tag

end Layer

namespace Frame

def layer (f : Frame Node) : Layer := ⟨f.tag, f.attrs, f.done⟩

theorem tags_layers (fs : List (Frame Node)) : Layer.tags (fs.map Frame.layer) = tags fs := by
  rw [Layer.tags, List.map_map]
  rfl

end Frame

namespace Construction

variable {c c' : Construction} {f : Frame Node} {fs fs' : List (Frame Node)} {l : Layer}
  {ls ls' : List Layer}

/-! ### Blank text that is kept back -/

/-- The construction inside a table, keeping text back. -/
def keeping (c : Construction) (text : List Char) : Construction :=
  { c with mode := .inTableText, returnMode := c.mode, tableText := text.reverse }

/-- The construction inside open elements, in a table maybe with blank text that is kept back. -/
inductive Stands : Construction → List Layer → Prop
  | settled {c : Construction} {fs : List (Frame Node)} :
    Settled c fs → Stands c (fs.map Frame.layer)
  | keeping {c : Construction} {f : Frame Node} {fs : List (Frame Node)} {text : List Char} :
    Settled c (f :: fs) → takesText (Frame.tags (f :: fs)) = false →
      text.all Text.isAsciiBlank = true →
      Stands (c.keeping text)
        (({ f with done := text.foldl Node.pushChar f.done } :: fs).map Frame.layer)

theorem Carries.isInIsland (h : Carries c fs) : c.isInIsland = false := by
  rw [Construction.isInIsland, h.opens]
  cases fs <;> rfl

theorem Carries.isForeign (h : Carries c fs) (t : Token) : c.isForeign t = false := by
  rw [Construction.isForeign, h.opens]
  cases fs <;> rfl

theorem Stands.isInIsland (h : Stands c ls) : c.isInIsland = false := by
  cases h with
  | settled h => exact h.isInIsland
  | keeping h _ _ => exact h.isInIsland

/-- The construction inside open elements accepts a token and stands inside others then. -/
def Takes (c : Construction) (t : Token) (ls : List Layer) : Prop :=
  ∃ c', c.accept t = (c', .readOn) ∧ Stands c' ls

/-- A token that the rules in force settle at once. -/
theorem consider_done {t : Token} (hforeign : c.isForeign t = false)
    (hmode : c.applyMode t = (c', .done)) (n : Nat) : consider (n + 1) c t = (c', .readOn) := by
  rw [consider, hforeign, if_neg Bool.false_ne_true, hmode]

theorem consider_again {t : Token} (hforeign : c.isForeign t = false)
    (hmode : c.applyMode t = (c', .again)) (n : Nat) :
    consider (n + 1) c t = consider n c' t := by
  rw [consider, hforeign, if_neg Bool.false_ne_true, hmode]

theorem patience_eq (c : Construction) : ∃ n, c.patience = n + 1 + 1 :=
  ⟨62 + 4 * c.templateModes.length, by rw [patience]; omega⟩

theorem noLineFeed_eq (h : c.skipsLineFeed = false) : { c with skipsLineFeed := false } = c := by
  cases c
  cases h
  rfl

/-- The text that is kept back goes into the innermost element. -/
theorem Settled.flush (h : Settled c (f :: fs)) {text : List Char}
    (hblank : text.all Text.isAsciiBlank = true) :
    Settled { (c.keeping text).flushTableText with mode := c.mode }
      ({ f with done := text.foldl Node.pushChar f.done } :: fs) := by
  have hput : ∀ (cs : List Char) (c : Construction) (f : Frame Node), Carries c (f :: fs) →
      ∃ a, cs.foldl Construction.putChar c = { c with arena := a } ∧
        a.Builds ({ f with done := cs.foldl Node.pushChar f.done } :: fs) := by
    intro cs
    induction cs with
    | nil => exact fun c f hc => ⟨c.arena, rfl, hc.builds⟩
    | cons ch cs ih =>
      intro c f hc
      have hstep := hc.putChar ch
      have heq := hc.putChar_eq ch
      obtain ⟨a, hfold, ha⟩ := ih _ _ hstep
      refine ⟨a, ?_, ha⟩
      rw [List.foldl_cons, hfold, heq]
  have hcarries : Carries { c.keeping text with tableText := [] } (f :: fs) :=
    ⟨h.builds, h.opens, h.fostering⟩
  obtain ⟨a, hfold, ha⟩ := hput text _ f hcarries
  have hflush : (c.keeping text).flushTableText =
      { c.keeping text with tableText := [], arena := a } := by
    have htext : (c.keeping text).tableText.reverse = text := List.reverse_reverse text
    rw [flushTableText, htext]
    dsimp only
    rw [if_pos hblank, hfold]
  rw [hflush]
  have hfill := h.fill ha
  exact { hfill with
    builds := ha
    opens := h.opens
    fostering := h.fostering
    nested := hfill.nested
    mode := hfill.mode
    templateModes := h.templateModes
    skipsLineFeed := h.skipsLineFeed
    vintage := h.vintage
    tableText := rfl
    formatting := hfill.formatting }

theorem accept_tag (hskips : c.skipsLineFeed = false) {t : Token} (ht : t.isTag = true) :
    c.accept t = consider c.patience c t := by
  match t, ht with
  | .startTag _, _ | .endTag _, _ =>
    unfold accept
    dsimp only
    rw [noLineFeed_eq hskips]

theorem accept_char (hskips : c.skipsLineFeed = false) (ch : Char) :
    c.accept (.char ch) = consider c.patience c (.char ch) := by
  rw [accept, noLineFeed_eq hskips, hskips, Bool.false_and, if_neg Bool.false_ne_true]

/-- A tag, for which text that is kept back goes where it belongs. -/
theorem Stands.tag (h : Stands c ls) {t : Token} (ht : t.isTag = true)
    (hstep : ∀ c fs, Settled c fs → fs.map Frame.layer = ls →
      ∃ c' fs', c.applyMode t = (c', .done) ∧ Settled c' fs' ∧ fs'.map Frame.layer = ls') :
    Takes c t ls' := by
  cases h with
  | settled h =>
    obtain ⟨c', fs', hmode, hsettled, rfl⟩ := hstep _ _ h rfl
    obtain ⟨n, hn⟩ := patience_eq c
    refine ⟨c', ?_, .settled hsettled⟩
    rw [accept_tag h.skipsLineFeed ht, hn]
    exact consider_done (h.isForeign t) hmode _
  | @keeping c f fs text h _ hblank =>
    obtain ⟨c', fs', hmode, hsettled, rfl⟩ := hstep _ _ (h.flush hblank) rfl
    obtain ⟨n, hn⟩ := patience_eq (c.keeping text)
    have hcarries : Carries (c.keeping text) (f :: fs) := ⟨h.builds, h.opens, h.fostering⟩
    have hskips : (c.keeping text).skipsLineFeed = false := h.skipsLineFeed
    have hagain : (c.keeping text).applyMode t =
        ({ (c.keeping text).flushTableText with mode := (c.keeping text).returnMode }, .again) := by
      match t, ht with
      | .startTag _, _ | .endTag _, _ => rfl
    refine ⟨c', ?_, .settled hsettled⟩
    rw [accept_tag hskips ht, hn, consider_again (hcarries.isForeign t) hagain]
    exact consider_done ((h.flush hblank).isForeign t) hmode _

theorem isTablePart_of_sort {tag : Tag}
    (h : tag.sort = .table ∨ tag.sort = .section ∨ tag.sort = .row) : tag.isTablePart = true := by
  rcases h with h | h | h
  · rw [sort_eq_table h]
    rfl
  · rcases sort_eq_section h with h | h | h <;> rw [h] <;> rfl
  · rw [sort_eq_row h]
    rfl

/-- Inside a table the construction begins to keep text back. -/
theorem Settled.keep (h : Settled c (f :: fs)) (htext : takesText (Frame.tags (f :: fs)) = false)
    {ch : Char} (hnul : ch ≠ '\x00') : c.accept (.char ch) = (c.keeping [ch], .readOn) := by
  have hsort : f.tag.sort = .table ∨ f.tag.sort = .section ∨ f.tag.sort = .row := by
    rcases h.nested.takesText with hsort | hsort | hsort | htakes
    · exact Or.inl hsort
    · exact Or.inr (Or.inl hsort)
    · exact Or.inr (Or.inr hsort)
    · cases htakes.symm.trans htext
  have hpart : c.currentHas Tag.isTablePart = true := by
    rw [currentHas, h.opens]
    exact isTablePart_of_sort hsort
  have hmode : c.applyMode (.char ch) = c.charInTable (.char ch) := by
    rw [applyMode, h.mode, Frame.tags_cons, modeIn]
    rcases hsort with hsort | hsort | hsort <;> rw [hsort] <;> rfl
  have hagain : c.applyMode (.char ch) =
      ({ c with returnMode := c.mode, mode := .inTableText }, .again) := by
    rw [hmode, charInTable, if_pos hpart]
  have hcarries : Carries { c with returnMode := c.mode, mode := .inTableText } (f :: fs) :=
    ⟨h.builds, h.opens, h.fostering⟩
  have hkeep : { c with returnMode := c.mode, mode := Mode.inTableText }.applyMode (.char ch) =
      (c.keeping [ch], .done) := by
    change inTableText _ (.char ch) = _
    rw [inTableText, if_neg (by simpa using hnul), keeping, h.tableText]
    rfl
  obtain ⟨n, hn⟩ := patience_eq c
  rw [accept_char h.skipsLineFeed, hn, consider_again (h.isForeign _) hagain]
  exact consider_done (hcarries.isForeign _) hkeep n

/-- A character of running text, or blank text inside a table. -/
theorem Stands.char (h : Stands c (l :: ls)) {ch : Char} (hnul : ch ≠ '\x00')
    (hch : takesText (Layer.tags (l :: ls)) = true ∨ Text.isAsciiBlank ch = true) :
    Takes c (.char ch) (l.push ch :: ls) := by
  generalize hall : l :: ls = all at h hch
  cases h with
  | @settled c fs h =>
    obtain ⟨f, rest, rfl, rfl, rfl⟩ := List.map_eq_cons_iff.mp hall.symm
    rw [Frame.tags_layers] at hch
    cases htext : takesText (Frame.tags (f :: rest)) with
    | true =>
      obtain ⟨c', hmode, hsettled⟩ := h.char htext hnul
      obtain ⟨n, hn⟩ := patience_eq c
      refine ⟨c', ?_, .settled hsettled⟩
      rw [accept_char h.skipsLineFeed, hn]
      exact consider_done (h.isForeign _) hmode _
    | false =>
      rw [htext] at hch
      have hblank : [ch].all Text.isAsciiBlank = true := by simpa using hch
      exact ⟨_, h.keep htext hnul, .keeping h htext hblank⟩
  | @keeping c f fs text h htext hblank =>
    obtain ⟨rfl, rfl⟩ := List.cons_eq_cons.mp hall
    rw [Frame.tags_layers] at hch
    have hch : Text.isAsciiBlank ch = true := by
      rcases hch with hch | hch
      · cases hch.symm.trans htext
      · exact hch
    have hblank' : (text ++ [ch]).all Text.isAsciiBlank = true := by
      rw [List.all_append, hblank, List.all_cons, hch]
      rfl
    have hcarries : Carries (c.keeping text) (f :: fs) := ⟨h.builds, h.opens, h.fostering⟩
    have hskips : (c.keeping text).skipsLineFeed = false := h.skipsLineFeed
    have hkeep : (c.keeping text).applyMode (.char ch) = (c.keeping (text ++ [ch]), .done) := by
      change inTableText _ (.char ch) = _
      rw [inTableText, if_neg (by simpa using hnul), Construction.keeping, Construction.keeping,
        List.reverse_append]
      rfl
    obtain ⟨n, hn⟩ := patience_eq (c.keeping text)
    have hstands := Stands.keeping h htext hblank'
    rw [List.foldl_append] at hstands
    refine ⟨c.keeping (text ++ [ch]), ?_, hstands⟩
    rw [accept_char hskips, hn]
    exact consider_done (hcarries.isForeign _) hkeep _

/-- An element begins. -/
theorem Stands.start (h : Stands c (l :: ls)) {t : StartTag}
    (hbegins : begins (Layer.tags (l :: ls)) t.tag = true) :
    Takes c (.startTag t) (⟨t.tag, htmlAttrs t, []⟩ :: l :: ls) := by
  apply h.tag rfl
  intro c fs hsettled hlayers
  obtain ⟨f, fs, rfl, rfl, rfl⟩ := List.map_eq_cons_iff.mp hlayers
  have htags := Frame.tags_layers (f :: fs)
  rw [List.map_cons] at htags
  rw [htags] at hbegins
  obtain ⟨c', hmode, hsettled'⟩ := hsettled.start hbegins
  exact ⟨c', _, hmode, hsettled', rfl⟩

/-- An element that holds nothing. -/
theorem Stands.empty (h : Stands c (l :: ls)) {t : StartTag}
    (hstands : standsEmpty (Layer.tags (l :: ls)) t.tag = true) :
    Takes c (.startTag t) (l.add (.element ⟨.html, t.tag.toString, htmlAttrs t⟩ []) :: ls) := by
  apply h.tag rfl
  intro c fs hsettled hlayers
  obtain ⟨f, fs, rfl, rfl, rfl⟩ := List.map_eq_cons_iff.mp hlayers
  have htags := Frame.tags_layers (f :: fs)
  rw [List.map_cons] at htags
  rw [htags] at hstands
  obtain ⟨c', hmode, hsettled'⟩ := hsettled.empty hstands
  exact ⟨c', _, hmode, hsettled', rfl⟩

/-- The innermost element ends. -/
theorem Stands.finish {l' : Layer} (h : Stands c (l' :: l :: ls))
    (hbegins : begins (Layer.tags (l :: ls)) l'.tag = true) (hnested : Nested (Layer.tags (l :: ls))) :
    Takes c (.endTag l'.tag) (l.add l'.node :: ls) := by
  apply h.tag rfl
  intro c fs hsettled hlayers
  obtain ⟨f', rest, rfl, rfl, hrest⟩ := List.map_eq_cons_iff.mp hlayers
  obtain ⟨f, fs, rfl, rfl, rfl⟩ := List.map_eq_cons_iff.mp hrest
  have htags := Frame.tags_layers (f :: fs)
  rw [List.map_cons] at htags
  rw [htags] at hbegins hnested
  obtain ⟨c', hmode, hsettled'⟩ := hsettled.finish hbegins hnested
  exact ⟨c', _, hmode, hsettled', rfl⟩

end Construction

namespace Parser

variable {p q : Parser} {c : Construction} {lx lx' : Lexer} {l : Layer} {ls ls' ls'' : List Layer}
  {escape : Char → List Char}

/-! ### Characters -/

/-- Two parsers go on in the same way with whatever comes. -/
structure Like (p q : Parser) : Prop where
  step : ∀ ch, ch ≠ '\r' → p.step ch = q.step ch
  finish : p.finish = q.finish

theorem Like.foldl (h : Like p q) {ch : Char} (hch : ch ≠ '\r') (cs : List Char) :
    (ch :: cs).foldl Parser.step p = (ch :: cs).foldl Parser.step q := by
  rw [List.foldl_cons, List.foldl_cons, h.step ch hch]

theorem step_eq (lx : Lexer) (c : Construction) (ch : Char) :
    step ⟨lx, c, false⟩ ch =
      (lx.step c.isInIsland ch).2.foldl accept ⟨(lx.step c.isInIsland ch).1, c, false⟩ := rfl

/-- What completes no token leaves the construction alone. -/
theorem foldl_passes {cs : List Char} (h : Lexer.Passes c.isInIsland lx cs lx') :
    cs.foldl step ⟨lx, c, false⟩ = ⟨lx', c, false⟩ := by
  induction cs generalizing lx with
  | nil =>
    obtain rfl : lx = lx' := h
    rfl
  | cons ch cs ih =>
    obtain ⟨mid, hstep, hrest⟩ := h
    rw [List.foldl_cons, step_eq, hstep]
    exact ih hrest

theorem accept_readOn {t : Token} {c' : Construction} (h : c.accept t = (c', .readOn)) :
    accept ⟨lx, c, false⟩ t = ⟨lx, c', false⟩ := by
  rw [accept, h]

theorem construction_accept (p : Parser) (t : Token) :
    (p.accept t).construction = (p.construction.accept t).1 := by
  rw [accept]
  dsimp only
  split <;> rfl

/-- The parser reads running text inside open elements. -/
def Stands (p : Parser) (ls : List Layer) : Prop :=
  ∃ lx c, lx.AtData ∧ Construction.Stands c ls ∧ Like p ⟨lx, c, false⟩

/-- A piece of markup leads from open elements to open elements. -/
def Reads (cs : List Char) (ls ls' : List Layer) : Prop :=
  ∀ p : Parser, p.Stands ls → (cs.foldl step p).Stands ls'

theorem Reads.nil (ls : List Layer) : Reads [] ls ls := fun _ h => h

theorem Reads.append {cs ds : List Char} (h : Reads cs ls ls') (h' : Reads ds ls' ls'') :
    Reads (cs ++ ds) ls ls'' := by
  intro p hp
  rw [List.foldl_append]
  exact h' _ (h p hp)

/-- A tag is read up to its last character, and then the construction accepts it. -/
theorem reads_token {cs : List Char} {ch : Char} (hch : ch ≠ '\r') {t : Token}
    (hread : ∀ lx : Lexer, lx.AtData → ∃ mid lx', Lexer.Passes false lx (ch :: cs) mid ∧
      mid.step false '>' = (lx', [t]) ∧ lx'.AtData)
    (htake : ∀ c, Construction.Stands c ls → c.Takes t ls') :
    Reads (ch :: cs ++ ['>']) ls ls' := by
  rintro p ⟨lx, c, hlx, hc, hlike⟩
  obtain ⟨mid, lx', hpasses, hstep, hdata⟩ := hread lx hlx
  obtain ⟨c', haccept, hc'⟩ := htake c hc
  have hisland := hc.isInIsland
  rw [List.foldl_append, hlike.foldl hch, foldl_passes (hisland ▸ hpasses), List.foldl_cons,
    List.foldl_nil, step_eq, hisland, hstep, List.foldl_cons, List.foldl_nil, accept_readOn haccept]
  exact ⟨lx', c', hdata, hc', fun _ _ => rfl, rfl⟩

theorem atData_eq (h : lx.AtData) : { lx with state := .data } = lx := by
  obtain ⟨hstate, -⟩ := h
  cases lx
  cases hstate
  rfl

theorem finish_atData (h : lx.AtData) : lx.finish = [.eof] := by
  rw [Lexer.finish, h.1]
  rfl

/-- The character behind a reference makes it count. -/
theorem like_holding (h : lx.AtData) {name : List Char} {ch : Char} (hname : Entity.Settles name ch)
    {c' : Construction} (haccept : c.accept (.char ch) = (c', .readOn)) (hc : c.isInIsland = false)
    (hc' : c'.isInIsland = false) :
    Like ⟨lx.holding .data name, c, false⟩ ⟨lx, c', false⟩ := by
  constructor
  · intro next hnext
    have hplain : lx.step false next = lx.inData next := by
      rw [Lexer.step_eq h.2 hnext, Lexer.dispatch, h.1]
    have hheld : (lx.holding .data name).step false next =
        ((lx.inData next).1, .char ch :: (lx.inData next).2) := by
      rw [Lexer.step_holding h.2 hname hnext]
      change (({ lx with state := LexState.data }.inData next).1,
        Token.char ch :: ({ lx with state := LexState.data }.inData next).2) = _
      rw [atData_eq h]
    rw [step_eq, step_eq, hc, hc', hplain, hheld, List.foldl_cons, accept_readOn haccept]
  · have hheld : (lx.holding .data name).finish = [.char ch, .eof] := by
      change Lexer.finishReference .data (.named name.reverse) ++ [Token.eof] = _
      rw [Lexer.finishReference, if_neg (by simp [Lexer.ReferenceTarget.isValue])]
      dsimp only
      rw [List.reverse_reverse, hname.reading]
      rfl
    rw [finish, finish, hheld, finish_atData h, List.foldl_cons, accept_readOn haccept,
      List.foldl_cons, List.foldl_cons, List.foldl_nil, List.foldl_nil, construction_accept,
      construction_accept]

/-- A character of text is read, however it is written. -/
theorem reads_char {written : List Char} {ch : Char} (hwritten : Writes (· = '<') written ch)
    (hkept : isKept ch = true)
    (hch : takesText (Layer.tags (l :: ls)) = true ∨ Text.isAsciiBlank ch = true) :
    Reads written (l :: ls) (l.push ch :: ls) := by
  rintro p ⟨lx, c, hlx, hc, hlike⟩
  rw [isKept, Bool.and_eq_true, bne_iff_ne, bne_iff_ne] at hkept
  obtain ⟨c', haccept, hc'⟩ := hc.char hkept.1 hch
  have hisland := hc.isInIsland
  rcases hwritten with ⟨rfl, hamp, hless⟩ | ⟨name, rfl, hname⟩ | ⟨n, hn, rfl, rfl⟩
  · have hstep : lx.step false ch = (lx, [.char ch]) := by
      rw [Lexer.step_eq hlx.2 hkept.2, Lexer.dispatch, hlx.1]
      change lx.inData ch = _
      rw [Lexer.inData, if_neg (by simpa using hamp), if_neg (by simpa using hless), Lexer.emit,
        atData_eq hlx]
      rfl
    rw [hlike.foldl hkept.2, List.foldl_cons, List.foldl_nil, step_eq, hisland, hstep,
      List.foldl_cons, List.foldl_nil, accept_readOn haccept]
    exact ⟨lx, c', hlx, hc', fun _ _ => rfl, rfl⟩
  · have hpasses : Lexer.Passes c.isInIsland lx ('&' :: name) (lx.holding .data name) :=
      Lexer.passes_reference hlx.2 hlx.1 hname
    rw [hlike.foldl (by decide), foldl_passes hpasses]
    exact ⟨lx, c', hlx, hc', like_holding hlx hname haccept hisland hc'.isInIsland⟩
  · have hhome : lx.state = Lexer.home .data := hlx.1
    have hbegin : lx.step c.isInIsland '&' = ({ lx with state := .reference .data .ampersand }, []) := by
      rw [Lexer.step_eq hlx.2 (by decide), Lexer.dispatch_ampersand hhome]
    have hpasses : Lexer.Passes c.isInIsland lx ('&' :: '#' :: Nat.toDigits 10 n)
        (lx.counting .data n) := ⟨_, hbegin, Lexer.passes_number hlx.2 hn⟩
    have hend : (lx.counting .data n).step c.isInIsland ';' = (lx, [.char (Lexer.numbered n)]) := by
      rw [Lexer.step_counting hlx.2, Lexer.resolve, Lexer.emit, atData_eq hlx]
      rfl
    rw [hlike.foldl (by decide), ← List.cons_append, List.foldl_append, foldl_passes hpasses,
      List.foldl_cons, List.foldl_nil, step_eq, hend, List.foldl_cons, List.foldl_nil,
      accept_readOn haccept]
    exact ⟨lx, c', hlx, hc', fun _ _ => rfl, rfl⟩

/-- Text is read, however it is written. -/
theorem reads_written {written text : List Char} (hwritten : WritesAll (· = '<') written text)
    (hkept : text.all isKept = true)
    (htext : takesText (Layer.tags (l :: ls)) = true ∨ text.all Text.isAsciiBlank = true) :
    Reads written (l :: ls) ({ l with done := text.foldl Node.pushChar l.done } :: ls) := by
  induction hwritten generalizing l with
  | nil => exact .nil _
  | @cons written rest ch text hchar _ ih =>
    rw [List.all_cons, Bool.and_eq_true] at hkept
    rw [List.all_cons, Bool.and_eq_true] at htext
    have hfirst : Reads written (l :: ls) (l.push ch :: ls) :=
      reads_char hchar hkept.1 (htext.imp_right And.left)
    have hrest : Reads rest (l.push ch :: ls)
        ({ l with done := (ch :: text).foldl Node.pushChar l.done } :: ls) :=
      ih hkept.2 (htext.imp_right And.right)
    exact hfirst.append hrest

/-- Text is read, however it is escaped. -/
theorem reads_text (hescape : EscapesText escape) {text : List Char} (hkept : text.all isKept = true)
    (htext : takesText (Layer.tags (l :: ls)) = true ∨ text.all Text.isAsciiBlank = true) :
    Reads (text.flatMap escape) (l :: ls)
      ({ l with done := text.foldl Node.pushChar l.done } :: ls) :=
  reads_written (hescape.writesAll text) hkept htext

/-! ### Elements -/

/-- A start tag as it is written. -/
def startText (escape : Char → List Char) (name : String) (attrs : List (String × String)) :
    List Char :=
  '<' :: (name.toList ++ attrsText escape attrs) ++ ['>']

/-- An end tag as it is written. -/
def endText (name : String) : List Char := '<' :: '/' :: name.toList ++ ['>']

/-- Whether a name and attributes can be written in a start tag. -/
def isWritable (name : String) (attrs : List (String × String)) : Bool :=
  isTagName name.toList && attrs.all (fun a => isAttrName a.1.toList && a.2.toList.all isKept) &&
    (attrs.map (·.1)).Nodup

variable {name : String} {attrs : List (String × String)}

theorem isTagName_of_isWritable (h : isWritable name attrs = true) :
    isTagName name.toList = true := by
  rw [isWritable, Bool.and_eq_true, Bool.and_eq_true] at h
  exact h.1.1

/-- The attributes of an element whose start tag is read. -/
def attrsOf (name : String) (attrs : List (String × String)) : Attributes :=
  Construction.htmlAttrs ⟨.ofString name, attrs, false⟩

/-- Of the values that a start tag has under a name the first one counts. -/
theorem get?_attrsOf (tag key : String) : (attrsOf tag attrs).get? key = attrs.lookup key := by
  rw [attrsOf, Construction.htmlAttrs, Attributes.ofList, Attributes.get?, Attributes.find?_addMissing]
  change Attributes.find? (.plain key) (attrs.map fun a => ⟨.plain a.1, a.2⟩) = _
  induction attrs with
  | nil => rfl
  | cons a attrs ih =>
    rw [List.map_cons, Attributes.find?, List.lookup_cons, ih]
    by_cases hkey : a.1 = key
    · simp [hkey]
    · have hne : (key == a.1) = false := beq_false_of_ne (Ne.symm hkey)
      rw [hne]
      exact if_neg fun heq => hkey (AttrName.mk.inj heq).2

theorem reads_startText (hescape : EscapesValue escape) (h : isWritable name attrs = true)
    (htake : ∀ c, Construction.Stands c ls → c.Takes (.startTag ⟨.ofString name, attrs, false⟩) ls') :
    Reads (startText escape name attrs) ls ls' := by
  simp only [isWritable, Bool.and_eq_true, List.all_eq_true, decide_eq_true_eq] at h
  obtain ⟨⟨hname, hattrs⟩, hnodup⟩ := h
  refine reads_token (by decide) (fun lx hlx => ?_) htake
  have hruns := Lexer.runs_startTag false hlx hescape hname (fun a ha => (hattrs a ha).1)
    (fun a ha => List.all_eq_true.mpr (hattrs a ha).2) hnodup
  rwa [String.ofList_toList] at hruns

/-- A start tag as it is written for an element that holds nothing. -/
def emptyText (escape : Char → List Char) (name : String) (attrs : List (String × String)) :
    List Char :=
  '<' :: (name.toList ++ attrsText escape attrs ++ ['/']) ++ ['>']

variable (l ls)

/-- An element begins. -/
theorem reads_start (hescape : EscapesValue escape) (h : isWritable name attrs = true)
    (hbegins : begins (Layer.tags (l :: ls)) (.ofString name) = true) :
    Reads (startText escape name attrs) (l :: ls)
      (⟨.ofString name, attrsOf name attrs, []⟩ :: l :: ls) :=
  reads_startText hescape h fun _ hc => hc.start hbegins

/-- An element that holds nothing. -/
theorem reads_empty (hescape : EscapesValue escape) (h : isWritable name attrs = true)
    (hstands : standsEmpty (Layer.tags (l :: ls)) (.ofString name) = true) :
    Reads (startText escape name attrs) (l :: ls)
      (l.add (.element ⟨.html, name, attrsOf name attrs⟩ []) :: ls) := by
  have hread : Reads (startText escape name attrs) (l :: ls)
      (l.add (.element ⟨.html, (Tag.ofString name).toString, attrsOf name attrs⟩ []) :: ls) :=
    reads_startText hescape h fun _ hc => hc.empty hstands
  rwa [Tag.toString_ofString] at hread

/-- An element that is written as one that holds nothing, and does so. -/
theorem reads_emptyText (hescape : EscapesValue escape) (h : isWritable name attrs = true)
    (hstands : standsEmpty (Layer.tags (l :: ls)) (.ofString name) = true) :
    Reads (emptyText escape name attrs) (l :: ls)
      (l.add (.element ⟨.html, name, attrsOf name attrs⟩ []) :: ls) := by
  have hread : Reads (emptyText escape name attrs) (l :: ls)
      (l.add (.element ⟨.html, (Tag.ofString name).toString, attrsOf name attrs⟩ []) :: ls) := by
    simp only [isWritable, Bool.and_eq_true, List.all_eq_true, decide_eq_true_eq] at h
    obtain ⟨⟨hname, hattrs⟩, hnodup⟩ := h
    refine reads_token (by decide) (fun lx hlx => ?_) fun _ hc =>
      hc.empty (t := ⟨.ofString name, attrs, true⟩) hstands
    have hruns := Lexer.runs_emptyTag false hlx hescape hname (fun a ha => (hattrs a ha).1)
      (fun a ha => List.all_eq_true.mpr (hattrs a ha).2) hnodup
    rwa [String.ofList_toList] at hruns
  rwa [Tag.toString_ofString] at hread

/-- The innermost element ends. -/
theorem reads_end (hname : isTagName name.toList = true) (own : Attributes) (children : List Node)
    (hbegins : begins (Layer.tags (l :: ls)) (.ofString name) = true)
    (hnested : Nested (Layer.tags (l :: ls))) :
    Reads (endText name) (⟨.ofString name, own, children⟩ :: l :: ls)
      (l.add (.element ⟨.html, name, own⟩ children) :: ls) := by
  have hread : Reads (endText name) (⟨.ofString name, own, children⟩ :: l :: ls)
      (l.add (.element ⟨.html, (Tag.ofString name).toString, own⟩ children) :: ls) := by
    refine reads_token (by decide) (fun lx hlx => ?_) fun c hc => hc.finish hbegins hnested
    have hruns := Lexer.runs_endTag false hlx hname
    rwa [String.ofList_toList] at hruns
  rwa [Tag.toString_ofString] at hread

/-- An element whose content is read is read as a whole. -/
theorem reads_element (hescape : EscapesValue escape) (h : isWritable name attrs = true)
    (hbegins : begins (Layer.tags (l :: ls)) (.ofString name) = true)
    (hnested : Nested (Layer.tags (l :: ls))) {cs : List Char} {children : List Node}
    (hinner : Reads cs (⟨.ofString name, attrsOf name attrs, []⟩ :: l :: ls)
      (⟨.ofString name, attrsOf name attrs, children⟩ :: l :: ls)) :
    Reads (startText escape name attrs ++ (cs ++ endText name)) (l :: ls)
      (l.add (.element ⟨.html, name, attrsOf name attrs⟩ children) :: ls) := by
  have hstart := reads_start l ls hescape h hbegins
  have hend := reads_end l ls (isTagName_of_isWritable h) (attrsOf name attrs) children hbegins hnested
  exact hstart.append (hinner.append hend)

/-- A start tag with one attribute, the value as it is written. -/
def oneAttrText (name key : String) (written : List Char) : List Char :=
  '<' :: (name.toList ++ ' ' :: (key.toList ++ '=' :: '"' :: (written ++ ['"']))) ++ ['>']

/-- An element with one attribute whose content is read is read as a whole. -/
theorem reads_oneAttr {key value : String} {written : List Char} (hname : isTagName name.toList = true)
    (hkey : isAttrName key.toList = true) (hwritten : WritesAll (· = '"') written value.toList)
    (hvalue : value.toList.all isKept = true)
    (hbegins : begins (Layer.tags (l :: ls)) (.ofString name) = true)
    (hnested : Nested (Layer.tags (l :: ls))) {cs : List Char} {children : List Node}
    (hinner : Reads cs (⟨.ofString name, attrsOf name [(key, value)], []⟩ :: l :: ls)
      (⟨.ofString name, attrsOf name [(key, value)], children⟩ :: l :: ls)) :
    Reads (oneAttrText name key written ++ (cs ++ endText name)) (l :: ls)
      (l.add (.element ⟨.html, name, attrsOf name [(key, value)]⟩ children) :: ls) := by
  have hstart : Reads (oneAttrText name key written) (l :: ls)
      (⟨.ofString name, attrsOf name [(key, value)], []⟩ :: l :: ls) := by
    refine reads_token (by decide) (fun lx hlx => ?_) fun _ hc =>
      hc.start (t := ⟨.ofString name, [(key, value)], false⟩) hbegins
    have hruns := Lexer.runs_oneAttr false hlx hname (a := (key, value)) hkey hwritten hvalue
    rwa [String.ofList_toList] at hruns
  have hend := reads_end l ls hname (attrsOf name [(key, value)]) children hbegins hnested
  exact hstart.append (hinner.append hend)

end Parser

end PageBlocks.Markup
