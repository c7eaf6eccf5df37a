import PageBlocks.Proofs.Markup.Reading

/-!
Pages that begin with the start tag of an element of running text. Root element, head and body are made up
for them, so that the whole text is read inside the body.
-/
namespace PageBlocks.Markup

open Tag

/-- The page that has these nodes in its body and nothing else. -/
def Document.ofBody (ns : List Node) : Document :=
  ⟨[.element ⟨.html, "html", []⟩
    [.element ⟨.html, "head", []⟩ [], .element ⟨.html, "body", []⟩ ns]]⟩

theorem bodyChildren_ofBody (ns : List Node) : (Document.ofBody ns).bodyChildren = ns := rfl

namespace Construction

/-- The construction inside the body that has been made up for a page. -/
def beginning : Construction :=
  let c := { start with vintage := true, mode := .beforeHtml }
  let c := { c.insertRoot [] with mode := .beforeHead }
  let c := c.insertHead ⟨.head, [], false⟩
  let c := { c.pop with mode := .afterHead }
  { c.insertBare .body with mode := .inBody }

/-- The open elements inside the body of a page. -/
def bodyFrames : List (Frame Node) :=
  [⟨3, .body, [], []⟩, ⟨1, .html, [], [.element ⟨.html, "head", []⟩ []]⟩]

theorem builds_beginning : beginning.arena.Builds bodyFrames := by
  refine ⟨[⟨3, .body, [], []⟩, ⟨1, .html, [], [.element 2 .head [] []]⟩], rfl, ?_, ?_, ?_⟩
  · exact ⟨rfl, rfl, rfl, trivial, rfl, rfl, rfl, ⟨⟨rfl, rfl, trivial⟩, trivial⟩, rfl⟩
  · decide
  · decide

theorem settled_beginning : Settled beginning bodyFrames where
  builds := builds_beginning
  opens := rfl
  fostering := rfl
  nested := .body
  mode := rfl
  templateModes := rfl
  skipsLineFeed := rfl
  vintage := rfl
  tableText := rfl
  formatting := .plain rfl (.plain rfl .nil)

/-- The tags before which root element, head and body are made up. -/
theorem accept_start {t : StartTag} (h : (t.tag.sort.isOfText || t.tag.sort.isEmpty) = true) :
    start.accept (.startTag t) = beginning.accept (.startTag t) := by
  have hhtml : t.tag ≠ .html := fun heq => by rw [heq] at h; cases h
  have hhead : t.tag ≠ .head := fun heq => by rw [heq] at h; cases h
  have hbody : t.tag ≠ .body := fun heq => by rw [heq] at h; cases h
  have hframeset : t.tag ≠ .frameset := fun heq => by rw [heq] at h; cases h
  have hcontent : t.tag.isHeadContent = false := by
    cases htag : t.tag <;> rw [htag] at h <;> first | rfl | cases h
  have hnoscript : (t.tag.isHeadContent || t.tag = .noscript) = false := by
    cases htag : t.tag <;> rw [htag] at h <;> first | rfl | cases h
  let beforeHtml : Construction := { start with vintage := true, mode := .beforeHtml }
  let beforeHead : Construction := { beforeHtml.insertRoot [] with mode := .beforeHead }
  let inHead : Construction := beforeHead.insertHead ⟨.head, [], false⟩
  let afterHead : Construction := { inHead.pop with mode := .afterHead }
  have h1 : start.applyMode (.startTag t) = (beforeHtml, .again) := rfl
  have h2 : beforeHtml.applyMode (.startTag t) = (beforeHead, .again) := by
    change beforeHtml.inBeforeHtml (.startTag t) = _
    rw [inBeforeHtml, if_neg (by exact Bool.false_ne_true)]
    dsimp only
    rw [if_neg hhtml]
    rfl
  have h3 : beforeHead.applyMode (.startTag t) = (inHead, .again) := by
    change beforeHead.inBeforeHead (.startTag t) = _
    rw [inBeforeHead, if_neg (by exact Bool.false_ne_true), if_neg hhtml, if_neg hhead]
  have h4 : inHead.applyMode (.startTag t) = (afterHead, .again) := by
    change inHead.inHead (.startTag t) = _
    rw [Construction.inHead, if_neg (by exact Bool.false_ne_true), if_neg hhtml, hnoscript,
      if_neg Bool.false_ne_true, if_neg hhead]
    rfl
  have h5 : afterHead.applyMode (.startTag t) = (beginning, .again) := by
    change afterHead.inAfterHead (.startTag t) = _
    rw [inAfterHead, if_neg (by exact Bool.false_ne_true)]
    dsimp only
    rw [if_neg hhtml, if_neg hbody, if_neg hframeset, hcontent, if_neg Bool.false_ne_true,
      if_neg hhead]
    rfl
  have h6 : beginning.applyMode (.startTag t) = (beginning.startOfText t, .done) :=
    applyMode_start_of_sort h (Or.inl rfl)
  have hstart : start.accept (.startTag t) = consider 64 start (.startTag t) := rfl
  have hbeginning : beginning.accept (.startTag t) = consider 64 beginning (.startTag t) := rfl
  rw [hstart, hbeginning, consider_again rfl h1, consider_again rfl h2, consider_again rfl h3,
    consider_again rfl h4, consider_again rfl h5, consider_done rfl h6, consider_done rfl h6]

end Construction

namespace Parser

open Construction

variable {escape : Char → List Char} {name : String} {attrs : List (String × String)}
  {ns : List Node}

/-- The root element that has been made up for a page. -/
def rootLayer : Layer := ⟨.html, [], [.element ⟨.html, "head", []⟩ []]⟩

/-- The open elements inside the body of a page, with what is finished inside the body. -/
def bodyLayers (ns : List Node) : List Layer := [⟨.body, [], ns⟩, rootLayer]

/-- The parser inside the body that has been made up for a page. -/
def beginning : Parser := ⟨.start, Construction.beginning, false⟩

theorem stands_beginning : beginning.Stands (bodyLayers []) :=
  ⟨.start, Construction.beginning, ⟨rfl, rfl⟩, .settled settled_beginning, fun _ _ => rfl, rfl⟩

/-- The first start tag of a page is read as if root element, head and body had been there. -/
theorem foldl_first {cs : List Char} {mid lx' : Lexer} {t : StartTag}
    (hpasses : Lexer.Passes false .start ('<' :: cs) mid)
    (hstep : mid.step false '>' = (lx', [.startTag t]))
    (hsort : (t.tag.sort.isOfText || t.tag.sort.isEmpty) = true) :
    ('<' :: cs ++ ['>']).foldl step start = ('<' :: cs ++ ['>']).foldl step beginning := by
  have hread : ∀ c : Construction, c.isInIsland = false →
      ('<' :: cs ++ ['>']).foldl step ⟨.start, c, false⟩ = accept ⟨lx', c, false⟩ (.startTag t) := by
    intro c hc
    rw [List.foldl_append, foldl_passes (hc ▸ hpasses), List.foldl_cons, List.foldl_nil, step_eq, hc,
      hstep, List.foldl_cons, List.foldl_nil]
  have hfresh : ('<' :: cs ++ ['>']).foldl step start =
      ('<' :: cs ++ ['>']).foldl step ⟨.start, .start, false⟩ := rfl
  have haccept : Construction.start.accept (.startTag t) = Construction.beginning.accept (.startTag t) :=
    accept_start hsort
  rw [hfresh, beginning, hread _ rfl, hread _ rfl, accept, accept]
  dsimp only
  rw [haccept]

theorem foldl_start (hescape : EscapesValue escape) (h : isWritable name attrs = true)
    (hsort : ((Tag.ofString name).sort.isOfText || (Tag.ofString name).sort.isEmpty) = true) :
    (startText escape name attrs).foldl step start =
      (startText escape name attrs).foldl step beginning := by
  simp only [isWritable, Bool.and_eq_true, List.all_eq_true, decide_eq_true_eq] at h
  obtain ⟨⟨hname, hattrs⟩, hnodup⟩ := h
  have hdata : Lexer.start.AtData := ⟨rfl, rfl⟩
  obtain ⟨mid, lx', hpasses, hstep, -⟩ := Lexer.runs_startTag false hdata hescape hname
    (fun a ha => (hattrs a ha).1) (fun a ha => List.all_eq_true.mpr (hattrs a ha).2) hnodup
  rw [String.ofList_toList] at hstep
  exact foldl_first hpasses hstep hsort

/-- The end of the text changes nothing inside the body. -/
theorem accept_eof {c : Construction} {fs : List (Frame Node)} (h : Settled c fs)
    (hmode : modeIn (Frame.tags fs) = .inBody) : c.accept .eof = (c, .readOn) := by
  have happly : c.applyMode .eof = (c, .done) := by
    rw [applyMode, h.mode, hmode]
    change c.inBody .eof = _
    rw [inBody, h.templateModes]
    rfl
  obtain ⟨n, hn⟩ := patience_eq c
  unfold Construction.accept
  dsimp only
  rw [noLineFeed_eq h.skipsLineFeed, hn]
  exact consider_done (h.isForeign _) happly _

/-- What becomes of a page that ends inside its body. -/
theorem finish_of_stands {p : Parser} (h : p.Stands (bodyLayers ns)) :
    p.finish = Document.ofBody ns := by
  obtain ⟨lx, c, hlx, hc, hlike⟩ := h
  have heof : c.accept .eof = (c, .readOn) ∧ c.arena.toDocument = Document.ofBody ns := by
    generalize hls : bodyLayers ns = ls at hc
    cases hc with
    | @settled _ fs h =>
      obtain ⟨body, rest, rfl, hbody, hrest⟩ := List.map_eq_cons_iff.mp hls.symm
      obtain ⟨root, rest, rfl, hroot, hnil⟩ := List.map_eq_cons_iff.mp hrest
      obtain rfl : rest = [] := List.map_eq_nil_iff.mp hnil
      obtain ⟨bodyId, bodyTag, bodyAttrs, bodyDone⟩ := body
      obtain ⟨rootId, rootTag, rootAttrs, rootDone⟩ := root
      obtain ⟨rfl, rfl, rfl⟩ := Layer.mk.inj hbody
      obtain ⟨rfl, rfl, rfl⟩ := Layer.mk.inj hroot
      exact ⟨accept_eof h rfl, h.builds.toDocument⟩
    | @keeping _ f fs text h htext _ =>
      have htags := Frame.tags_layers ({ f with done := text.foldl Node.pushChar f.done } :: fs)
      rw [← hls] at htags
      have htakes : takesText (Frame.tags (f :: fs)) = true := htags ▸ rfl
      cases htakes.symm.trans htext
  rw [hlike.finish, finish, finish_atData hlx, List.foldl_cons, List.foldl_nil, construction_accept,
    heof.1, heof.2]

/-- A page whose markup is read inside the body, once that has been made up for its first tag. -/
theorem ofText_of_first {front rest : List Char}
    (hfirst : front.foldl step start = front.foldl step beginning)
    (hreads : Reads (front ++ rest) (bodyLayers []) (bodyLayers ns)) :
    Document.ofText (String.ofList (front ++ rest)) = Document.ofBody ns := by
  rw [Document.ofText, String.toList_ofList, List.foldl_append, hfirst, ← List.foldl_append]
  exact finish_of_stands (hreads beginning stands_beginning)

/-- A page whose markup is read inside the body. -/
theorem ofText_of_reads {rest : List Char} (hescape : EscapesValue escape)
    (h : isWritable name attrs = true)
    (hsort : ((Tag.ofString name).sort.isOfText || (Tag.ofString name).sort.isEmpty) = true)
    (hreads : Reads (startText escape name attrs ++ rest) (bodyLayers []) (bodyLayers ns)) :
    Document.ofText (String.ofList (startText escape name attrs ++ rest)) = Document.ofBody ns :=
  ofText_of_first (foldl_start hescape h hsort) hreads

/-- A page whose markup is read inside the body and begins with an element with one attribute. -/
theorem ofText_of_oneAttr {key value : String} {written rest : List Char}
    (hname : isTagName name.toList = true) (hkey : isAttrName key.toList = true)
    (hwritten : WritesAll (· = '"') written value.toList) (hvalue : value.toList.all isKept = true)
    (hsort : ((Tag.ofString name).sort.isOfText || (Tag.ofString name).sort.isEmpty) = true)
    (hreads : Reads (oneAttrText name key written ++ rest) (bodyLayers []) (bodyLayers ns)) :
    Document.ofText (String.ofList (oneAttrText name key written ++ rest)) = Document.ofBody ns := by
  refine ofText_of_first ?_ hreads
  have hdata : Lexer.start.AtData := ⟨rfl, rfl⟩
  obtain ⟨mid, lx', hpasses, hstep, -⟩ :=
    Lexer.runs_oneAttr false hdata hname (a := (key, value)) hkey hwritten hvalue
  rw [String.ofList_toList] at hstep
  exact foldl_first hpasses hstep hsort

end Parser

end PageBlocks.Markup
