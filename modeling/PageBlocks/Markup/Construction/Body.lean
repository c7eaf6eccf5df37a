import PageBlocks.Markup.Construction.Head

/-!
The rules for running text, which most other rules fall back on.
-/
namespace PageBlocks.Markup.Construction

/-- Whether an input field is hidden. -/
def isHiddenInput (t : StartTag) : Bool :=
  t.tag == .input && (t.attrs.lookup "type").any fun value => Text.sameIgnoringCase value "hidden"

def noFrameset (c : Construction) : Construction := { c with framesetAllowed := false }

/-- The open list item, or the open term or definition, that a new one closes. -/
def itemToClose (tag : Tag) : List OpenElement → Option Tag
  | [] => none
  | e :: below =>
    let closes := if tag = .li then e.named .li else e.named .dd || e.named .dt
    if closes then some e.tag
    else if e.isSpecial && !(e.tag == .address || e.tag == .div || e.tag == .p) then none
    else itemToClose tag below

/-- Running text. NUL characters are dropped. -/
def charInBody (c : Construction) (ch : Char) : Construction :=
  if ch == '\x00' then c
  else
    let c := c.reconstruct
    let c := if Text.isAsciiBlank ch then c else c.noFrameset
    c.putChar ch

/-- A second `body` only adds attributes to the first one. -/
def mergeBody (c : Construction) (t : StartTag) : Construction :=
  match c.body? with
  | some body =>
    if c.isOpen .template then c
    else { c.noFrameset with arena := c.arena.addMissingAttrs body.id (htmlAttrs t) }
  | none => c

/-- A frameset replaces a body in which nothing has been said. -/
def startFrameset (c : Construction) (t : StartTag) : Construction :=
  match c.framesetAllowed, c.body? with
  | true, some body =>
    let c := { c with arena := c.arena.detach body.id, opens := c.opens.getLast?.toList }
    { c.insert t with mode := .inFrameset }
  | _, _ => c

def startForm (c : Construction) (t : StartTag) : Construction :=
  let inTemplate := c.isOpen .template
  if c.form.isSome && !inTemplate then c
  else
    let (c, id) := c.closeOpenParagraph.openElement .html t.tag (htmlAttrs t)
    if inTemplate then c else { c with form := some id }

def startItem (c : Construction) (t : StartTag) : Construction :=
  let c := c.noFrameset
  let c :=
    match itemToClose t.tag c.opens with
    | some tag => (c.popImpliedEndsExcept tag).popThroughTag tag
    | none => c
  c.closeOpenParagraph.insert t

def startButton (c : Construction) (t : StartTag) : Construction :=
  let c := if c.tagInScope .button then c.popImpliedEnds.popThroughTag .button else c
  (c.reconstruct.insert t).noFrameset

def startNobr (c : Construction) (t : StartTag) : Construction :=
  let c := c.reconstruct
  let c := if c.tagInScope .nobr then (c.closeFormatting .nobr).reconstruct else c
  c.insertFormatting t

def startTable (c : Construction) (t : StartTag) : Construction :=
  let c := if c.vintage then c else c.closeOpenParagraph
  { (c.insert t).noFrameset with mode := .inTable }

def startSelect (c : Construction) (t : StartTag) : Construction :=
  let c := (c.reconstruct.insert t).noFrameset
  match c.mode with
  | .inTable | .inCaption | .inTableBody | .inRow | .inCell => { c with mode := .inSelectInTable }
  | _ => { c with mode := .inSelect }

/-- An element of running text that holds nothing. -/
def startBodyVoid (c : Construction) (t : StartTag) : Construction :=
  let c := c.reconstruct.insertVoid t
  if isHiddenInput t then c else c.noFrameset

/-- Parts of ruby text end the parts before them. -/
def startRuby (c : Construction) (t : StartTag) : Construction :=
  let c :=
    if !c.tagInScope .ruby then c
    else if t.tag = .rb || t.tag = .rtc then c.popImpliedEnds
    else c.popImpliedEndsExcept .rtc
  c.insert t

/-- The start tags whose text is read in a mode of its own. -/
def startRawInBody (c : Construction) (t : StartTag) : Outcome :=
  match t.tag with
  | .textarea => { c.noFrameset with skipsLineFeed := true }.insertRaw t .escapable
  | .xmp => c.closeOpenParagraph.reconstruct.noFrameset.insertRaw t .rawText
  | .iframe => c.noFrameset.insertRaw t .rawText
  | _ => c.insertRaw t .rawText

def startInBody (c : Construction) (t : StartTag) : Outcome :=
  let tag := t.tag
  if tag = .html then (c.mergeRoot t).done
  else if tag.isHeadContent then c.startHeadContent t
  else if tag = .body then (c.mergeBody t).done
  else if tag = .frameset then (c.startFrameset t).done
  else if tag.isBlock then (c.closeOpenParagraph.insert t).done
  else if tag.isHeading then
    let c := c.closeOpenParagraph
    ((if c.currentHas Tag.isHeading then c.pop else c).insert t).done
  else if tag = .pre || tag = .listing then
    { (c.closeOpenParagraph.insert t).noFrameset with skipsLineFeed := true }.done
  else if tag = .form then (c.startForm t).done
  else if tag = .li || tag = .dd || tag = .dt then (c.startItem t).done
  else if tag = .plaintext then (c.closeOpenParagraph.insert t, .read .plain)
  else if tag = .button then (c.startButton t).done
  else if tag = .a then (c.closeNestedLink.reconstruct.insertFormatting t).done
  else if tag.isFormatting then (c.reconstruct.insertFormatting t).done
  else if tag = .nobr then (c.startNobr t).done
  else if tag.isEmbeddedScope then (c.reconstruct.insert t).pushMarker.noFrameset.done
  else if tag = .table then (c.startTable t).done
  else if tag.isBodyVoid then (c.startBodyVoid t).done
  else if tag.isMediaVoid then (c.insertVoid t).done
  else if tag = .hr then (c.closeOpenParagraph.insertVoid t).noFrameset.done
  else if tag = .image then (c.startBodyVoid { t with tag := .img }).done
  else if tag = .textarea || tag = .xmp || tag = .iframe || tag = .noembed || tag = .noscript then
    c.startRawInBody t
  else if tag = .select then (c.startSelect t).done
  else if tag = .optgroup || tag = .option then
    ((if c.currentIs .option then c.pop else c).reconstruct.insert t).done
  else if tag = .rb || tag = .rtc || tag = .rp || tag = .rt then (c.startRuby t).done
  else if tag = .math then (c.insertIn .mathml t tag).done
  else if tag = .svg then (c.insertIn .svg t tag).done
  else if tag.isMisplacedInBody then c.done
  else (c.reconstruct.insert t).done

/-- Close a block and all that is still open inside. -/
def endBlock (c : Construction) (tag : Tag) : Construction :=
  if c.tagInScope tag then c.popImpliedEnds.popThroughTag tag else c

/-- A form ends even where other elements begun inside are still open. -/
def endForm (c : Construction) : Construction :=
  if c.isOpen .template then c.endBlock .form
  else
    match c.form with
    | none => c
    | some form =>
      let c := { c with form := none }
      if c.inScope (·.id == form) then c.popImpliedEnds.removeOpen form else c

def endParagraph (c : Construction) : Construction :=
  (if c.tagInButtonScope .p then c else c.insertBare .p).closeParagraph

def endItem (c : Construction) (tag : Tag) : Construction :=
  let isInScope := if tag = .li then c.tagInListScope tag else c.tagInScope tag
  if isInScope then (c.popImpliedEndsExcept tag).popThroughTag tag else c

/-- The end tag of any heading closes the heading that is open. -/
def endHeading (c : Construction) : Construction :=
  if c.inScope (·.has Tag.isHeading) then c.popImpliedEnds.popThrough (·.has Tag.isHeading) else c

def endInBody (c : Construction) (tag : Tag) : Outcome :=
  if tag = .template then c.closeTemplate.done
  else if tag = .body then
    (if c.tagInScope .body then { c with mode := .afterBody } else c).done
  else if tag = .html then if c.tagInScope .body then c.again .afterBody else c.done
  else if tag.isClosableBlock then (c.endBlock tag).done
  else if tag = .form then c.endForm.done
  else if tag = .p then c.endParagraph.done
  else if tag = .li || tag = .dd || tag = .dt then (c.endItem tag).done
  else if tag.isHeading then c.endHeading.done
  else if tag.isFormatting || tag = .a || tag = .nobr then (c.closeFormatting tag).done
  else if tag.isEmbeddedScope then
    (if c.tagInScope tag then (c.endBlock tag).clearToMarker else c).done
  else if tag = .br then (c.startBodyVoid ⟨.br, [], false⟩).done
  else (c.closeAnyTag tag).done

/-- The end of the text inside a template closes it. -/
def finishTemplates (c : Construction) : Outcome :=
  if c.isOpen .template then
    let c := (c.popThroughTag .template).clearToMarker
    ({ c with templateModes := c.templateModes.tail }.resetMode, .again)
  else c.done

def inBody (c : Construction) (t : Token) : Outcome :=
  match t with
  | .char ch => (c.charInBody ch).done
  | .comment s => (c.putComment s).done
  | .startTag s => c.startInBody s
  | .endTag tag => c.endInBody tag
  | .eof => if c.templateModes.isEmpty then c.done else c.finishTemplates
  | _ => c.done

/-- Text of an element that is read in a mode of its own. -/
def inText (c : Construction) (t : Token) : Outcome :=
  match t with
  | .char ch => c.putChars ch
  | .endTag tag =>
    ({ c.pop with mode := c.returnMode }, if tag = .script then .scriptEnd else .done)
  | .eof => c.pop.again c.returnMode
  | _ => c.done

end PageBlocks.Markup.Construction
