import PageBlocks.Markup.Construction.Body

/-!
The rules inside tables. What does not belong into a table is put before it.
-/
namespace PageBlocks.Markup.Construction

/-- Apply the rules for running text to a token that is misplaced in a table. -/
def misplaced (c : Construction) (t : Token) : Outcome :=
  let (c, next) := { c with fostering := true }.inBody t
  ({ c with fostering := false }, next)

/-- Text in a table is kept back until it is known whether it is blank. -/
def charInTable (c : Construction) (t : Token) : Outcome :=
  if c.currentHas Tag.isTablePart then
    ({ c with returnMode := c.mode, mode := .inTableText }, .again)
  else c.misplaced t

/-- Put the text that was kept back: into the table if it is blank, else before it. -/
def flushTableText (c : Construction) : Construction :=
  let text := c.tableText.reverse
  let c := { c with tableText := [] }
  if text.all Text.isAsciiBlank then text.foldl putChar c
  else text.foldl (fun c ch => (c.misplaced (.char ch)).1) c

def inTableText (c : Construction) (t : Token) : Outcome :=
  match t with
  | .char ch => (if ch == '\x00' then c else { c with tableText := ch :: c.tableText }).done
  | _ => c.flushTableText.again c.returnMode

def popToTable (c : Construction) : Construction := c.popTo Tag.isTableScopeBarrier

def startInTable (c : Construction) (t : StartTag) : Outcome :=
  match t.tag with
  | .caption => { c.popToTable.pushMarker.insert t with mode := .inCaption }.done
  | .colgroup => { c.popToTable.insert t with mode := .inColumnGroup }.done
  | .col => (c.popToTable.insertBare .colgroup).again .inColumnGroup
  | .tbody | .tfoot | .thead => { c.popToTable.insert t with mode := .inTableBody }.done
  | .td | .th | .tr => (c.popToTable.insertBare .tbody).again .inTableBody
  | .table =>
    if c.tagInTableScope .table then ((c.popThroughTag .table).resetMode, .again) else c.done
  | .style | .script | .template => c.startHeadContent t
  | .input => if isHiddenInput t then (c.insertVoid t).done else c.misplaced (.startTag t)
  | .form =>
    if !c.isOpen .template && c.form.isNone then
      let (c, id) := c.putElement .html .form (htmlAttrs t)
      { c with form := some id }.done
    else c.done
  | _ => c.misplaced (.startTag t)

def endInTable (c : Construction) (tag : Tag) : Outcome :=
  match tag with
  | .table => (if c.tagInTableScope .table then (c.popThroughTag .table).resetMode else c).done
  | .body | .caption | .col | .colgroup | .html | .tbody | .td | .tfoot | .th | .thead | .tr => c.done
  | .template => c.closeTemplate.done
  | _ => c.misplaced (.endTag tag)

def inTable (c : Construction) (t : Token) : Outcome :=
  match t with
  | .char _ => c.charInTable t
  | .comment s => (c.putComment s).done
  | .startTag s => c.startInTable s
  | .endTag tag => c.endInTable tag
  | .eof => c.inBody t
  | _ => c.done

def endCaption (c : Construction) : Construction :=
  (c.popImpliedEnds.popThroughTag .caption).clearToMarker

/-- Tags of the table around a caption. -/
def endsCaption : Tag → Bool
  | .caption | .col | .colgroup | .tbody | .td | .tfoot | .th | .thead | .tr => true
  | _ => false

def inCaption (c : Construction) (t : Token) : Outcome :=
  match t with
  | .startTag s =>
    if endsCaption s.tag then
      if c.tagInTableScope .caption then c.endCaption.again .inTable else c.done
    else c.inBody t
  | .endTag tag =>
    if tag = .caption || tag = .table then
      if !c.tagInTableScope .caption then c.done
      else if tag = .caption then { c.endCaption with mode := .inTable }.done
      else c.endCaption.again .inTable
    else if endsCaption tag || tag = .body || tag = .html then c.done
    else c.inBody t
  | _ => c.inBody t

/-- What is no column ends a column group. -/
def endColumnGroup (c : Construction) : Outcome :=
  if c.currentIs .colgroup then c.pop.again .inTable else c.done

def inColumnGroup (c : Construction) (t : Token) : Outcome :=
  match t with
  | .char ch => if Text.isAsciiBlank ch then c.putChars ch else c.endColumnGroup
  | .comment s => (c.putComment s).done
  | .startTag s =>
    if s.tag = .html then (c.mergeRoot s).done
    else if s.tag = .col then (c.insertVoid s).done
    else if s.tag = .template then c.startHeadContent s
    else c.endColumnGroup
  | .endTag tag =>
    if tag = .colgroup then
      (if c.currentIs .colgroup then { c.pop with mode := .inTable } else c).done
    else if tag = .col then c.done
    else if tag = .template then c.closeTemplate.done
    else c.endColumnGroup
  | .eof => c.inBody t
  | _ => c.done

def popToBodyContext (c : Construction) : Construction := c.popTo Tag.isTableBodyContext

def popToRowContext (c : Construction) : Construction := c.popTo Tag.isTableRowContext

/-- Tags of the table around its blocks of rows. -/
def endsTableBody : Tag → Bool
  | .caption | .col | .colgroup | .tbody | .tfoot | .thead => true
  | _ => false

/-- End the block of rows on behalf of a tag of the table around it. -/
def leaveTableBody (c : Construction) : Outcome :=
  if c.inTableScope fun t => t == .table || t == .tbody || t == .tfoot then
    c.popToBodyContext.pop.again .inTable
  else c.done

def inTableBody (c : Construction) (t : Token) : Outcome :=
  match t with
  | .startTag s =>
    if s.tag = .tr then { c.popToBodyContext.insert s with mode := .inRow }.done
    else if s.tag.isCell then (c.popToBodyContext.insertBare .tr).again .inRow
    else if endsTableBody s.tag then c.leaveTableBody
    else c.inTable t
  | .endTag tag =>
    if tag.isSection then
      (if c.tagInTableScope tag then { c.popToBodyContext.pop with mode := .inTable } else c).done
    else if tag = .table then c.leaveTableBody
    else
      match tag with
      | .body | .caption | .col | .colgroup | .html | .td | .th | .tr => c.done
      | _ => c.inTable t
  | _ => c.inTable t

/-- End the row on behalf of a tag around it. -/
def leaveRow (c : Construction) : Outcome :=
  if c.tagInTableScope .tr then c.popToRowContext.pop.again .inTableBody else c.done

def inRow (c : Construction) (t : Token) : Outcome :=
  match t with
  | .startTag s =>
    if s.tag.isCell then { c.popToRowContext.insert s with mode := .inCell }.pushMarker.done
    else if endsTableBody s.tag || s.tag = .tr then c.leaveRow
    else c.inTable t
  | .endTag tag =>
    if tag = .tr then
      (if c.tagInTableScope .tr then { c.popToRowContext.pop with mode := .inTableBody } else c).done
    else if tag = .table then c.leaveRow
    else if tag.isSection then if c.tagInTableScope tag then c.leaveRow else c.done
    else
      match tag with
      | .body | .caption | .col | .colgroup | .html | .td | .th => c.done
      | _ => c.inTable t
  | _ => c.inTable t

/-- End the open cell. -/
def leaveCell (c : Construction) : Outcome :=
  (c.popImpliedEnds.popThrough (·.has Tag.isCell)).clearToMarker.again .inRow

def inCell (c : Construction) (t : Token) : Outcome :=
  match t with
  | .startTag s =>
    if endsTableBody s.tag || s.tag.isCell || s.tag = .tr then
      if c.inTableScope Tag.isCell then c.leaveCell else c.done
    else c.inBody t
  | .endTag tag =>
    if tag.isCell then
      (if c.tagInTableScope tag then
        { (c.popImpliedEnds.popThroughTag tag).clearToMarker with mode := .inRow }
      else c).done
    else if tag = .table || tag.isSection || tag = .tr then
      if c.tagInTableScope tag then c.leaveCell else c.done
    else
      match tag with
      | .body | .caption | .col | .colgroup | .html => c.done
      | _ => c.inBody t
  | _ => c.inBody t

end PageBlocks.Markup.Construction
