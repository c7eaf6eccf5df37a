import PageBlocks.Markup.Construction.Table

/-!
The remaining rules - selections, templates, framesets and what follows the body - and the step of
the construction, which applies to each token the rules in force.
-/
namespace PageBlocks.Markup.Construction

/-! ### Selections -/

def popIf (c : Construction) (tag : Tag) : Construction := if c.currentIs tag then c.pop else c

/-- The end tag of a group of options closes an option in it too. -/
def endOptionGroup (c : Construction) : Construction :=
  let inGroup :=
    match c.opens with
    | e :: below :: _ => e.named .option && below.named .optgroup
    | _ => false
  (if inGroup then c.pop else c).popIf .optgroup

/-- Close the selection. -/
def endSelect (c : Construction) : Construction :=
  if c.tagInSelectScope .select then (c.popThroughTag .select).resetMode else c

def inSelect (c : Construction) (t : Token) : Outcome :=
  match t with
  | .char ch => (if ch == '\x00' then c else c.putChar ch).done
  | .comment s => (c.putComment s).done
  | .startTag s =>
    match s.tag with
    | .html => (c.mergeRoot s).done
    | .option => ((c.popIf .option).insert s).done
    | .optgroup => (((c.popIf .option).popIf .optgroup).insert s).done
    | .select => c.endSelect.done
    | .input | .keygen | .textarea =>
      if c.tagInSelectScope .select then (c.endSelect, .again) else c.done
    | .script | .template => c.startHeadContent s
    | _ => c.done
  | .endTag tag =>
    match tag with
    | .optgroup => c.endOptionGroup.done
    | .option => (c.popIf .option).done
    | .select => c.endSelect.done
    | .template => c.closeTemplate.done
    | _ => c.done
  | .eof => c.inBody t
  | _ => c.done

/-- Tags of the table around a selection. -/
def endsSelectInTable : Tag → Bool
  | .caption | .table | .tbody | .tfoot | .thead | .tr | .td | .th => true
  | _ => false

def inSelectInTable (c : Construction) (t : Token) : Outcome :=
  match t with
  | .startTag s =>
    if endsSelectInTable s.tag then ((c.popThroughTag .select).resetMode, .again) else c.inSelect t
  | .endTag tag =>
    if endsSelectInTable tag then
      if c.tagInTableScope tag then ((c.popThroughTag .select).resetMode, .again) else c.done
    else c.inSelect t
  | _ => c.inSelect t

/-! ### Templates -/

/-- What a template turns out to hold decides its rules. -/
def turnTemplate (c : Construction) (mode : Mode) : Outcome :=
  { c with templateModes := mode :: c.templateModes.tail }.again mode

def inTemplate (c : Construction) (t : Token) : Outcome :=
  match t with
  | .char _ | .comment _ => c.inBody t
  | .startTag s =>
    if s.tag.isHeadContent then c.startHeadContent s
    else
      match s.tag with
      | .caption | .colgroup | .tbody | .tfoot | .thead => c.turnTemplate .inTable
      | .col => c.turnTemplate .inColumnGroup
      | .tr => c.turnTemplate .inTableBody
      | .td | .th => c.turnTemplate .inRow
      | _ => c.turnTemplate .inBody
  | .endTag tag => (if tag = .template then c.closeTemplate else c).done
  | .eof => c.finishTemplates
  | _ => c.done

/-! ### Framesets and the end of the page -/

def inAfterBody (c : Construction) (t : Token) : Outcome :=
  match t with
  | .char ch => if Text.isAsciiBlank ch then (c.charInBody ch).done else c.again .inBody
  | .comment s =>
    match c.opens.getLast? with
    | some root => (c.putCommentIn root.id s).done
    | none => c.done
  | .startTag s => if s.tag = .html then (c.mergeRoot s).done else c.again .inBody
  | .endTag tag => if tag = .html then { c with mode := .afterAfterBody }.done else c.again .inBody
  | _ => c.done

def inFrameset (c : Construction) (t : Token) : Outcome :=
  match t with
  | .char ch => if Text.isAsciiBlank ch then c.putChars ch else c.done
  | .comment s => (c.putComment s).done
  | .startTag s =>
    match s.tag with
    | .html => (c.mergeRoot s).done
    | .frameset => (c.insert s).done
    | .frame => (c.insertVoid s).done
    | .noframes => c.startHeadContent s
    | _ => c.done
  | .endTag tag =>
    if tag = .frameset && c.opens.length != 1 then
      let c := c.pop
      (if c.currentIs .frameset then c else { c with mode := .afterFrameset }).done
    else c.done
  | _ => c.done

def inAfterFrameset (c : Construction) (t : Token) : Outcome :=
  match t with
  | .char ch => if Text.isAsciiBlank ch then c.putChars ch else c.done
  | .comment s => (c.putComment s).done
  | .startTag s =>
    match s.tag with
    | .html => (c.mergeRoot s).done
    | .noframes => c.startHeadContent s
    | _ => c.done
  | .endTag tag => (if tag = .html then { c with mode := .afterAfterFrameset } else c).done
  | _ => c.done

def inAfterAfterBody (c : Construction) (t : Token) : Outcome :=
  match t with
  | .char ch => if Text.isAsciiBlank ch then (c.charInBody ch).done else c.again .inBody
  | .comment s => (c.putCommentIn Arena.page s).done
  | .startTag s => if s.tag = .html then (c.mergeRoot s).done else c.again .inBody
  | .endTag _ => c.again .inBody
  | _ => c.done

def inAfterAfterFrameset (c : Construction) (t : Token) : Outcome :=
  match t with
  | .char ch => (if Text.isAsciiBlank ch then c.charInBody ch else c).done
  | .comment s => (c.putCommentIn Arena.page s).done
  | .startTag s =>
    match s.tag with
    | .html => (c.mergeRoot s).done
    | .noframes => c.startHeadContent s
    | _ => c.done
  | _ => c.done

/-! ### The step -/

/-- Apply the rules of a mode. -/
def applyMode (c : Construction) (t : Token) : Outcome :=
  match c.mode with
  | .initial => c.inInitial t
  | .beforeHtml => c.inBeforeHtml t
  | .beforeHead => c.inBeforeHead t
  | .inHead => c.inHead t
  | .afterHead => c.inAfterHead t
  | .inBody => c.inBody t
  | .text => c.inText t
  | .inTable => c.inTable t
  | .inTableText => c.inTableText t
  | .inCaption => c.inCaption t
  | .inColumnGroup => c.inColumnGroup t
  | .inTableBody => c.inTableBody t
  | .inRow => c.inRow t
  | .inCell => c.inCell t
  | .inSelect => c.inSelect t
  | .inSelectInTable => c.inSelectInTable t
  | .inTemplate => c.inTemplate t
  | .afterBody => c.inAfterBody t
  | .inFrameset => c.inFrameset t
  | .afterFrameset => c.inAfterFrameset t
  | .afterAfterBody => c.inAfterAfterBody t
  | .afterAfterFrameset => c.inAfterAfterFrameset t

/-- Apply the rules for other vocabularies. -/
def inForeign (c : Construction) (t : Token) : Outcome :=
  match t with
  | .char ch =>
    if ch == '\x00' then c.putChars '\ufffd'
    else ((if Text.isAsciiBlank ch then c else c.noFrameset).putChar ch).done
  | .comment s => (c.putComment s).done
  | .startTag s =>
    if leavesIsland s then (c.leaveIsland, .again)
    else
      match c.opens with
      | e :: _ => (c.insertIn e.space s (tagIn e.space s.tag)).done
      | [] => c.done
  | .endTag tag =>
    match foreignEnd tag.toString c.opens with
    | .close opens => { c with opens := opens }.done
    | .ignore => c.done
    | .leave => c.applyMode t
  | _ => c.done

/-- Consider a token, up to a number of times. -/
def consider : Nat → Construction → Token → Construction × Answer
  | 0, c, _ => (c, .readOn)
  | n + 1, c, t =>
    let (c, next) := if c.isForeign t then c.inForeign t else c.applyMode t
    match next with
    | .done => (c, .readOn)
    | .again => consider n c t
    | .read mode => (c, .readAs mode)
    | .scriptEnd => (c, .readAfresh)

/-- How often a token may have to be considered: each open template counts once at the end of the
text, and otherwise the chain of modes is short. -/
def patience (c : Construction) : Nat := 64 + 4 * c.templateModes.length

/-- Take in a token. The answer tells how the text that follows is to be read. -/
def accept (c : Construction) (t : Token) : Construction × Answer :=
  let skips := c.skipsLineFeed
  let c := { c with skipsLineFeed := false }
  match t with
  | .fault => (c, .readOn)
  | .doctype d => (c.acceptDoctype d, .readOn)
  | .char ch => if skips && ch == '\n' then (c, .readOn) else consider c.patience c t
  | _ => consider c.patience c t

/-- Whether the current element is not of HTML. -/
def isInIsland (c : Construction) : Bool :=
  match c.opens with
  | e :: _ => e.space != .html
  | [] => false

end PageBlocks.Markup.Construction
