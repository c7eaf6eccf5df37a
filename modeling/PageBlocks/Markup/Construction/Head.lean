import PageBlocks.Markup.Construction.Foreign

/-!
The rules before the body: document type, root element and head.
-/
namespace PageBlocks.Markup.Construction

/-- Beginnings of public identifiers, in small letters, of page types with old habits. -/
def vintagePublicBeginnings : List String := [
  "-//advasoft ltd//dtd html 3.0 aswedit + extensions//",
  "-//as//dtd html 3.0 aswedit + extensions//",
  "-//ietf//dtd html 2.0 level 1//",
  "-//ietf//dtd html 2.0 level 2//",
  "-//ietf//dtd html 2.0 strict level 1//",
  "-//ietf//dtd html 2.0 strict level 2//",
  "-//ietf//dtd html 2.0 strict//",
  "-//ietf//dtd html 2.0//",
  "-//ietf//dtd html 2.1e//",
  "-//ietf//dtd html 3.0//",
  "-//ietf//dtd html 3.2 final//",
  "-//ietf//dtd html 3.2//",
  "-//ietf//dtd html 3//",
  "-//ietf//dtd html level 0//",
  "-//ietf//dtd html level 1//",
  "-//ietf//dtd html level 2//",
  "-//ietf//dtd html level 3//",
  "-//ietf//dtd html strict level 0//",
  "-//ietf//dtd html strict level 1//",
  "-//ietf//dtd html strict level 2//",
  "-//ietf//dtd html strict level 3//",
  "-//ietf//dtd html strict//",
  "-//ietf//dtd html//",
  "-//metrius//dtd metrius presentational//",
  "-//microsoft//dtd internet explorer 2.0 html strict//",
  "-//microsoft//dtd internet explorer 2.0 html//",
  "-//microsoft//dtd internet explorer 2.0 tables//",
  "-//microsoft//dtd internet explorer 3.0 html strict//",
  "-//microsoft//dtd internet explorer 3.0 html//",
  "-//microsoft//dtd internet explorer 3.0 tables//",
  "-//netscape comm. corp.//dtd html//",
  "-//netscape comm. corp.//dtd strict html//",
  "-//o'reilly and associates//dtd html 2.0//",
  "-//o'reilly and associates//dtd html extended 1.0//",
  "-//o'reilly and associates//dtd html extended relaxed 1.0//",
  "-//softquad software//dtd hotmetal pro 6.0::19990601::extensions to html 4.0//",
  "-//softquad//dtd hotmetal pro 4.0::19971010::extensions to html 4.0//",
  "-//spyglass//dtd html 2.0 extended//",
  "-//sq//dtd html 2.0 hotmetal + extensions//",
  "-//sun microsystems corp.//dtd hotjava html//",
  "-//sun microsystems corp.//dtd hotjava strict html//",
  "-//w3c//dtd html 3 1995-03-24//",
  "-//w3c//dtd html 3.2 draft//",
  "-//w3c//dtd html 3.2 final//",
  "-//w3c//dtd html 3.2//",
  "-//w3c//dtd html 3.2s draft//",
  "-//w3c//dtd html 4.0 frameset//",
  "-//w3c//dtd html 4.0 transitional//",
  "-//w3c//dtd html experimental 19960712//",
  "-//w3c//dtd html experimental 970421//",
  "-//w3c//dtd w3 html//",
  "-//w3o//dtd w3 html 3.0//",
  "-//webtechs//dtd mozilla html 2.0//",
  "-//webtechs//dtd mozilla html//"]

/-- Whole public identifiers of the same kind. -/
def vintagePublicIds : List String :=
  ["-//w3o//dtd w3 html strict 3.0//en//", "-/w3c/dtd html 4.0 transitional/en", "html"]

/-- Whole system identifiers of the same kind. -/
def vintageSystemIds : List String :=
  ["http://www.ibm.com/data/dtd/v11/ibmxhtml1-transitional.dtd"]

/-- Beginnings of public identifiers that have old habits only without a system identifier. -/
def vintageAlonePublicBeginnings : List String :=
  ["-//w3c//dtd html 4.01 frameset//", "-//w3c//dtd html 4.01 transitional//"]

def beginsWithOneOf (beginnings : List String) (s : String) : Bool :=
  beginnings.any fun b => b.toList.isPrefixOf s.toList

/-- Whether a page with this document type keeps old habits. -/
def isVintage (d : Doctype) : Bool :=
  let publicId := (d.publicId.map Text.lower).getD ""
  let systemId := (d.systemId.map Text.lower).getD ""
  d.broken || d.name != some "html" ||
    vintagePublicIds.contains publicId || vintageSystemIds.contains systemId ||
    beginsWithOneOf vintagePublicBeginnings publicId ||
    (d.systemId.isNone && beginsWithOneOf vintageAlonePublicBeginnings publicId)

/-- A document type counts only before everything else. -/
def acceptDoctype (c : Construction) (d : Doctype) : Construction :=
  if c.mode = .initial then
    let (arena, id) := c.arena.add (.doctype (d.name.getD ""))
    { c with
      arena := arena.append Arena.page id, vintage := isVintage d, mode := .beforeHtml }
  else c

def putChars (c : Construction) (ch : Char) : Outcome := (c.putChar ch).done

def isBlankChar : Token → Bool
  | .char ch => Text.isAsciiBlank ch
  | _ => false

def inInitial (c : Construction) (t : Token) : Outcome :=
  if isBlankChar t then c.done
  else
    match t with
    | .comment s => (c.putCommentIn Arena.page s).done
    | _ => { c with vintage := true }.again .beforeHtml

/-- Whether an end tag is one of those that a missing root, head or body is made up for. -/
def endsMissing (tag : Tag) : Bool := tag == .head || tag == .body || tag == .html || tag == .br

def inBeforeHtml (c : Construction) (t : Token) : Outcome :=
  if isBlankChar t then c.done
  else
    match t with
    | .comment s => (c.putCommentIn Arena.page s).done
    | .startTag s =>
      if s.tag = .html then { c.insertRoot (htmlAttrs s) with mode := .beforeHead }.done
      else (c.insertRoot []).again .beforeHead
    | .endTag tag => if endsMissing tag then (c.insertRoot []).again .beforeHead else c.done
    | _ => (c.insertRoot []).again .beforeHead

/-- Open the head. -/
def insertHead (c : Construction) (t : StartTag) : Construction :=
  let (c, id) := c.openElement .html .head (htmlAttrs t)
  { c with head := some id, mode := .inHead }

def inBeforeHead (c : Construction) (t : Token) : Outcome :=
  let missing : Outcome := (c.insertHead ⟨.head, [], false⟩, .again)
  if isBlankChar t then c.done
  else
    match t with
    | .comment s => (c.putComment s).done
    | .startTag s =>
      if s.tag = .html then (c.mergeRoot s).done
      else if s.tag = .head then (c.insertHead s).done
      else missing
    | .endTag tag => if endsMissing tag then missing else c.done
    | _ => missing

/-- Open a template. -/
def openTemplate (c : Construction) (t : StartTag) : Construction :=
  let c := (c.insert t).pushMarker
  { c with
    framesetAllowed := false, mode := .inTemplate, templateModes := .inTemplate :: c.templateModes }

/-- Close the innermost template. -/
def closeTemplate (c : Construction) : Construction :=
  if c.isOpen .template then
    let c := (c.popImplied fun t => t.closesImplicitly || t.closesInTemplate).popThroughTag .template
    let c := c.clearToMarker
    { c with templateModes := c.templateModes.tail }.resetMode
  else c

/-- The start tag of an element of the head. -/
def startHeadContent (c : Construction) (t : StartTag) : Outcome :=
  if t.tag.isHeadVoid then (c.insertVoid t).done
  else
    match t.tag with
    | .title => c.insertRaw t .escapable
    | .script => c.insertRaw t .script
    | .template => (c.openTemplate t).done
    | _ => c.insertRaw t .rawText

def inHead (c : Construction) (t : Token) : Outcome :=
  let leave : Outcome := c.pop.again .afterHead
  if isBlankChar t then
    match t with
    | .char ch => c.putChars ch
    | _ => c.done
  else
    match t with
    | .comment s => (c.putComment s).done
    | .startTag s =>
      if s.tag = .html then (c.mergeRoot s).done
      else if s.tag.isHeadContent || s.tag = .noscript then c.startHeadContent s
      else if s.tag = .head then c.done
      else leave
    | .endTag tag =>
      match tag with
      | .head => { c.pop with mode := .afterHead }.done
      | .body | .html | .br => leave
      | .template => c.closeTemplate.done
      | _ => c.done
    | _ => leave

/-- An element of the head that comes too late still goes into the head. -/
def startLateHeadContent (c : Construction) (t : StartTag) : Outcome :=
  match c.head with
  | none => c.startHeadContent t
  | some head =>
    let (c, next) := { c with opens := ⟨head, .html, .head⟩ :: c.opens }.startHeadContent t
    (c.removeOpen head, next)

def inAfterHead (c : Construction) (t : Token) : Outcome :=
  let missing : Outcome := (c.insertBare .body).again .inBody
  if isBlankChar t then
    match t with
    | .char ch => c.putChars ch
    | _ => c.done
  else
    match t with
    | .comment s => (c.putComment s).done
    | .startTag s =>
      if s.tag = .html then (c.mergeRoot s).done
      else if s.tag = .body then
        { c.insert s with framesetAllowed := false, mode := .inBody }.done
      else if s.tag = .frameset then { c.insert s with mode := .inFrameset }.done
      else if s.tag.isHeadContent then c.startLateHeadContent s
      else if s.tag = .head then c.done
      else missing
    | .endTag tag =>
      match tag with
      | .template => c.closeTemplate.done
      | .body | .html | .br => missing
      | _ => c.done
    | _ => missing

end PageBlocks.Markup.Construction
