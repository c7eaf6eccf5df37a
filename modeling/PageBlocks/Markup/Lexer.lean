import PageBlocks.Markup.Token
import PageBlocks.Markup.Entity
import PageBlocks.Text.Ascii

/-!
Reading a page character by character. The lexer is a machine whose step takes one character and
yields the tokens that it completes. A carriage return counts as a line feed, and a line feed right
behind it belongs to it. How the text after a start tag is read is up to the construction of the tree,
which answers each start tag with a text mode.

A line break takes part in what stands around it in three places. Before an attribute value a line
break of two characters takes the character behind it along; behind the name of a document type it
hides a keyword that follows at once; and a carriage return that ends the name of a character
reference is read again, as a line feed of its own.
-/
namespace PageBlocks.Markup

/-- How far a script is inside a comment of its own. -/
inductive ScriptDepth where
  /-- Inside a comment. -/
  | single
  /-- Inside a script tag inside a comment. -/
  | double
  deriving DecidableEq

/-- Kinds of text in which only the matching end tag is a tag. -/
inductive RawKind where
  | escapable
  | rawText
  | script
  | commented (depth : ScriptDepth)
  deriving DecidableEq

/-- How an attribute value is delimited. -/
inductive Quoting where
  | double | single | none
  deriving DecidableEq

inductive DoctypeId where
  | publicId | systemId
  deriving DecidableEq

/-- Where the characters of a character reference go. -/
inductive ReferenceTarget where
  | data
  | escapable
  | value (quoting : Quoting)
  deriving DecidableEq

/-- How far a character reference has been read. The name read so far is kept in reverse. -/
inductive ReferencePhase where
  | ampersand
  | named (seen : List Char)
  /-- The name is unknown; the rest of the word is read. -/
  | unknown
  | numberSign
  | number (base : Nat) (marker : List Char) (value : Nat) (hasDigits : Bool)

inductive LexState where
  | data
  | raw (kind : RawKind)
  | plain
  | tagOpen
  | endTagOpen
  | tagName
  | rawLess (kind : RawKind)
  | rawEndTagOpen (kind : RawKind)
  | rawEndTagName (kind : RawKind)
  | scriptCommentStart
  | scriptCommentStartDash
  | scriptDash (depth : ScriptDepth)
  | scriptDashDash (depth : ScriptDepth)
  | scriptInnerStart
  | scriptInnerEnd
  | beforeAttrName
  | attrName
  | afterAttrName
  | beforeAttrValue
  /-- As `beforeAttrValue`, but the next character is lost. -/
  | beforeAttrValueBreak
  | attrValue (quoting : Quoting)
  | afterAttrValue
  | selfClosing
  | bogusComment
  /-- After `<!`; what has been read since, in reverse. -/
  | declaration (seen : List Char)
  | commentStart
  | commentStartDash
  | comment
  | commentEndDash
  | commentEnd
  | commentEndBang
  | doctype
  | beforeDoctypeName
  | doctypeName
  /-- After the name; the beginning of a keyword, in reverse. -/
  | afterDoctypeName (seen : List Char)
  /-- As `afterDoctypeName`, but no keyword begins here. -/
  | afterDoctypeNameBreak
  | afterDoctypeKeyword (id : DoctypeId)
  | beforeDoctypeId (id : DoctypeId)
  | doctypeId (id : DoctypeId) (quote : Char)
  | afterDoctypeId (id : DoctypeId)
  | betweenDoctypeIds
  | bogusDoctype
  | cdata
  | cdataBracket
  | cdataEnd
  | reference (target : ReferenceTarget) (phase : ReferencePhase)

/-- The lexer between two characters. Names, values and comments in the making are kept in reverse. -/
structure Lexer where
  state : LexState
  /-- The tag in the making is an end tag. -/
  isEndTag : Bool
  tagName : List Char
  attrs : List (String × String)
  attrName : List Char
  attrValue : List Char
  isSelfClosing : Bool
  /-- What has been read of a tag that may turn out to be text. -/
  pending : List Char
  comment : List Char
  doctype : Doctype
  /-- The name of the last start tag. -/
  lastStart : List Char
  /-- The last character was a carriage return; a line feed that comes next belongs to it. -/
  afterReturn : Bool

namespace Lexer

/-- Before the first character. -/
def start : Lexer where
  state := .data
  isEndTag := false
  tagName := []
  attrs := []
  attrName := []
  attrValue := []
  isSelfClosing := false
  pending := []
  comment := []
  doctype := ⟨none, none, none, false⟩
  lastStart := []
  afterReturn := false

/-- What a step yields: the lexer after it and the tokens completed by it. -/
abbrev Result := Lexer × List Token

/-- The text whose reversal is `cs`. -/
def textOf (cs : List Char) : String := String.ofList cs.reverse

def isSpace (c : Char) : Bool := c == '\t' || c == '\n' || c == '\x0c' || c == ' '

def replacement : Char := '\ufffd'

/-- NUL is replaced, any other character kept. -/
def mended (c : Char) : Char := if c == '\x00' then replacement else c

def goto (lx : Lexer) (state : LexState) : Result := ({ lx with state := state }, [])

def emit (lx : Lexer) (state : LexState) (cs : List Char) : Result :=
  ({ lx with state := state }, cs.map Token.char)

/-- Emit characters before what a further step yields. -/
def after (cs : List Char) (r : Result) : Result := (r.1, cs.map Token.char ++ r.2)

/-! ### Tags -/

/-- The attribute in the making is complete; it counts unless its name has occurred. -/
def finishAttr (lx : Lexer) : Lexer :=
  if lx.attrName.isEmpty then lx
  else
    let name := textOf lx.attrName
    if lx.attrs.any (·.1 == name) then { lx with attrName := [], attrValue := [] }
    else
      { lx with attrs := (name, textOf lx.attrValue) :: lx.attrs, attrName := [], attrValue := [] }

def startAttr (lx : Lexer) (c : Char) : Result :=
  let lx := lx.finishAttr
  ({ lx with state := .attrName, attrName := [(mended c).toLower], attrValue := [] }, [])

def pushName (lx : Lexer) (c : Char) : Result :=
  ({ lx with attrName := (mended c).toLower :: lx.attrName }, [])

def pushValue (lx : Lexer) (state : LexState) (cs : List Char) : Result :=
  ({ lx with state := state, attrValue := cs.reverse ++ lx.attrValue }, [])

def startTag (lx : Lexer) (isEndTag : Bool) (state : LexState) (c : Char) : Lexer :=
  { lx with
    state := state, isEndTag := isEndTag, tagName := [c.toLower], attrs := [], attrName := [],
    attrValue := [], isSelfClosing := false }

/-- The tag in the making is complete. -/
def emitTag (lx : Lexer) : Result :=
  let lx := lx.finishAttr
  let tag := Tag.ofString (textOf lx.tagName)
  if lx.isEndTag then ({ lx with state := .data, tagName := [], attrs := [] }, [.endTag tag])
  else
    ({ lx with state := .data, tagName := [], attrs := [], lastStart := lx.tagName },
      [.startTag ⟨tag, lx.attrs.reverse, lx.isSelfClosing⟩])

/-! ### Comments and declarations -/

def pushComment (lx : Lexer) (state : LexState) (cs : List Char) : Result :=
  ({ lx with state := state, comment := cs.reverse ++ lx.comment }, [])

def emitComment (lx : Lexer) : Result :=
  ({ lx with state := .data, comment := [] }, [.comment (textOf lx.comment)])

def inBogusComment (lx : Lexer) (c : Char) : Result :=
  if c == '>' then lx.emitComment else lx.pushComment .bogusComment [mended c]

def emitDoctype (lx : Lexer) : Result :=
  ({ lx with state := .data, doctype := ⟨none, none, none, false⟩ }, [.doctype lx.doctype])

def breakDoctype (lx : Lexer) : Lexer := { lx with doctype := { lx.doctype with broken := true } }

def pushDoctypeName (lx : Lexer) (c : Char) : Result :=
  let name := (lx.doctype.name.getD "").push (mended c).toLower
  ({ lx with state := .doctypeName, doctype := { lx.doctype with name := some name } }, [])

/-- Change an identifier of the declaration in the making. -/
def modifyDoctypeId (lx : Lexer) (id : DoctypeId) (f : Option String → String) : Lexer :=
  match id with
  | .publicId => { lx with doctype := { lx.doctype with publicId := some (f lx.doctype.publicId) } }
  | .systemId => { lx with doctype := { lx.doctype with systemId := some (f lx.doctype.systemId) } }

def startDoctypeId (lx : Lexer) (id : DoctypeId) (quote : Char) : Result :=
  (lx.modifyDoctypeId id fun _ => "").goto (.doctypeId id quote)

def inBogusDoctype (lx : Lexer) (c : Char) : Result :=
  if c == '>' then lx.emitDoctype else lx.goto .bogusDoctype

def inBeforeDoctypeName (lx : Lexer) (c : Char) : Result :=
  if isSpace c then lx.goto .beforeDoctypeName
  else if c == '>' then lx.breakDoctype.emitDoctype
  else lx.pushDoctypeName c

def lowercase (cs : List Char) : List Char := cs.map Char.toLower

/-- After `<!`: a comment, a document type, in other vocabularies a section of plain text, or else
a comment by accident. -/
def inDeclaration (lx : Lexer) (foreign : Bool) (seen : List Char) (c : Char) : Result :=
  let read := (c :: seen).reverse
  if read == "--".toList then { lx with comment := [] }.goto .commentStart
  else if lowercase read == "doctype".toList then lx.goto .doctype
  else if foreign && read == "[CDATA[".toList then lx.goto .cdata
  else if read.isPrefixOf "--".toList || (lowercase read).isPrefixOf "doctype".toList ||
      (foreign && read.isPrefixOf "[CDATA[".toList) then
    lx.goto (.declaration (c :: seen))
  else { lx with comment := seen }.inBogusComment c

/-- After a line break behind the name, where no keyword begins. -/
def inAfterDoctypeNameBreak (lx : Lexer) (c : Char) : Result :=
  if isSpace c then lx.goto (.afterDoctypeName [])
  else if c == '>' then lx.emitDoctype
  else lx.breakDoctype.goto .bogusDoctype

def inAfterDoctypeName (lx : Lexer) (seen : List Char) (c : Char) : Result :=
  let read := lowercase (c :: seen).reverse
  if seen.isEmpty && isSpace c then lx.goto (.afterDoctypeName [])
  else if seen.isEmpty && c == '>' then lx.emitDoctype
  else if read == "public".toList then lx.goto (.afterDoctypeKeyword .publicId)
  else if read == "system".toList then lx.goto (.afterDoctypeKeyword .systemId)
  else if read.isPrefixOf "public".toList || read.isPrefixOf "system".toList then
    lx.goto (.afterDoctypeName (c :: seen))
  else lx.breakDoctype.inBogusDoctype c

/-! ### Running text -/

def inData (lx : Lexer) (c : Char) : Result :=
  if c == '&' then lx.goto (.reference .data .ampersand)
  else if c == '<' then lx.goto .tagOpen
  else lx.emit .data [c]

def inRaw (lx : Lexer) (kind : RawKind) (c : Char) : Result :=
  if c == '<' then
    lx.emit (.rawLess kind) (if kind = .commented .double then ['<'] else [])
  else if c == '&' && kind == .escapable then lx.goto (.reference .escapable .ampersand)
  else
    match kind with
    | .commented depth =>
      if c == '-' then lx.emit (.scriptDash depth) ['-'] else lx.emit (.raw kind) [mended c]
    | _ => lx.emit (.raw kind) [mended c]

def inCdata (lx : Lexer) (c : Char) : Result :=
  if c == ']' then lx.goto .cdataBracket else lx.emit .cdata [c]

def inBeforeAttrName (lx : Lexer) (c : Char) : Result :=
  if isSpace c then lx.goto .beforeAttrName
  else if c == '/' then lx.goto .selfClosing
  else if c == '>' then lx.emitTag
  else lx.startAttr c

def inAttrValue (lx : Lexer) (quoting : Quoting) (c : Char) : Result :=
  let quoted (q : Char) : Result :=
    if c == q then lx.goto .afterAttrValue
    else if c == '&' then lx.goto (.reference (.value quoting) .ampersand)
    else lx.pushValue (.attrValue quoting) [mended c]
  match quoting with
  | .double => quoted '"'
  | .single => quoted '\''
  | .none =>
    if isSpace c then lx.goto .beforeAttrName
    else if c == '&' then lx.goto (.reference (.value quoting) .ampersand)
    else if c == '>' then lx.emitTag
    else lx.pushValue (.attrValue quoting) [mended c]

/-! ### Character references -/

/-- The characters that old pages write with the numbers 128 to 159. -/
def oldNumbers : List Nat :=
  [0x20AC, 0x81, 0x201A, 0x0192, 0x201E, 0x2026, 0x2020, 0x2021,
   0x02C6, 0x2030, 0x0160, 0x2039, 0x0152, 0x8D, 0x017D, 0x8F,
   0x90, 0x2018, 0x2019, 0x201C, 0x201D, 0x2022, 0x2013, 0x2014,
   0x02DC, 0x2122, 0x0161, 0x203A, 0x0153, 0x9D, 0x017E, 0x0178]

/-- The character that a number refers to. -/
def numbered (n : Nat) : Char :=
  if n == 0 || n > 0x10FFFF || (0xD800 ≤ n && n ≤ 0xDFFF) then replacement
  else if 0x80 ≤ n && n ≤ 0x9F then Char.ofNat (oldNumbers.getD (n - 0x80) n)
  else Char.ofNat n

/-- Add a digit to a number; beyond the last character the number no longer grows. -/
def addDigit (base value digit : Nat) : Nat :=
  if value > 0x10FFFF then value else value * base + digit

/-- Put characters where a reference stands. -/
def resolve (lx : Lexer) (target : ReferenceTarget) (cs : List Char) : Result :=
  match target with
  | .data => lx.emit .data cs
  | .escapable => lx.emit (.raw .escapable) cs
  | .value quoting => lx.pushValue (.attrValue quoting) cs

/-- Read a character where a reference stood. -/
def inTarget (lx : Lexer) (target : ReferenceTarget) (c : Char) : Result :=
  match target with
  | .data => lx.inData c
  | .escapable => lx.inRaw .escapable c
  | .value quoting => lx.inAttrValue quoting c

def ReferenceTarget.isValue : ReferenceTarget → Bool
  | .value _ => true
  | _ => false

/-- Put characters where a reference stood, then read a character there. -/
def resolveThen (lx : Lexer) (target : ReferenceTarget) (cs : List Char) (c : Char) : Result :=
  let (lx, before) := lx.resolve target cs
  let (lx, later) := lx.inTarget target c
  (lx, before ++ later)

/-- What a named reference comes to. -/
structure Reading where
  /-- The characters it stands for. -/
  value : List Char
  /-- What has been read beyond it. -/
  rest : List Char
  /-- The name lacks its semicolon. -/
  isFaulty : Bool

def Reading.chars (r : Reading) : List Char := r.value ++ r.rest

/-- A name that is no reference: the ampersand stands for itself. -/
def Reading.literal (name : List Char) : Reading := ⟨['&'], name, false⟩

/-- What a reference whose name has been read up to `next` comes to, if its beginning is known. In an
attribute value a name without its semicolon does not count if it could be part of a longer word. -/
def reading? (target : ReferenceTarget) (name : List Char) (next : Option Char) : Option Reading :=
  (Entity.longest? name).map fun entity =>
    let rest := name.drop entity.name.length
    let follower := rest.head?.or next
    let complete := entity.name.getLast? == some ';'
    let inWord := follower.any fun c => c == '=' || c.isAlphanum
    if !complete && ReferenceTarget.isValue target && inWord then .literal name
    else ⟨entity.value, rest, !complete⟩

def withFault (faulty : Bool) (r : Result) : Result := if faulty then (r.1, .fault :: r.2) else r

/-- The characters that end the hope for a reference right after the ampersand. -/
def endsReference (target : ReferenceTarget) (c : Char) : Bool :=
  isSpace c || c == '<' || c == '&' ||
    match target with
    | .value .double => c == '"'
    | .value .single => c == '\''
    | .value .none => c == '>'
    | _ => false

/-- Read the character that ended a name again, after what else has been read beyond the reference. A
carriage return has become a line feed of its own: alone it is lost, and a line feed behind it counts. -/
def readAgain (lx : Lexer) (target : ReferenceTarget) (r : Reading) (c : Char) : Result :=
  let ownBreak := lx.afterReturn
  let lx := { lx with afterReturn := false }
  if ownBreak && r.rest.isEmpty then lx.resolve target r.value
  else lx.resolveThen target r.chars c

/-- Read on in a word that is no name; it stands for itself. -/
def inUnknown (lx : Lexer) (target : ReferenceTarget) (c : Char) : Result :=
  if c.isAlphanum then
    let (lx, tokens) := lx.resolve target [c]
    ({ lx with state := .reference target .unknown }, tokens)
  else { lx with afterReturn := false }.inTarget target c

def inNamed (lx : Lexer) (target : ReferenceTarget) (seen : List Char) (c : Char) : Result :=
  if Entity.isBeginning (c :: seen).reverse then lx.goto (.reference target (.named (c :: seen)))
  else
    match reading? target seen.reverse (some c) with
    | some r => withFault r.isFaulty (lx.readAgain target r c)
    | none =>
      if c.isAlphanum then
        let (lx, before) := lx.resolve target (Reading.literal seen.reverse).chars
        let (lx, later) := lx.inUnknown target c
        (lx, before ++ later)
      else lx.readAgain target (.literal seen.reverse) c

def inNumber (lx : Lexer) (target : ReferenceTarget) (base : Nat) (marker : List Char)
    (value : Nat) (hasDigits : Bool) (c : Char) : Result :=
  match Text.digitValue? base c with
  | some digit => lx.goto (.reference target (.number base marker (addDigit base value digit) true))
  | none =>
    if !hasDigits then lx.resolveThen target ('&' :: '#' :: marker) c
    else if c == ';' then lx.resolve target [numbered value]
    else withFault true (lx.resolveThen target [numbered value] c)

def inReference (lx : Lexer) (target : ReferenceTarget) (phase : ReferencePhase) (c : Char) : Result :=
  match phase with
  | .ampersand =>
    if endsReference target c && !lx.afterReturn then lx.resolveThen target ['&'] c
    else if c == '#' then lx.goto (.reference target .numberSign)
    else lx.inNamed target [] c
  | .named seen => lx.inNamed target seen c
  | .unknown => lx.inUnknown target c
  | .numberSign =>
    if c == 'x' || c == 'X' then lx.goto (.reference target (.number 16 [c] 0 false))
    else lx.inNumber target 10 [] 0 false c
  | .number base marker value hasDigits => lx.inNumber target base marker value hasDigits c

/-! ### One character -/

def inTagOpen (lx : Lexer) (c : Char) : Result :=
  if c == '!' then lx.goto (.declaration [])
  else if c == '/' then lx.goto .endTagOpen
  else if c == '?' then { lx with comment := [] }.inBogusComment c
  else if c.isAlpha then (lx.startTag false .tagName c, [])
  else after ['<'] (lx.inData c)

def inEndTagOpen (lx : Lexer) (c : Char) : Result :=
  if c.isAlpha then (lx.startTag true .tagName c, [])
  else if c == '>' then ({ lx with state := .data }, [.fault])
  else { lx with comment := [] }.inBogusComment c

def inRawLess (lx : Lexer) (kind : RawKind) (c : Char) : Result :=
  match kind with
  | .commented .double =>
    if c == '/' then { lx with pending := [] }.emit .scriptInnerEnd ['/'] else lx.inRaw kind c
  | .commented .single =>
    if c == '/' then lx.goto (.rawEndTagOpen kind)
    else if c.isAlpha then { lx with pending := [c.toLower] }.emit .scriptInnerStart ['<', c]
    else after ['<'] (lx.inRaw kind c)
  | _ =>
    if c == '/' then lx.goto (.rawEndTagOpen kind)
    else if c == '!' && kind == .script then lx.emit .scriptCommentStart ['<', '!']
    else after ['<'] (lx.inRaw kind c)

def inRawEndTagOpen (lx : Lexer) (kind : RawKind) (c : Char) : Result :=
  if c.isAlpha then ({ lx.startTag true (.rawEndTagName kind) c with pending := [c] }, [])
  else after ['<', '/'] (lx.inRaw kind c)

def inRawEndTagName (lx : Lexer) (kind : RawKind) (c : Char) : Result :=
  let matching := lx.tagName == lx.lastStart
  if matching && isSpace c then lx.goto .beforeAttrName
  else if matching && c == '/' then lx.goto .selfClosing
  else if matching && c == '>' then lx.emitTag
  else if c.isAlpha then
    ({ lx with tagName := c.toLower :: lx.tagName, pending := c :: lx.pending }, [])
  else after ('<' :: '/' :: lx.pending.reverse) (lx.inRaw kind c)

/-- Inside a comment of a script, behind a dash. -/
def inScriptDash (lx : Lexer) (depth : ScriptDepth) (c : Char) : Result :=
  if c == '-' then lx.emit (.scriptDashDash depth) ['-'] else lx.inRaw (.commented depth) c

def inScriptDashDash (lx : Lexer) (depth : ScriptDepth) (c : Char) : Result :=
  if c == '-' then lx.emit (.scriptDashDash depth) ['-']
  else if c == '>' then lx.emit (.raw .script) ['>']
  else lx.inRaw (.commented depth) c

/-- Reading the name of a tag inside a comment of a script; a script tag changes the depth from
`other` to `target`. -/
def inScriptInner (lx : Lexer) (state : LexState) (target other : ScriptDepth) (c : Char) : Result :=
  if isSpace c || c == '/' || c == '>' then
    let depth := if lx.pending.reverse == "script".toList then target else other
    lx.emit (.raw (.commented depth)) [c]
  else if c.isAlpha then { lx with pending := c.toLower :: lx.pending }.emit state [c]
  else lx.inRaw (.commented other) c

def inTagName (lx : Lexer) (c : Char) : Result :=
  if isSpace c then lx.goto .beforeAttrName
  else if c == '/' then lx.goto .selfClosing
  else if c == '>' then lx.emitTag
  else ({ lx with tagName := (mended c).toLower :: lx.tagName }, [])

def inAttrName (lx : Lexer) (c : Char) : Result :=
  if isSpace c then lx.goto .afterAttrName
  else if c == '/' then lx.goto .selfClosing
  else if c == '=' then lx.goto .beforeAttrValue
  else if c == '>' then lx.emitTag
  else lx.pushName c

def inAfterAttrName (lx : Lexer) (c : Char) : Result :=
  if isSpace c then lx.goto .afterAttrName
  else if c == '/' then lx.goto .selfClosing
  else if c == '=' then lx.goto .beforeAttrValue
  else if c == '>' then lx.emitTag
  else lx.startAttr c

def inBeforeAttrValue (lx : Lexer) (c : Char) : Result :=
  if isSpace c then lx.goto .beforeAttrValue
  else if c == '"' then lx.goto (.attrValue .double)
  else if c == '\'' then lx.goto (.attrValue .single)
  else if c == '>' then lx.emitTag
  else lx.inAttrValue .none c

def inAfterAttrValue (lx : Lexer) (c : Char) : Result :=
  if isSpace c then lx.goto .beforeAttrName
  else if c == '/' then lx.goto .selfClosing
  else if c == '>' then lx.emitTag
  else lx.inBeforeAttrName c

def inSelfClosing (lx : Lexer) (c : Char) : Result :=
  if c == '>' then { lx with isSelfClosing := true }.emitTag else lx.inBeforeAttrName c

def inCommentStart (lx : Lexer) (c : Char) : Result :=
  if c == '-' then lx.goto .commentStartDash
  else if c == '>' then lx.emitComment
  else lx.pushComment .comment [mended c]

def inCommentStartDash (lx : Lexer) (c : Char) : Result :=
  if c == '-' then lx.goto .commentEnd
  else if c == '>' then lx.emitComment
  else lx.pushComment .comment ['-', mended c]

def inComment (lx : Lexer) (c : Char) : Result :=
  if c == '-' then lx.goto .commentEndDash else lx.pushComment .comment [mended c]

def inCommentEndDash (lx : Lexer) (c : Char) : Result :=
  if c == '-' then lx.goto .commentEnd else lx.pushComment .comment ['-', mended c]

def inCommentEnd (lx : Lexer) (c : Char) : Result :=
  if c == '>' then lx.emitComment
  else if c == '!' then lx.goto .commentEndBang
  else if c == '-' then lx.pushComment .commentEnd ['-']
  else lx.pushComment .comment ['-', '-', mended c]

def inCommentEndBang (lx : Lexer) (c : Char) : Result :=
  if c == '-' then lx.pushComment .commentEndDash ['-', '-', '!']
  else if c == '>' then lx.emitComment
  else lx.pushComment .comment ['-', '-', '!', mended c]

def inDoctypeName (lx : Lexer) (c : Char) : Result :=
  if isSpace c then lx.goto (.afterDoctypeName [])
  else if c == '>' then lx.emitDoctype
  else lx.pushDoctypeName c

/-- After the keyword of an identifier, before its quote. -/
def inBeforeDoctypeId (lx : Lexer) (id : DoctypeId) (c : Char) : Result :=
  if isSpace c then lx.goto (.beforeDoctypeId id)
  else if c == '"' || c == '\'' then lx.startDoctypeId id c
  else if c == '>' then lx.breakDoctype.emitDoctype
  else lx.breakDoctype.goto .bogusDoctype

def inDoctypeId (lx : Lexer) (id : DoctypeId) (quote c : Char) : Result :=
  if c == quote then lx.goto (.afterDoctypeId id)
  else if c == '>' then lx.breakDoctype.emitDoctype
  else (lx.modifyDoctypeId id fun s => (s.getD "").push (mended c), [])

def inAfterDoctypeId (lx : Lexer) (id : DoctypeId) (c : Char) : Result :=
  match id with
  | .publicId =>
    if isSpace c then lx.goto .betweenDoctypeIds
    else if c == '>' then lx.emitDoctype
    else if c == '"' || c == '\'' then lx.startDoctypeId .systemId c
    else lx.breakDoctype.goto .bogusDoctype
  | .systemId =>
    if isSpace c then lx.goto (.afterDoctypeId .systemId)
    else if c == '>' then lx.emitDoctype
    else lx.goto .bogusDoctype

def inBetweenDoctypeIds (lx : Lexer) (c : Char) : Result :=
  if isSpace c then lx.goto .betweenDoctypeIds
  else if c == '>' then lx.emitDoctype
  else if c == '"' || c == '\'' then lx.startDoctypeId .systemId c
  else lx.breakDoctype.goto .bogusDoctype

def inCdataBracket (lx : Lexer) (c : Char) : Result :=
  if c == ']' then lx.goto .cdataEnd else after [']'] (lx.inCdata c)

def inCdataEnd (lx : Lexer) (c : Char) : Result :=
  if c == '>' then lx.goto .data
  else if c == ']' then lx.emit .cdataEnd [']']
  else after [']', ']'] (lx.inCdata c)

/-- Read one character whose line breaks are line feeds; `foreign` tells that the current element is not
of HTML. -/
def dispatch (lx : Lexer) (foreign : Bool) (c : Char) : Result :=
  match lx.state with
  | .data => lx.inData c
  | .raw kind => lx.inRaw kind c
  | .plain => lx.emit .plain [mended c]
  | .tagOpen => lx.inTagOpen c
  | .endTagOpen => lx.inEndTagOpen c
  | .tagName => lx.inTagName c
  | .rawLess kind => lx.inRawLess kind c
  | .rawEndTagOpen kind => lx.inRawEndTagOpen kind c
  | .rawEndTagName kind => lx.inRawEndTagName kind c
  | .scriptCommentStart =>
    if c == '-' then lx.emit .scriptCommentStartDash ['-'] else lx.inRaw .script c
  | .scriptCommentStartDash =>
    if c == '-' then lx.emit (.scriptDashDash .single) ['-'] else lx.inRaw .script c
  | .scriptDash depth => lx.inScriptDash depth c
  | .scriptDashDash depth => lx.inScriptDashDash depth c
  | .scriptInnerStart => lx.inScriptInner .scriptInnerStart .double .single c
  | .scriptInnerEnd => lx.inScriptInner .scriptInnerEnd .single .double c
  | .beforeAttrName => lx.inBeforeAttrName c
  | .attrName => lx.inAttrName c
  | .afterAttrName => lx.inAfterAttrName c
  | .beforeAttrValue => lx.inBeforeAttrValue c
  | .beforeAttrValueBreak => lx.goto .beforeAttrValue
  | .attrValue quoting => lx.inAttrValue quoting c
  | .afterAttrValue => lx.inAfterAttrValue c
  | .selfClosing => lx.inSelfClosing c
  | .bogusComment => lx.inBogusComment c
  | .declaration seen => lx.inDeclaration foreign seen c
  | .commentStart => lx.inCommentStart c
  | .commentStartDash => lx.inCommentStartDash c
  | .comment => lx.inComment c
  | .commentEndDash => lx.inCommentEndDash c
  | .commentEnd => lx.inCommentEnd c
  | .commentEndBang => lx.inCommentEndBang c
  | .doctype => lx.inBeforeDoctypeName c
  | .beforeDoctypeName => lx.inBeforeDoctypeName c
  | .doctypeName => lx.inDoctypeName c
  | .afterDoctypeName seen => lx.inAfterDoctypeName seen c
  | .afterDoctypeNameBreak => lx.inAfterDoctypeNameBreak c
  | .afterDoctypeKeyword id => lx.inBeforeDoctypeId id c
  | .beforeDoctypeId id => lx.inBeforeDoctypeId id c
  | .doctypeId id quote => lx.inDoctypeId id quote c
  | .afterDoctypeId id => lx.inAfterDoctypeId id c
  | .betweenDoctypeIds => lx.inBetweenDoctypeIds c
  | .bogusDoctype => lx.inBogusDoctype c
  | .cdata => lx.inCdata c
  | .cdataBracket => lx.inCdataBracket c
  | .cdataEnd => lx.inCdataEnd c
  | .reference target phase => lx.inReference target phase c

/-- Where reading goes on behind a line break of two characters. -/
def behindBreak : LexState → LexState
  | .beforeAttrValue => .beforeAttrValueBreak
  | .afterDoctypeName [] => .afterDoctypeNameBreak
  | state => state

/-- Read one character; `foreign` tells that the current element is not of HTML. -/
def step (lx : Lexer) (foreign : Bool) (c : Char) : Result :=
  if lx.afterReturn && c == '\n' then
    ({ lx with state := behindBreak lx.state, afterReturn := false }, [])
  else if c == '\r' then { lx with afterReturn := true }.dispatch foreign '\n'
  else { lx with afterReturn := false }.dispatch foreign c

/-- The tokens that a reference yields at the end of the text. Inside a tag it is lost with it. -/
def finishReference (target : ReferenceTarget) (phase : ReferencePhase) : List Token :=
  if ReferenceTarget.isValue target then []
  else
    match phase with
    | .ampersand => [.char '&']
    | .numberSign => [.char '&', .char '#']
    | .number _ marker value hasDigits =>
      if hasDigits then [.fault, .char (numbered value)]
      else ('&' :: '#' :: marker).map Token.char
    | .named seen =>
      let r := (reading? target seen.reverse none).getD (.literal seen.reverse)
      let chars := r.chars.map Token.char
      if r.isFaulty then .fault :: chars else chars
    | .unknown => []

/-- The tokens at the end of the text. An unfinished tag is lost, an unfinished comment or
declaration counts, and the beginning of what might have been a tag is text. -/
def finish (lx : Lexer) : List Token :=
  let last :=
    match lx.state with
    | .tagOpen => [.char '<']
    | .endTagOpen => [.char '<', .char '/']
    | .rawLess (.commented .double) => []
    | .rawLess _ => [.char '<']
    | .rawEndTagOpen _ => [.char '<', .char '/']
    | .rawEndTagName _ => ('<' :: '/' :: lx.pending.reverse).map Token.char
    | .commentStart | .commentStartDash | .comment | .commentEndDash | .commentEnd
    | .commentEndBang | .bogusComment => lx.emitComment.2
    | .declaration seen => [.comment (textOf seen)]
    | .doctype | .beforeDoctypeName | .doctypeName | .afterDoctypeName _ | .afterDoctypeNameBreak
    | .afterDoctypeKeyword _ | .beforeDoctypeId _ | .doctypeId _ _ | .afterDoctypeId _ | .betweenDoctypeIds =>
      lx.breakDoctype.emitDoctype.2
    | .bogusDoctype => lx.emitDoctype.2
    | .cdataBracket => [.char ']']
    | .cdataEnd => [.char ']', .char ']']
    | .reference target phase => finishReference target phase
    | _ => []
  last ++ [.eof]

/-- Read what follows in the given mode. -/
def setMode (lx : Lexer) : TextMode → Lexer
  | .escapable => { lx with state := .raw .escapable }
  | .rawText => { lx with state := .raw .rawText }
  | .script => { lx with state := .raw .script }
  | .plain => { lx with state := .plain }

end Lexer

end PageBlocks.Markup
