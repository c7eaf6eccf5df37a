import PageBlocks.Url.Host
import PageBlocks.Url.Path

/-!
Reading addresses, alone or from the address of a page. An address without a scheme means something
only from a page; it replaces the later parts of the address of that page by its own.
-/
namespace PageBlocks.Url

/-- A text without blanks at its ends and line breaks anywhere. -/
def cleaned (cs : List Char) : List Char :=
  let isTrimmed (c : Char) : Bool := c.toNat ≤ 0x20
  let cs := ((cs.dropWhile isTrimmed).reverse.dropWhile isTrimmed).reverse
  cs.filter fun c => !(c == '\t' || c == '\n' || c == '\r')

/-- The scheme of an address, in small letters, and what follows its colon. -/
def scheme? (cs : List Char) : Option (List Char × List Char) :=
  let isSchemeChar (c : Char) : Bool := c.isAlphanum || c == '+' || c == '-' || c == '.'
  match cs with
  | c :: _ =>
    match cs.span isSchemeChar with
    | (scheme, ':' :: rest) => if c.isAlpha then some (scheme.map Char.toLower, rest) else none
    | _ => none
  | [] => none

def isQueryMark (c : Char) : Bool := c == '?' || c == '#'

def isAnySlash (c : Char) : Bool := c == '/' || c == '\\'

/-- Give an address the fragment that a text tells. -/
def withFragment (u : Url) : List Char → Url
  | '#' :: rest => { u with fragment := some (percentEncode isFragmentEscaped rest) }
  | _ => { u with fragment := none }

/-- Give an address the query and the fragment that a text tells. -/
def withQuery (u : Url) : List Char → Url
  | '?' :: rest =>
    let (query, rest) := rest.span (· != '#')
    let isEscaped := if u.kind = .other then isQueryEscaped else isSpecialQueryEscaped
    { u with query := some (percentEncode isEscaped query) }.withFragment rest
  | cs => { u with query := none }.withFragment cs

/-- Give an address the path, from a given one, the query and the fragment that a text tells. -/
def withPath (u : Url) (start cs : List Char) : Url :=
  let (path, rest) := cs.span fun c => !isQueryMark c
  { u with path := .rooted (pathFrom u.kind start path) }.withQuery rest

/-! ### Authorities -/

/-- The number that may follow a host, and what follows it; the usual one of the scheme does not
count. -/
def portNumber? (scheme : List Char) : List Char → Option (Option Nat × List Char)
  | ':' :: cs => do
    let (digits, rest) := cs.span Char.isDigit
    if rest.head?.any fun c => !(isAnySlash c || isQueryMark c) then none
    else
      let n ← numberOf? 10 digits
      if 65535 < n then none
      else if digits.isEmpty || usualPorts.lookup scheme = some n then return (none, rest)
      else return (some n, rest)
  | cs => some (none, cs)

/-- The host at the beginning of a text. A slash ends it, and except in brackets a colon. -/
def hostText (kind : SchemeKind) (inBrackets : Bool) : List Char → List Char × List Char
  | [] => ([], [])
  | c :: rest =>
    if isSlash kind c || isQueryMark c || (c == ':' && !inBrackets) then ([], c :: rest)
    else
      let (host, rest) := hostText kind (c == '[' || (inBrackets && c != ']')) rest
      (c :: host, rest)

/-- User and password before the last `@` of an authority, and what follows it. -/
def userInfo? (kind : SchemeKind) (cs : List Char) : Option (List Char × List Char × List Char) :=
  let (text, beyond) := cs.span fun c => !(isSlash kind c || isQueryMark c)
  match text.reverse.span (· != '@') with
  | (_, []) => some ([], [], cs)
  | (rest, _ :: info) =>
    if info.isEmpty && rest.isEmpty && !beyond.isEmpty then none
    else
      let (user, password) := info.reverse.span (· != ':')
      some (percentEncode isUserEscaped user, percentEncode isUserEscaped password.tail,
        rest.reverse ++ beyond)

/-- The authority that begins a text, and what follows it. -/
def authority? (scheme cs : List Char) : Option (Authority × List Char) := do
  let kind := kindOf scheme
  let (user, password, rest) ← userInfo? kind cs
  let (host, rest) := hostText kind false rest
  let written ← if kind = .other then Host.ofOpaque? host else Host.ofSpecial? host
  let (number, beyond) ← portNumber? scheme rest
  let a : Authority := ⟨user, password, written, number⟩
  if host.isEmpty && (kind != .other || a.hasUser || rest.head? == some ':') then none
  else return (a, beyond)

/-- A text without the slash at its beginning. -/
def afterSlash : List Char → List Char
  | c :: rest => if isAnySlash c then rest else c :: rest
  | [] => []

/-- The address of a scheme whose authority begins a text. -/
def ofAuthority? (scheme cs : List Char) : Option Url := do
  let (authority, rest) ← authority? scheme cs
  let u : Url := ⟨scheme, some authority, .rooted [], none, none⟩
  if u.kind = .other then
    match rest with
    | [] => return u
    | c :: _ =>
      if isQueryMark c then return u.withQuery rest
      else return u.withPath (if c == '/' then [] else ['/']) rest
  else return u.withPath ['/'] (afterSlash rest)

/-! ### Relative addresses -/

/-- The directory of an address, from which the path of another one starts. -/
def pathStart (u : Url) : List Char :=
  match directory u.kind u.path.written with
  | [] => ['/']
  | start => start

/-- The address that a text leads to from an address of the same scheme. -/
def relative? (base : Url) (cs : List Char) : Option Url :=
  match cs with
  | [] => some { base with fragment := none }
  | '?' :: _ => some (base.withQuery cs)
  | '#' :: _ => some (base.withFragment cs)
  | c :: rest =>
    if isAnySlash c then
      match rest with
      | d :: after =>
        if isAnySlash d then
          let text := if c == '/' && d == '/' then after else cs.dropWhile isAnySlash
          ofAuthority? base.scheme text
        else some (base.withPath ['/'] rest)
      | [] => some (base.withPath ['/'] rest)
    else some (base.withPath base.pathStart cs)

/-! ### Addresses of files -/

def fileScheme : List Char := "file".toList

/-- An address of a file on a host, without a path. -/
def onHost (host : List Char) : Url :=
  ⟨fileScheme, some { Authority.empty with host := host }, .rooted [], none, none⟩

/-- The host in an address of a file; this computer needs no name. -/
def fileHost? (cs : List Char) : Option (List Char) :=
  if cs.isEmpty then some []
  else (Host.ofSpecial? cs).map fun host => if host = "localhost".toList then [] else host

/-- The address of a file whose host begins a text. A path that begins with a drive needs no host. -/
def ofFileHost? (cs : List Char) : Option Url := do
  let (text, rest) := cs.span fun c => !(isAnySlash c || isQueryMark c)
  if isDriveLetter text then return (onHost []).withPath ['/'] cs
  else
    let host ← fileHost? text
    if host.isEmpty then return (onHost []).withPath ['/'] rest
    else
      let cs := afterSlash rest
      let path := walk .file ['/'] (cs.takeWhile fun c => !isQueryMark c)
      let host := if isDrive (firstSegment path) then [] else host
      return (onHost host).withPath ['/'] cs

/-- The address that a path from the root tells. It stays on the drive of the page, or else on its
host. -/
def fromRoot (base : Option Url) (cs : List Char) : Url :=
  match base with
  | none => (onHost []).withPath [] cs
  | some base =>
    let first := firstSegment base.path.written
    if startsWithDrive cs.tail then (onHost []).withPath [] cs
    else if isDrive first then (onHost []).withPath ('/' :: first) cs
    else (onHost ((base.authority.map (·.host)).getD [])).withPath [] cs

/-- The address that a path tells from the page. -/
def fromPage (base : Option Url) (cs : List Char) : Url :=
  match base with
  | none => (onHost []).withPath ['/'] cs
  | some base =>
    match cs with
    | [] => { base with fragment := none }
    | '?' :: _ => base.withQuery cs
    | '#' :: _ => base.withFragment cs
    | _ =>
      if startsWithDrive cs then (onHost []).withPath ['/'] cs
      else base.withPath (directory .file base.path.written) cs

/-- The address of a file that a text means, from the address of a file if there is one. -/
def file? (base : Option Url) (cs : List Char) : Option Url :=
  match cs with
  | c :: d :: rest =>
    if isAnySlash c && isAnySlash d then ofFileHost? rest
    else if isAnySlash c then some (fromRoot base cs)
    else some (fromPage base cs)
  | [c] => some (if isAnySlash c then fromRoot base cs else fromPage base cs)
  | [] => some (fromPage base [])

/-! ### Any address -/

/-- The address of a scheme without well-known rules. -/
def ofOther? (scheme cs : List Char) : Option Url :=
  match cs with
  | '/' :: '/' :: rest => ofAuthority? scheme rest
  | '/' :: rest => some ((⟨scheme, none, .rooted [], none, none⟩ : Url).withPath ['/'] rest)
  | _ =>
    let (path, rest) := cs.span fun c => !isQueryMark c
    some ((⟨scheme, none, .plain (percentEncode isControl path), none, none⟩ : Url).withQuery rest)

/-- The address of a scheme. -/
def ofScheme? (base : Option Url) (scheme cs : List Char) : Option Url :=
  let base := base.filter fun base => base.scheme = scheme
  match kindOf scheme with
  | .file => file? base cs
  | .other => ofOther? scheme cs
  | .special =>
    let slashes := (cs.takeWhile isAnySlash).length
    match base with
    | some base =>
      if slashes < 2 then base.relative? cs else ofAuthority? scheme (cs.drop slashes)
    | none => ofAuthority? scheme (cs.drop slashes)

/-- The address that a text means, from the address of a page if there is one. -/
def parseFrom? (base : Option Url) (text : String) : Option Url :=
  let cs := cleaned text.toList
  match scheme? cs with
  | some (scheme, rest) => ofScheme? base scheme rest
  | none =>
    match base, cs with
    | none, _ => none
    | some base, '#' :: _ => some (base.withFragment cs)
    | some base, _ =>
      if base.path.isPlain then none
      else if base.kind = .file then file? base cs
      else base.relative? cs

/-- The address that a text means by itself. -/
def parse? (text : String) : Option Url := parseFrom? none text

/-- The address that a text means on a page. -/
def join? (base : Url) (text : String) : Option Url := parseFrom? base text

end PageBlocks.Url
