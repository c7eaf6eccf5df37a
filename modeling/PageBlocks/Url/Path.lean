import PageBlocks.Url.Basic
import PageBlocks.Url.Percent

/-!
Reading paths. A path is walked segment by segment; segments that consist of dots move along it
instead of being part of it. What looks like the letter of a drive is not left by such a move, and in
addresses of files the path of a drive is kept apart from what follows it. The path walked so far is
kept in reverse, so that its last segment is at the front.
-/
namespace PageBlocks.Url

def isDot (segment : List Char) : Bool :=
  ["." , "%2e"].contains (Text.lower (String.ofList segment))

def isDoubleDot (segment : List Char) : Bool :=
  ["..", ".%2e", "%2e.", "%2e%2e"].contains (Text.lower (String.ofList segment))

/-- A letter followed by a colon or a bar. -/
def isDriveLetter : List Char → Bool
  | [a, b] => a.isAlpha && (b == ':' || b == '|')
  | _ => false

/-- A letter followed by a colon. -/
def isDrive : List Char → Bool
  | [a, b] => a.isAlpha && b == ':'
  | _ => false

/-- Whether a text begins with a drive letter as a segment of its own. -/
def startsWithDrive : List Char → Bool
  | [a, b] => isDriveLetter [a, b]
  | a :: b :: c :: _ => isDriveLetter [a, b] && ['/', '\\', '?', '#'].contains c
  | _ => false

def isSlash (kind : SchemeKind) (c : Char) : Bool := c == '/' || (kind != .other && c == '\\')

/-- The first segment of a path. -/
def firstSegment (path : List Char) : List Char := path.tail.takeWhile (· != '/')

/-- The last segment of a path that is kept in reverse. -/
def lastSegment (done : List Char) : List Char := (done.takeWhile (· != '/')).reverse

/-- Leave the last segment out, unless it is the drive of a file. -/
def dropSegment (kind : SchemeKind) (done : List Char) : List Char :=
  if kind = .file && isDrive (lastSegment done) then done else done.dropWhile (· != '/')

/-- Leave the last directory, unless it looks like a drive. -/
def goUp (kind : SchemeKind) : List Char → List Char
  | '/' :: rest =>
    if rest.isEmpty || isDriveLetter (lastSegment rest) then '/' :: rest else dropSegment kind rest
  | done => dropSegment kind done

/-- The path as a directory. -/
def asDirectory (done : List Char) : List Char :=
  if done.head? == some '/' then done else '/' :: done

/-- Whether a path is a drive and nothing else. -/
def isLoneDrive : List Char → Bool
  | [b, a, '/'] => isDrive [a, b]
  | _ => false

/-- A segment as it is kept: a drive letter at the beginning of the path of a file gets a colon. -/
def keptSegment (kind : SchemeKind) (done segment : List Char) : List Char :=
  match kind, done, segment with
  | .file, ['/'], [a, _] => if isDriveLetter segment then [a, ':'] else segment
  | _, _, _ => segment

/-- Go along a path by one segment; unless it is the last one, a slash follows it. -/
def addSegment (kind : SchemeKind) (done segment : List Char) (isLast : Bool) : List Char :=
  let segment := percentEncode isPathEscaped segment
  let done :=
    if kind = .file && !segment.isEmpty && isLoneDrive done then asDirectory done else done
  if isDoubleDot segment then
    let done := goUp kind done
    if isLast then done else asDirectory done
  else if isDot segment then asDirectory done
  else
    let done := (keptSegment kind done segment).reverse ++ done
    if isLast then done else '/' :: done

def addSegments (kind : SchemeKind) (done : List Char) : List (List Char) → List Char
  | [] => done
  | [segment] => addSegment kind done segment true
  | segment :: rest => addSegments kind (addSegment kind done segment false) rest

/-- The path to which a text leads from a path. -/
def walk (kind : SchemeKind) (start text : List Char) : List Char :=
  (addSegments kind start.reverse (text.splitOnP (isSlash kind))).reverse

/-- The path of a file, which does not begin with several slashes. -/
def withoutEmpty (path : List Char) : List Char := '/' :: path.dropWhile (· == '/')

/-- The path to which a text leads from a path, as it is written. -/
def pathFrom (kind : SchemeKind) (start text : List Char) : List Char :=
  let path := walk kind start text
  if kind = .file then withoutEmpty path else path

/-- The path without its last segment, from which a relative one starts. -/
def directory (kind : SchemeKind) (path : List Char) : List Char :=
  (dropSegment kind path.reverse).reverse

end PageBlocks.Url
