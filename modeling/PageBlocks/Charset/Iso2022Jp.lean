import PageBlocks.Charset.Decoder
import PageBlocks.Charset.Jis0208

/-!
ISO 2022-JP. All octets are those of ASCII. What they stand for hangs on a set of characters, and an escape
sequence of three octets switches to another set. An escape sequence right behind another one is broken, and
so are the two octets that shift to other sets elsewhere.
-/
namespace PageBlocks.Charset.Iso2022Jp

/-- The sets of characters of a text. -/
inductive CharSet where
  | ascii
  /-- ASCII with a yen sign and an overline. -/
  | roman
  | katakana
  /-- Two octets a character. -/
  | kanji
  deriving DecidableEq

/-- What has been begun and is not complete yet. -/
inductive Begun where
  | nothing
  | kanji (lead : UInt8)
  | escape
  /-- An escape sequence with its second octet. -/
  | sequence (second : UInt8)
  deriving DecidableEq

/-- The state between two octets. -/
structure State where
  charSet : CharSet
  begun : Begun
  /-- The last thing read is an escape sequence. -/
  justSwitched : Bool
  deriving DecidableEq

/-- The state after some octets, and the characters that these complete. -/
abbrev Result := State × List Char

def escape : UInt8 := 0x1B

/-- The octets that shift to other sets elsewhere. -/
def isShift (b : UInt8) : Bool := b == 0x0E || b == 0x0F

/-- The character of an octet in a set, if it has one there by itself. -/
def charOf? : CharSet → UInt8 → Option Char
  | .ascii, b => if b < 0x80 && !isShift b then some (Char.ofNat b.toNat) else none
  | .roman, b =>
    if b == 0x5C then some '¥'
    else if b == 0x7E then some '‾'
    else if b < 0x80 && !isShift b then some (Char.ofNat b.toNat)
    else none
  | .katakana, b => if 0x21 ≤ b && b ≤ 0x5F then some (Char.ofNat (0xFF40 + b.toNat)) else none
  | .kanji, _ => none

/-- The octets of which kanji are made. -/
def isKanjiOctet (b : UInt8) : Bool := 0x21 ≤ b && b ≤ 0x7E

/-- The set to which the last two octets of an escape sequence switch. -/
def charSetOf? (second third : UInt8) : Option CharSet :=
  if second == 0x28 && third == 0x42 then some .ascii
  else if second == 0x28 && third == 0x4A then some .roman
  else if second == 0x28 && third == 0x49 then some .katakana
  else if second == 0x24 && (third == 0x40 || third == 0x42) then some .kanji
  else none

namespace State

def start : State := ⟨.ascii, .nothing, false⟩

/-- Read an octet with which something begins. -/
def begin (s : State) (b : UInt8) : Result :=
  if b == escape then ({ s with begun := .escape }, [])
  else if s.charSet == .kanji && isKanjiOctet b then (⟨.kanji, .kanji b, false⟩, [])
  else (⟨s.charSet, .nothing, false⟩, [(charOf? s.charSet b).getD '\ufffd'])

/-- Read the second octet of a kanji. -/
def complete (s : State) (lead b : UInt8) : Result :=
  if b == escape then ({ s with begun := .escape }, ['\ufffd'])
  else
    let c := if isKanjiOctet b then Jis0208.charAt (lead.toNat - 0x21) (b.toNat - 0x21) else '\ufffd'
    ({ s with begun := .nothing }, [c])

/-- Read an octet outside of escape sequences. -/
def read (s : State) (b : UInt8) : Result :=
  match s.begun with
  | .kanji lead => s.complete lead b
  | _ => s.begin b

/-- What has been begun is no escape sequence: what follows the escape is read afresh. -/
def giveUp (s : State) : State := ⟨s.charSet, .nothing, false⟩

def step (s : State) (b : UInt8) : Result :=
  match s.begun with
  | .escape =>
    if b == 0x24 || b == 0x28 then ({ s with begun := .sequence b }, [])
    else
      let (s, cs) := s.giveUp.begin b
      (s, '\ufffd' :: cs)
  | .sequence second =>
    match charSetOf? second b with
    | some charSet => (⟨charSet, .nothing, true⟩, if s.justSwitched then ['\ufffd'] else [])
    | none =>
      let (s, cs) := s.giveUp.begin second
      let (s, ds) := s.read b
      (s, '\ufffd' :: cs ++ ds)
  | _ => s.read b

/-- The characters for what is not complete at the end. -/
def finish (s : State) : List Char :=
  match s.begun with
  | .nothing => []
  | .kanji _ | .escape => ['\ufffd']
  | .sequence second =>
    let (s, cs) := s.giveUp.begin second
    '\ufffd' :: cs ++ if s.begun == .nothing then [] else ['\ufffd']

end State

def decoder : Decoder State := ⟨.start, State.step, State.finish⟩

end PageBlocks.Charset.Iso2022Jp
