/-!
UTF-8. A character takes one to four octets. A sequence that breaks off or cannot be right is broken:
it ends before the octet that does not fit, which is then looked at afresh.
-/
namespace PageBlocks.Charset.Utf8

/-- A character that is not complete yet. -/
structure Pending where
  /-- The bits so far. -/
  value : Nat
  /-- How many octets are missing. -/
  missing : Nat
  /-- The least and the largest octet that can follow. -/
  least : UInt8
  largest : UInt8
  deriving DecidableEq

/-- What the first octet of a character tells. -/
inductive Lead where
  | whole (c : Char)
  | pending (p : Pending)
  | broken

def lead (b : UInt8) : Lead :=
  let n := b.toNat
  if n < 0x80 then .whole (Char.ofNat n)
  else if n < 0xC2 then .broken
  else if n < 0xE0 then .pending ⟨n - 0xC0, 1, 0x80, 0xBF⟩
  else if n < 0xF0 then
    .pending ⟨n - 0xE0, 2, if n = 0xE0 then 0xA0 else 0x80, if n = 0xED then 0x9F else 0xBF⟩
  else if n < 0xF5 then
    .pending ⟨n - 0xF0, 3, if n = 0xF0 then 0x90 else 0x80, if n = 0xF4 then 0x8F else 0xBF⟩
  else .broken

/-- The state of a scan: what has been read, in reverse, with `none` for broken sequences, and the
character that is under way. -/
structure Scan where
  read : List (Option Char)
  pending : Option Pending

namespace Scan

def start : Scan := ⟨[], none⟩

/-- Take in an octet that begins a character. -/
def begin (read : List (Option Char)) (b : UInt8) : Scan :=
  match lead b with
  | .whole c => ⟨some c :: read, none⟩
  | .pending p => ⟨read, some p⟩
  | .broken => ⟨none :: read, none⟩

def step (s : Scan) (b : UInt8) : Scan :=
  match s.pending with
  | none => begin s.read b
  | some p =>
    if p.least ≤ b ∧ b ≤ p.largest then
      let value := 64 * p.value + (b.toNat - 0x80)
      if p.missing = 1 then ⟨some (Char.ofNat value) :: s.read, none⟩
      else ⟨s.read, some ⟨value, p.missing - 1, 0x80, 0xBF⟩⟩
    else begin (none :: s.read) b

def finish (s : Scan) : List (Option Char) :=
  match s.pending with
  | none => s.read.reverse
  | some _ => (none :: s.read).reverse

end Scan

/-- The characters of a text, with `none` for each broken sequence. -/
def scan (bytes : List UInt8) : List (Option Char) := (bytes.foldl Scan.step .start).finish

/-- The text of octets without broken sequences. -/
def decode? (bytes : List UInt8) : Option (List Char) := (scan bytes).mapM id

/-- The text of octets; a replacement character stands for each broken sequence. -/
def decode (bytes : List UInt8) : List Char := (scan bytes).map fun c => c.getD '\ufffd'

end PageBlocks.Charset.Utf8
