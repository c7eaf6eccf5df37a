import PageBlocks.Charset.Utf8
import PageBlocks.Url.Address
import PageBlocks.Url.Domain
import PageBlocks.Url.Percent

/-!
Hosts. In addresses of well-known schemes a host is a domain name or a number; in other addresses it
is taken as it stands. A version 6 address stands in brackets everywhere.
-/
namespace PageBlocks.Url.Host

/-- The written form of a version 6 address in brackets. -/
def bracketed? (cs : List Char) : Option (List Char) :=
  if cs.getLast? == some ']' then
    (address6? cs.dropLast).map fun pieces => '[' :: writtenAddress6 pieces ++ [']']
  else none

/-- The written form of a host in an address of a well-known scheme. -/
def ofSpecial? (cs : List Char) : Option (List Char) :=
  match cs with
  | '[' :: rest => bracketed? rest
  | _ => do
    let name ← Charset.Utf8.decode? (percentDecode cs)
    let domain ← Domain.toAscii? name
    if domain.isEmpty then none
    else if endsInNumber domain then (address4? domain).map writtenAddress4
    else some domain

/-- Characters that no host may contain. -/
def isForbidden (c : Char) : Bool :=
  ['\x00', '\t', '\n', '\r', ' ', '#', '/', ':', '<', '>', '?', '@', '[', '\\', ']', '^',
    '|'].contains c

/-- The written form of a host in any other address. -/
def ofOpaque? (cs : List Char) : Option (List Char) :=
  match cs with
  | '[' :: rest => bracketed? rest
  | _ => if cs.any isForbidden then none else some (percentEncode isControl cs)

end PageBlocks.Url.Host
