import GridClient.Url.Address
import GridClient.Url.Domain.Basic
import GridClient.Url.Percent

/-!
The host of a URL. A scheme of the web names a domain or an address in any form; with any other
scheme a host is opaque, and kept as it stands. An address of eight pieces stands in brackets with
both.
-/

namespace GridClient.Url

/-- Why a text is no URL. -/
inductive Fault where
  | relative
  | emptyHost
  | invalidPort
  | invalidIpv4
  | invalidIpv6
  | invalidDomainCharacter
  | invalidDomain
  deriving DecidableEq, Repr

def Fault.message : Fault → String
  | relative => "relative URL without a base"
  | emptyHost => "empty host"
  | invalidPort => "invalid port number"
  | invalidIpv4 => "invalid IPv4 address"
  | invalidIpv6 => "invalid IPv6 address"
  | invalidDomainCharacter => "invalid domain character"
  | invalidDomain => "invalid international domain name"

/-- The characters that would be taken for something else than a part of a host. -/
def isReservedInHost (c : Char) : Bool :=
  c ∈ ['\x00', '\t', '\n', '\r', ' ', '#', '/', ':', '<', '>', '?', '@', '[', '\\', ']', '^', '|']

/-- The characters of ASCII that no domain holds. -/
def isRefusedInDomain (c : Char) : Bool :=
  isReservedInHost c || c < ' ' || c = '\x7f' || c = '%'

namespace Host

/-- Reads an address behind its opening bracket. -/
def bracketed (cs : List Char) : Except Fault (List Char) :=
  if cs.getLast? = some ']' then
    match Ipv6.read? cs.dropLast with
    | some pieces => .ok ('[' :: Ipv6.text pieces ++ [']'])
    | none => .error .invalidIpv6
  else .error .invalidIpv6

/-- Reads an opaque host. -/
def verbatim : List Char → Except Fault (List Char)
  | '[' :: cs => bracketed cs
  | cs =>
    if cs.any isReservedInHost then .error .invalidDomainCharacter
    else .ok (percentEncode isControl cs)

/-- Reads a domain in any script, and gives it in ASCII. -/
def asciiDomain (cs : List Char) : Except Fault (List Char) :=
  match Domain.labels? cs with
  | none => .error .invalidDomain
  | some labels =>
    if labels.any (·.any isRefusedInDomain) then .error .invalidDomain
    else .ok (Domain.write labels)

/-- Reads a domain or an address. -/
def domain : List Char → Except Fault (List Char)
  | '[' :: cs => bracketed cs
  | cs => do
    let name ← asciiDomain (percentDecode cs)
    if name.isEmpty then throw .emptyHost
    else if Ipv4.isMeant name then
      match Ipv4.read? name with
      | some address => pure (Ipv4.text address)
      | none => throw .invalidIpv4
    else pure name

end Host

end GridClient.Url
