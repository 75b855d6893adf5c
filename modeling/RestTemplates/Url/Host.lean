import RestTemplates.Percent
import RestTemplates.Url.Domain
import RestTemplates.Url.Ipv6

/-!
# Host — the host part of a URL

A host is a name, an address of four bytes, or an address of eight groups in square brackets.
-/

namespace RestTemplates

/-- Why a text is no URL. -/
inductive UrlError
  | emptyHost
  | invalidName
  | invalidPort
  | invalidIpv4
  | invalidIpv6
  deriving DecidableEq, Repr

def UrlError.message : UrlError → String
  | .emptyHost => "empty host"
  | .invalidName => "invalid international domain name"
  | .invalidPort => "invalid port number"
  | .invalidIpv4 => "invalid IPv4 address"
  | .invalidIpv6 => "invalid IPv6 address"

inductive Host
  | name (ascii : String)
  | ipv4 (address : Nat)
  | ipv6 (groups : List Nat)
  deriving DecidableEq, Repr

namespace Host

def text : Host → String
  | .name ascii => ascii
  | .ipv4 address => Ipv4.text address
  | .ipv6 groups => "[" ++ Ipv6.text groups ++ "]"

/-- The address between square brackets. -/
def parseBracketed (inner : List Char) : Except UrlError Host :=
  if inner.getLast? = some ']' then
    match Ipv6.parse? inner.dropLast with
    | some groups => .ok (.ipv6 groups)
    | none => .error .invalidIpv6
  else .error .invalidIpv6

/-- A host name, or the address that it spells. -/
def parseName (cs : List Char) : Except UrlError Host :=
  match Domain.toAscii? (Percent.decode (Utf8.encode (String.ofList cs))) with
  | none => .error .invalidName
  | some [] => .error .emptyHost
  | some ascii =>
    if Ipv4.endsInNumber ascii then
      match Ipv4.parse? ascii with
      | some address => .ok (.ipv4 address)
      | none => .error .invalidIpv4
    else .ok (.name (String.ofList ascii))

def parse (cs : List Char) : Except UrlError Host :=
  match cs with
  | [] => .error .emptyHost
  | '[' :: inner => parseBracketed inner
  | _ => parseName cs

end Host

end RestTemplates
