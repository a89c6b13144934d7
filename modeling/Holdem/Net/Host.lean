import Holdem.Net.HostName
import Holdem.Net.Ipv4
import Holdem.Net.Ipv6
import Holdem.Text.Percent

/-!
# Hosts

A host is a name or an address. An address of groups stands in brackets; a name whose last part is a
number is an address of bytes. How names are read depends on the scheme: those of the web go over
the wire in ASCII, others are kept as they are given.
-/

namespace Holdem

/-- Why a text is no web address. -/
inductive UrlFault where
  | relative
  | emptyHost
  | invalidName
  | invalidCharacter
  | invalidIpv4
  | invalidIpv6
  | invalidNumber
  deriving DecidableEq

def UrlFault.message : UrlFault → String
  | .relative => "relative URL without a base"
  | .emptyHost => "empty host"
  | .invalidName => "invalid international domain name"
  | .invalidCharacter => "invalid domain character"
  | .invalidIpv4 => "invalid IPv4 address"
  | .invalidIpv6 => "invalid IPv6 address"
  | .invalidNumber => "invalid port number"

inductive Host where
  | name (text : String)
  | ipv4 (address : Ipv4)
  | ipv6 (address : Ipv6)
  deriving DecidableEq

namespace Host

def text : Host → String
  | .name text => text
  | .ipv4 address => address.text
  | .ipv6 address => "[" ++ address.text ++ "]"

/-- Reads an address in brackets, if the text starts with one. -/
def readBrackets (letters : List Char) (otherwise : Except UrlFault Host) : Except UrlFault Host :=
  match letters with
  | '[' :: rest =>
    if rest.getLast? = some ']' then
      match Ipv6.read? rest.dropLast with
      | some address => .ok (.ipv6 address)
      | none => .error .invalidIpv6
    else .error .invalidIpv6
  | _ => otherwise

def read (letters : List Char) : Except UrlFault Host :=
  readBrackets letters <|
    match Text.percentDecode? letters >>= fun decoded => HostName.sent? decoded.toList with
    | none => .error .invalidName
    | some sent =>
      if sent.isEmpty then .error .emptyHost
      else if Ipv4.endsInNumber sent.toList then
        match Ipv4.read? sent.toList with
        | some address => .ok (.ipv4 address)
        | none => .error .invalidIpv4
      else .ok (.name sent)

/-- The characters that no host of another scheme contains. -/
def forbidden : List Char :=
  ['\x00', '\t', '\n', '\r', ' ', '#', '/', ':', '<', '>', '?', '@', '[', '\\', ']', '^', '|']

/-- Reads a host of another scheme, which is kept as it is given. -/
def readKept (letters : List Char) : Except UrlFault Host :=
  readBrackets letters <|
    if letters.any forbidden.contains then .error .invalidCharacter
    else .ok (.name (Text.percentEncode [] letters))

end Host

end Holdem
