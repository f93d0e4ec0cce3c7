/-
# LdapClient.Address.Host -- the host part of a URL

A host between brackets is an IPv6 address.  Elsewhere it depends on the scheme.  For a scheme that
the URL standard does not know the host is *opaque*: it keeps its case, some characters are
forbidden, and controls and all characters beyond ASCII are percent-encoded.  For the schemes that
the standard calls special the host is a domain name or an IPv4 address.
-/
import LdapClient.Address.Domain
import LdapClient.Address.Ipv4
import LdapClient.Address.Ipv6
import LdapClient.Text.Percent

namespace LdapClient.Url

open Text

/-- Why a URL is refused. -/
inductive Fault where
  | emptyHost
  | internationalName
  | port
  | ipv4
  | ipv6
  | hostCharacter
  | noScheme
deriving DecidableEq

/-- The words for a refused URL. -/
def Fault.message : Fault → String
  | .emptyHost => "empty host"
  | .internationalName => "invalid international domain name"
  | .port => "invalid port number"
  | .ipv4 => "invalid IPv4 address"
  | .ipv6 => "invalid IPv6 address"
  | .hostCharacter => "invalid domain character"
  | .noScheme => "relative URL without a base"

namespace Host

/-! ## Numeric hosts between brackets -/

/-- Reads what begins with a bracket; the closing one must be the last character. -/
def bracketed (text : List Char) : Except Fault String :=
  if text.getLast? = some ']' then
    match Ipv6.parse? (text.dropLast.drop 1) with
    | some groups => .ok ("[" ++ Ipv6.display groups ++ "]")
    | none => .error .ipv6
  else .error .ipv6

/-! ## Opaque hosts -/

/-- Characters that no host may have. -/
def isForbidden (c : Char) : Bool :=
  ['\x00', '\t', '\n', '\r', ' ', '#', '/', ':', '<', '>', '?', '@', '[', '\\', ']', '^',
    '|'].contains c

/-- A character as itself if it is a visible ASCII character or a space, else percent-encoded. -/
def encodeControl (c : Char) : List Char :=
  if Nat.ble 0x20 c.toNat && Nat.ble c.toNat 0x7E then [c]
  else (String.utf8EncodeChar c).flatMap percent

/-- Reads an opaque host. -/
def parseOpaque (text : List Char) : Except Fault String :=
  if text.head? = some '[' then bracketed text
  else if text.any isForbidden then .error .hostCharacter
  else .ok (String.ofList (text.flatMap encodeControl))

/-! ## Domains of the special schemes -/

/-- Reads the host of a special scheme. -/
def parseSpecial (text : List Char) : Except Fault String :=
  if text.head? = some '[' then bracketed text
  else
    match Domain.labels? (decode (percentDecode text)) with
    | none => .error .internationalName
    | some labels =>
      if labels = [[]] then .error .emptyHost
      else if Ipv4.isMeant labels && !Ipv4.isAddress labels then .error .ipv4
      else .ok (join "." (labels.map String.ofList))

end Host

end LdapClient.Url
