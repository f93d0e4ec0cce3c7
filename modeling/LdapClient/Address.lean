/-
# LdapClient.Address -- addresses of directory servers

An address is a URL of one of four schemes.  It keeps the text it was read from, without the blanks
at its ends, because that is the text that later calls and log lines show.
-/
import LdapClient.Address.Url
import LdapClient.Failure
import LdapClient.Text.Blank

namespace LdapClient

open Text

/-- The schemes of directory addresses. -/
inductive Scheme where
  /-- Plain transport. -/
  | ldap
  /-- Implicit TLS. -/
  | ldaps
  /-- A local socket. -/
  | ldapi
  /-- Connectionless transport. -/
  | cldap
deriving DecidableEq

namespace Scheme

/-- The scheme as it stands in a URL. -/
def name : Scheme → String
  | .ldap => "ldap"
  | .ldaps => "ldaps"
  | .ldapi => "ldapi"
  | .cldap => "cldap"

/-- The scheme with this name, in small letters. -/
def ofName? (name : String) : Option Scheme :=
  [ldap, ldaps, ldapi, cldap].find? fun scheme => scheme.name == name

end Scheme

/-- The address of a server. -/
structure Address where
  text : String
  scheme : Scheme
  host : String
  port : Option Nat
deriving DecidableEq

namespace Address

/-- Reads an address. -/
def parse (text : String) : Except Failure Address :=
  match Url.parse (trim text.toList) with
  | .error fault => .error (.network ("invalid directory URL: " ++ fault.message))
  | .ok url =>
    match Scheme.ofName? url.scheme with
    | some scheme => .ok ⟨trimmed text, scheme, url.host, url.port⟩
    | none => .error (.network ("unsupported URL scheme `" ++ url.scheme ++ "` in " ++ text))

end Address

end LdapClient
