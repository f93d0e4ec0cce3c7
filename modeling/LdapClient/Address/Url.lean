/-
# LdapClient.Address.Url -- scheme, host and port of a URL

The reader follows the URL standard as far as it decides about scheme, host, port and refusal.
Controls and blanks at both ends are dropped, tabs and line ends are dropped everywhere, and the
scheme ends at the first colon.  Then:

* a special scheme (`http`, `https`, `ws`, `wss`, `ftp`) is followed by an authority after any
  number of slashes, in either direction;
* `file` has a host only after two slashes;
* every other scheme has an authority only after `//`.

An authority is a user part up to its last `@`, a host, and a port after a colon.
-/
import LdapClient.Address.Host
import LdapClient.Text.Fold

namespace LdapClient

open Text

/-- Scheme, host and port of a URL.  The scheme is in small letters, the host is empty if the URL
names none. -/
structure Url where
  scheme : String
  host : String
  port : Option Nat

namespace Url

/-! ## The characters that count -/

/-- Drops controls and spaces at both ends and tabs and line ends everywhere. -/
def significant (text : List Char) : List Char :=
  let isEdge := fun c : Char => Nat.ble c.toNat 0x20
  let inner := ((text.dropWhile isEdge).reverse.dropWhile isEdge).reverse
  inner.filter fun c => !(c = '\t' || c = '\n' || c = '\r')

/-! ## Schemes -/

/-- How a scheme is treated. -/
inductive Treatment where
  | special
  | file
  | other
deriving DecidableEq

/-- The treatment of a scheme. -/
def treatment (scheme : String) : Treatment :=
  if ["http", "https", "ws", "wss", "ftp"].contains scheme then .special
  else if scheme == "file" then .file
  else .other

/-- An ASCII letter. -/
def isLetter (c : Char) : Bool :=
  let n := c.toLower.toNat
  Nat.ble 97 n && Nat.ble n 122

/-- A character of a scheme after its first letter. -/
def isSchemeChar (c : Char) : Bool :=
  isLetter c || Decimal.isDigit c || c = '+' || c = '-' || c = '.'

/-- The scheme in small letters and the text after its colon. -/
def cutScheme (text : List Char) : Option (String × List Char) :=
  match cutOnce ':' text with
  | none => none
  | some (front, rest) =>
    match front with
    | [] => none
    | c :: _ =>
      if isLetter c && front.all isSchemeChar then some (String.ofList (fold front), rest) else none

/-! ## Authorities -/

/-- The characters that end an authority. -/
def endsAuthority (how : Treatment) (c : Char) : Bool :=
  c = '/' || c = '?' || c = '#' || (c = '\\' && how ≠ .other)

/-- The characters that end a port. -/
def endsPort (c : Char) : Bool :=
  c = '/' || c = '\\' || c = '?' || c = '#'

/-- The text before and after the last `mark`. -/
def cutLast (mark : Char) (text : List Char) : Option (List Char × List Char) :=
  (cutOnce mark text.reverse).map fun parts => (parts.2.reverse, parts.1.reverse)

/-- The host and what follows it: a colon ends it, unless it stands between brackets. -/
def cutHost (inBrackets : Bool) : List Char → List Char × List Char
  | [] => ([], [])
  | c :: rest =>
    if c = ':' && !inBrackets then ([], c :: rest)
    else
      let more := cutHost (if c = '[' then true else if c = ']' then false else inBrackets) rest
      (c :: more.1, more.2)

/-- Reads a port: digits up to 65535, or nothing. -/
def readPort (text : List Char) : Except Fault (Option Nat) :=
  let digits := text.takeWhile Decimal.isDigit
  match text.dropWhile Decimal.isDigit with
  | c :: _ => if endsPort c then number digits else .error .port
  | [] => number digits
where
  number (digits : List Char) : Except Fault (Option Nat) :=
    match Decimal.unsigned? digits with
    | none => .ok none
    | some n => if Nat.ble n 65535 then .ok (some n) else .error .port

/-- Reads host and port. -/
def readHostPort (how : Treatment) (text : List Char) : Except Fault (String × Option Nat) :=
  let parts := cutHost false text
  if how = .special && parts.1.isEmpty then .error .emptyHost
  else
    match if how = .other then Host.parseOpaque parts.1 else Host.parseSpecial parts.1 with
    | .error fault => .error fault
    | .ok host =>
      match parts.2 with
      | [] => .ok (host, none)
      | _ :: port => if host.isEmpty then .error .emptyHost else (readPort port).map (host, ·)

/-- Reads an authority, up to the character that ends it.  A user part asks for a host. -/
def readAuthority (how : Treatment) (text : List Char) : Except Fault (String × Option Nat) :=
  let region := text.takeWhile fun c => !endsAuthority how c
  let isCut := (text.dropWhile fun c => !endsAuthority how c).isEmpty = false
  match cutLast '@' region with
  | none => readHostPort how region
  | some (user, rest) =>
    if user.isEmpty && rest.isEmpty && isCut then .error .emptyHost
    else
      match readHostPort how rest with
      | .error fault => .error fault
      | .ok parts =>
        if parts.1.isEmpty && !user.isEmpty && user ≠ [':'] then .error .emptyHost else .ok parts

/-- Reads the host of a `file` URL. -/
def readFileHost (text : List Char) : Except Fault String :=
  let host := text.takeWhile fun c => !endsPort c
  match host with
  | [] => .ok ""
  | [c, d] => if isLetter c && (d = ':' || d = '|') then .ok "" else Host.parseSpecial host
  | _ => Host.parseSpecial host

/-! ## The whole -/

/-- A slash in either direction. -/
def isSlash (c : Char) : Bool :=
  c = '/' || c = '\\'

/-- Reads host and port after the scheme. -/
def readRest (how : Treatment) (text : List Char) : Except Fault (String × Option Nat) :=
  match how with
  | .special => readAuthority how (text.dropWhile isSlash)
  | .file =>
    match text with
    | a :: b :: rest =>
      if isSlash a && isSlash b then (readFileHost rest).map (·, none) else .ok ("", none)
    | _ => .ok ("", none)
  | .other =>
    match text with
    | '/' :: '/' :: rest => readAuthority how rest
    | _ => .ok ("", none)

/-- Reads a URL. -/
def parse (text : List Char) : Except Fault Url :=
  match cutScheme (significant text) with
  | none => .error .noScheme
  | some (scheme, rest) =>
    match readRest (treatment scheme) rest with
    | .error fault => .error fault
    | .ok (host, port) => .ok ⟨scheme, host, port⟩

end Url

end LdapClient
