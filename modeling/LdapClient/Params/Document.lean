/-
# LdapClient.Params.Document -- login parameters read from a document

A document is an object, whose members set the fields they name, or a list, whose items set the
fields in order; a field that is not set keeps its default.  Some fields have two names.  Members
with other names are passed over; a field that is named twice, by whichever of its names, is
refused.

A document is first read to a list of settings, no two for the same field, so that neither the
order of the members nor the choice of names plays a part in what is made of them.
-/
import LdapClient.Json.Reader
import LdapClient.Params

namespace LdapClient.Params

open Json

/-! ## Fields -/

/-- The fields, in the order of a list document. -/
inductive Field where
  | domain
  | site
  | uris
  | bindDn
  | bindPassword
  | searchBase
  | secured
  | useGssapi
  | useLdaps
  | useStartTls
  | networkTimeout
  | timeLimit
  | keytab
  | tlsVerify
  | tlsCaCert
deriving DecidableEq

namespace Field

/-- All fields, in the order of a list document. -/
def all : List Field :=
  [domain, site, uris, bindDn, bindPassword, searchBase, secured, useGssapi, useLdaps, useStartTls,
    networkTimeout, timeLimit, keytab, tlsVerify, tlsCaCert]

/-- The main name of a field. -/
def name : Field → String
  | domain => "domain"
  | site => "site"
  | uris => "uris"
  | bindDn => "bind_dn"
  | bindPassword => "bind_password"
  | searchBase => "search_base"
  | secured => "secured"
  | useGssapi => "use_gssapi"
  | useLdaps => "use_ldaps"
  | useStartTls => "use_start_tls"
  | networkTimeout => "network_timeout_secs"
  | timeLimit => "time_limit_secs"
  | keytab => "keytab"
  | tlsVerify => "tls_verify"
  | tlsCaCert => "tls_ca_cert"

/-- The other name of a field, if it has one. -/
def otherName : Field → Option String
  | uris => some "uries"
  | bindDn => some "binddn"
  | bindPassword => some "bindpw"
  | useStartTls => some "use_tls"
  | networkTimeout => some "nettimeout"
  | timeLimit => some "timelimit"
  | _ => none

/-- The field with this name. -/
def named? (name : String) : Option Field :=
  all.find? fun field => field.name == name || field.otherName == some name

end Field

/-! ## Settings -/

/-- A value for one field. -/
inductive Setting where
  | domain (value : String)
  | site (value : String)
  | uris (value : List String)
  | bindDn (value : String)
  | bindPassword (value : Secret)
  | searchBase (value : String)
  | secured (value : Bool)
  | useGssapi (value : Bool)
  | useLdaps (value : Bool)
  | useStartTls (value : Bool)
  | networkTimeout (value : Int)
  | timeLimit (value : Int)
  | keytab (value : Option String)
  | tlsVerify (value : Bool)
  | tlsCaCert (value : Option String)
deriving DecidableEq

namespace Setting

/-- The field that is set. -/
def field : Setting → Field
  | domain _ => .domain
  | site _ => .site
  | uris _ => .uris
  | bindDn _ => .bindDn
  | bindPassword _ => .bindPassword
  | searchBase _ => .searchBase
  | secured _ => .secured
  | useGssapi _ => .useGssapi
  | useLdaps _ => .useLdaps
  | useStartTls _ => .useStartTls
  | networkTimeout _ => .networkTimeout
  | timeLimit _ => .timeLimit
  | keytab _ => .keytab
  | tlsVerify _ => .tlsVerify
  | tlsCaCert _ => .tlsCaCert

/-- The parameters with one field set. -/
def apply (params : Params) : Setting → Params
  | domain value => { params with domain := value }
  | site value => { params with site := value }
  | uris value => { params with uris := value }
  | bindDn value => { params with bindDn := value }
  | bindPassword value => { params with bindPassword := value }
  | searchBase value => { params with searchBase := value }
  | secured value => { params with secured := value }
  | useGssapi value => { params with useGssapi := value }
  | useLdaps value => { params with useLdaps := value }
  | useStartTls value => { params with useStartTls := value }
  | networkTimeout value => { params with networkTimeout := value }
  | timeLimit value => { params with timeLimit := value }
  | keytab value => { params with keytab := value }
  | tlsVerify value => { params with tlsVerify := value }
  | tlsCaCert value => { params with tlsCaCert := value }

end Setting

/-- The parameters that settings make of the defaults. -/
def ofSettings (settings : List Setting) : Params :=
  settings.foldl Setting.apply {}

/-! ## Reading settings -/

/-- Turns what was read into a setting. -/
def settingOf {α : Type} (make : α → Setting) (read : Read α) : Read Setting :=
  read.map fun result => (make result.1, result.2)

/-- Reads a value for a field. -/
def readSetting (field : Field) (tokens : List Token) : Read Setting :=
  match field with
  | .domain => settingOf .domain (readText .text tokens)
  | .site => settingOf .site (readText .text tokens)
  | .uris => settingOf .uris (readTexts tokens)
  | .bindDn => settingOf .bindDn (readText .text tokens)
  | .bindPassword => settingOf (fun value => .bindPassword ⟨value⟩) (readText .text tokens)
  | .searchBase => settingOf .searchBase (readText .text tokens)
  | .secured => settingOf .secured (readBool tokens)
  | .useGssapi => settingOf .useGssapi (readBool tokens)
  | .useLdaps => settingOf .useLdaps (readBool tokens)
  | .useStartTls => settingOf .useStartTls (readBool tokens)
  | .networkTimeout => settingOf .networkTimeout (readInt64 tokens)
  | .timeLimit => settingOf .timeLimit (readInt64 tokens)
  | .keytab => settingOf .keytab (readPath? tokens)
  | .tlsVerify => settingOf .tlsVerify (readBool tokens)
  | .tlsCaCert => settingOf .tlsCaCert (readPath? tokens)

/-! ## Lists -/

/-- Reads the items for the fields that are left, a comma before each. -/
def readMoreItems : List Field → List Token → Read (List Setting)
  | [], .closeList :: rest => .ok ([], rest)
  | [], .comma :: .closeList :: _ => .error .trailingComma
  | [], [] => .error .endOfList
  | [], _ :: _ => .error .trailingCharacters
  | _ :: _, [] => .error .endOfList
  | _ :: _, .closeList :: rest => .ok ([], rest)
  | _ :: _, .comma :: .closeList :: _ => .error .trailingComma
  | field :: fields, .comma :: rest =>
    match readSetting field rest with
    | .error fault => .error fault
    | .ok (setting, rest) =>
      (readMoreItems fields rest).map fun read => (setting :: read.1, read.2)
  | _ :: _, _ :: _ => .error .wantsListEnd

/-- Reads the items after the opening bracket. -/
def readItems : List Field → List Token → Read (List Setting)
  | [], tokens => readMoreItems [] tokens
  | _ :: _, [] => .error .endOfList
  | _ :: _, .closeList :: rest => .ok ([], rest)
  | field :: fields, tokens =>
    match readSetting field tokens with
    | .error fault => .error fault
    | .ok (setting, rest) =>
      (readMoreItems fields rest).map fun read => (setting :: read.1, read.2)

/-! ## Objects -/

/-- Reads the name of a member and the colon behind it.  A field among `seen` is refused before the
colon is looked at. -/
def readName (seen : List Field) : List Token → Read (Option Field)
  | .text pieces fault :: rest =>
    match decodeString pieces fault with
    | .error fault => .error fault
    | .ok name =>
      let field := Field.named? name
      match field.filter seen.contains with
      | some field => .error (.duplicate field.name)
      | none =>
        match rest with
        | [] => .error .endOfObject
        | .colon :: rest => .ok (field, rest)
        | _ :: _ => .error .wantsColon
  | [] => .error .endOfValue
  | _ :: _ => .error .key

/-- Reads a member; one that sets no field is passed over. -/
def readMember (seen : List Field) (tokens : List Token) : Read (Option Setting) :=
  match readName seen tokens with
  | .error fault => .error fault
  | .ok (none, rest) => (skip rest).map (none, ·)
  | .ok (some field, rest) => (readSetting field rest).map fun read => (some read.1, read.2)

/-- Reads what follows a member: `true` if that is another member. -/
def readSeparator : List Token → Read Bool
  | [] => .error .endOfObject
  | .closeObject :: rest => .ok (false, rest)
  | .comma :: .closeObject :: _ => .error .trailingComma
  | .comma :: rest => .ok (true, rest)
  | _ :: _ => .error .wantsObjectEnd

/-- Reads the members that are left, at most `fuel` of them; every member takes a token, so the
number of tokens is enough. -/
def readMembers : Nat → List Field → List Token → Read (List Setting)
  | 0, _, _ => .error .endOfObject
  | fuel + 1, seen, tokens =>
    match readMember seen tokens with
    | .error fault => .error fault
    | .ok (member, rest) =>
      match readSeparator rest with
      | .error fault => .error fault
      | .ok (false, rest) => .ok (member.toList, rest)
      | .ok (true, rest) =>
        (readMembers fuel (member.toList.map Setting.field ++ seen) rest).map fun read =>
          (member.toList ++ read.1, read.2)

/-- Reads the members after the opening brace. -/
def readObject : List Token → Read (List Setting)
  | [] => .error .endOfObject
  | .closeObject :: rest => .ok ([], rest)
  | tokens => readMembers tokens.length [] tokens

/-! ## Documents -/

/-- Reads the settings of a document. -/
def readSettings : List Token → Read (List Setting)
  | [] => .error .endOfValue
  | .openList :: rest => readItems Field.all rest
  | .openObject :: rest => readObject rest
  | token :: _ => .error (mismatch .params token)

/-- A document that cannot be read as a failure. -/
def refuse (fault : Fault) : Failure :=
  .param ("invalid connection parameters: " ++ fault.message)

/-- Reads parameters, as far as the document goes, without checking the rules. -/
def parse (text : String) : Except Fault Params :=
  (readWhole readSettings text).map ofSettings

/-- Reads parameters that satisfy the rules. -/
def ofJson (text : String) : Except Failure Params :=
  match parse text with
  | .error fault => .error (refuse fault)
  | .ok params =>
    match params.ensureValid with
    | .error failure => .error failure
    | .ok () => .ok params

end LdapClient.Params
