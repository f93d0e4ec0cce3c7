/-
# LdapClient.Params -- parameters of a login

Parameters say which servers to try, how to authenticate there and how to protect the transport.
They are good for a login when three rules hold: neither timeout is below -1, which stands for no
timeout at all, and implicit TLS and StartTLS are not both asked for.  The rule about TLS is looked
at only when both timeouts are in range.

The password is a `Secret`: its description is the same for every password.
-/
import LdapClient.Duration
import LdapClient.Failure
import LdapClient.Text.Quoted

namespace LdapClient

open Text

/-! ## Secrets -/

/-- A text that descriptions do not show. -/
structure Secret where
  reveal : String
deriving DecidableEq

/-- The description of every secret. -/
def Secret.describe (_ : Secret) : String :=
  "SecretBox<str>([REDACTED])"

/-! ## Parameters -/

/-- Parameters of a login. -/
structure Params where
  /-- The domain, also the Kerberos realm. -/
  domain : String := ""
  /-- The site whose servers come first when servers are discovered. -/
  site : String := ""
  /-- The servers to try in order, with or without a scheme. -/
  uris : List String := []
  bindDn : String := ""
  bindPassword : Secret := ⟨""⟩
  searchBase : String := ""
  /-- Only a bind that keeps the password from the server will do. -/
  secured : Bool := true
  useGssapi : Bool := false
  useLdaps : Bool := false
  useStartTls : Bool := false
  /-- Seconds, -1 for no limit. -/
  networkTimeout : Int := -1
  /-- Seconds, -1 for no limit. -/
  timeLimit : Int := -1
  keytab : Option String := none
  tlsVerify : Bool := true
  tlsCaCert : Option String := none
deriving DecidableEq

namespace Params

/-- The parameters with the credentials of a simple bind. -/
def withSimpleBind (params : Params) (dn password : String) : Params :=
  { params with bindDn := dn, bindPassword := ⟨password⟩ }

/-- The parameters with a GSSAPI bind, which is a secured one. -/
def withGssapi (params : Params) (keytab : Option String) : Params :=
  { params with useGssapi := true, secured := true, keytab := keytab }

/-- A login with these parameters binds by GSSAPI. -/
def wantsGssapi (params : Params) : Bool :=
  params.secured && params.useGssapi

/-- A limit in seconds; a negative number is none. -/
def limit : Int → Option Duration
  | .ofNat seconds => some (.ofSeconds seconds)
  | .negSucc _ => none

/-! ## Rules -/

/-- What parameters have to satisfy. -/
inductive Rule where
  | networkTimeout
  | timeLimit
  | oneKindOfTls
deriving DecidableEq

/-- The parameters satisfy a rule. -/
def satisfies (params : Params) : Rule → Bool
  | .networkTimeout => decide (-1 ≤ params.networkTimeout)
  | .timeLimit => decide (-1 ≤ params.timeLimit)
  | .oneKindOfTls => !(params.useLdaps && params.useStartTls)

/-- The line about a timeout out of range. -/
def rangeLine (name : String) (seconds : Int) : String :=
  name ++ ": Validation error: range [\x7b\"min\": Number(-1), \"value\": Number(" ++
    Decimal.ofInt seconds ++ ")\x7d]"

/-- The line about a broken rule. -/
def ruleLine (params : Params) : Rule → String
  | .networkTimeout => rangeLine "network_timeout_secs" params.networkTimeout
  | .timeLimit => rangeLine "time_limit_secs" params.timeLimit
  | .oneKindOfTls => "__all__: use_ldaps and use_start_tls are mutually exclusive"

/-- The rules about one field each that are broken. -/
def brokenLimits (params : Params) : List Rule :=
  [.networkTimeout, .timeLimit].filter fun rule => !params.satisfies rule

/-- The broken rules that are reported. -/
def reported (params : Params) : List Rule :=
  match params.brokenLimits with
  | [] => [.oneKindOfTls].filter fun rule => !params.satisfies rule
  | broken => broken

/-- Refuses parameters that break a rule. -/
def ensureValid (params : Params) : Except Failure Unit :=
  match params.reported with
  | [] => .ok ()
  | broken => .error (.param (join "\n" (broken.map params.ruleLine)))

/-! ## Description -/

/-- The description of a truth value. -/
def describeBool (b : Bool) : String :=
  if b then "true" else "false"

/-- The description of a path that need not be there. -/
def describePath : Option String → String
  | none => "None"
  | some path => "Some(" ++ quoted path ++ ")"

/-- The parameters field by field, without the password. -/
def describe (params : Params) : String :=
  "ConnectionParams \x7b domain: " ++ quoted params.domain ++
    ", site: " ++ quoted params.site ++
    ", uris: [" ++ join ", " (params.uris.map quoted) ++ "]" ++
    ", bind_dn: " ++ quoted params.bindDn ++
    ", bind_password: " ++ params.bindPassword.describe ++
    ", search_base: " ++ quoted params.searchBase ++
    ", secured: " ++ describeBool params.secured ++
    ", use_gssapi: " ++ describeBool params.useGssapi ++
    ", use_ldaps: " ++ describeBool params.useLdaps ++
    ", use_start_tls: " ++ describeBool params.useStartTls ++
    ", network_timeout_secs: " ++ Decimal.ofInt params.networkTimeout ++
    ", time_limit_secs: " ++ Decimal.ofInt params.timeLimit ++
    ", keytab: " ++ describePath params.keytab ++
    ", tls_verify: " ++ describeBool params.tlsVerify ++
    ", tls_ca_cert: " ++ describePath params.tlsCaCert ++ " \x7d"

end Params

end LdapClient
