/-
# LdapClient.DialOptions -- how connections are dialed

Options are given when a connection is dialed and stay with it: the limits and the checks for its
transport, where its lines go, who opens its transport and who finds servers.
-/
import LdapClient.Dialogue
import LdapClient.Params

namespace LdapClient

open Text

/-- Options of a connection. -/
structure DialOptions where
  /-- How long to wait for the transport. -/
  networkTimeout : Option Duration := some (.ofSeconds 60)
  /-- How long to wait for each answer. -/
  timeLimit : Option Duration := none
  tlsVerify : Bool := true
  tlsCaCert : Option String := none
  logger : Logger := .tracing
  connector : Connector := .standard
  /-- The caller supplies who looks up service records. -/
  customResolver : Bool := false
deriving DecidableEq

namespace DialOptions

/-- The options for opening a transport. -/
def transport (options : DialOptions) (startTls : Bool) : TransportOptions :=
  ⟨options.networkTimeout, options.timeLimit, startTls, options.tlsVerify, options.tlsCaCert⟩

/-- The options as login parameters change them.  A certificate file in the options stays unless
the parameters name another one. -/
def withParams (options : DialOptions) (params : Params) : DialOptions :=
  { options with
    networkTimeout := Params.limit params.networkTimeout
    timeLimit := Params.limit params.timeLimit
    tlsVerify := params.tlsVerify
    tlsCaCert := params.tlsCaCert.or options.tlsCaCert }

/-- The description of a limit that need not be there. -/
def describeLimit : Option Duration → String
  | none => "None"
  | some limit => "Some(" ++ limit.describe ++ ")"

/-- The options field by field, as far as they have something to show. -/
def describe (options : DialOptions) : String :=
  "DialOptions \x7b network_timeout: " ++ describeLimit options.networkTimeout ++
    ", time_limit: " ++ describeLimit options.timeLimit ++
    ", tls_verify: " ++ Params.describeBool options.tlsVerify ++
    ", tls_ca_cert: " ++ Params.describePath options.tlsCaCert ++
    ", custom_resolver: " ++ Params.describeBool options.customResolver ++ ", .. \x7d"

end DialOptions

end LdapClient
