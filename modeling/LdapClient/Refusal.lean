/-
# LdapClient.Refusal -- what a client refuses by itself

The reasons for which a client refuses a call without asking a server, or after it has learnt what
it needs to know.  Each reason has one failure, with one code and one wording.
-/
import LdapClient.Failure

namespace LdapClient

/-- A reason to refuse a call. -/
inductive Refusal where
  /-- The connection is closed. -/
  | closed
  /-- The call needs a bound connection. -/
  | notBound
  /-- A bound connection has lost its session. -/
  | noSession
  /-- A connection is bound at most once. -/
  | alreadyBound
  /-- A connection whose bind failed is of no more use. -/
  | bindFailed
  /-- There is no StartTLS under implicit TLS. -/
  | startTlsOverLdaps
  /-- A simple bind without a password would succeed as an anonymous one. -/
  | emptyPassword
  /-- No secured login without GSSAPI. -/
  | securedWithoutGssapi
  /-- There is no server to log in to. -/
  | noServers
  /-- Nothing to add to an attribute. -/
  | emptyAdd (target dn : String)
  /-- Nothing to set an attribute to. -/
  | noValues (target dn : String)
  /-- A new relative name that is not one. -/
  | malformedRdn (text : String)
  /-- The new parent of an entry does not exist. -/
  | noDestination (container : String)
deriving DecidableEq

/-- The failure of a refused call. -/
def Refusal.toFailure : Refusal → Failure
  | closed => .network "connection is closed"
  | notBound => ⟨.operationsError, "connection is not bound"⟩
  | noSession => ⟨.operationsError, "connection has no session"⟩
  | alreadyBound => .param "connection is already bound"
  | bindFailed => .param "a previous bind failed; dial a new connection"
  | startTlsOverLdaps => .param "StartTLS cannot be combined with an ldaps URL"
  | emptyPassword => .emptyPassword
  | securedWithoutGssapi =>
    ⟨.authMethodNotSupported,
      "secured login requires GSSAPI; enable use_gssapi or clear secured"⟩
  | noServers => .param "no server URIs configured"
  | emptyAdd target dn =>
    .param ("add of `" ++ target ++ "` on " ++ dn ++ " needs at least one value")
  | noValues target dn => .param ("no values given for `" ++ target ++ "` on " ++ dn)
  | malformedRdn text => .param ("new RDN `" ++ text ++ "` is not of the form attr=value")
  | noDestination container => .param ("destination " ++ container ++ " does not exist")

/-- A refused call. -/
def Refusal.refuse {α : Type} (refusal : Refusal) : Except Failure α :=
  .error refusal.toFailure

end LdapClient
