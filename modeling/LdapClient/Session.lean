/-
# LdapClient.Session -- what a client asks of an open session

A session is one open transport to a server.  It takes one call at a time and answers it with a
value, whose type depends on the call, or with a signal that says why there is none.
-/
import LdapClient.Duration
import LdapClient.Entry
import LdapClient.Request

namespace LdapClient

/-- How a transport is to be opened. -/
structure TransportOptions where
  /-- How long to wait for the transport. -/
  networkTimeout : Option Duration
  /-- How long to wait for each answer. -/
  timeLimit : Option Duration
  /-- TLS is negotiated before the bind. -/
  startTls : Bool
  /-- The certificate of the server is checked. -/
  tlsVerify : Bool
  /-- A file with a further certificate to trust. -/
  tlsCaCert : Option String
deriving DecidableEq

/-- What a GSSAPI bind needs. -/
structure GssapiCredentials where
  realm : String
  keytab : Option String
  server : String
deriving DecidableEq

/-- A call to a session. -/
inductive SessionCall where
  | simpleBind (dn password : String)
  | gssapiBind (credentials : GssapiCredentials)
  | search (request : SearchRequest)
  | modify (dn : String) (change : Change)
  | modifyDn (request : RenameRequest)
  | delete (dn : String)
  | unbind
deriving DecidableEq

namespace SessionCall

/-- What a call that succeeds brings. -/
def Value : SessionCall → Type
  | search _ => List RawEntry
  | simpleBind _ _ => Unit
  | gssapiBind _ => Unit
  | modify _ _ => Unit
  | modifyDn _ => Unit
  | delete _ => Unit
  | unbind => Unit

/-- The call asks the server to accept an identity. -/
def isBind : SessionCall → Bool
  | simpleBind _ _ => true
  | gssapiBind _ => true
  | _ => false

/-- The call ends the session. -/
def isUnbind : SessionCall → Bool
  | unbind => true
  | _ => false

end SessionCall

/-- The answer to a call. -/
abbrev SessionCall.Answer (call : SessionCall) : Type :=
  Except Signal call.Value

end LdapClient
