/-
# LdapClient.Connection -- the life of a connection

A connection is dialed, bound at most once, used, and closed.  Dialing opens nothing: the transport
is opened by the bind, because it depends on how the caller binds.  A connection whose bind failed
can only be closed.

The state has four parts: the phase, the session that is held, whether StartTLS was asked for, and
how the connection was bound.  The calls of this module and of `Connection.Bind` write them one by
one; that they agree at all times, so that a bound connection holds a session and no other does, is
a theorem about all that can happen to a connection.
-/
import LdapClient.DialOptions
import LdapClient.Refusal

namespace LdapClient

open Text

/-! ## Phases -/

/-- Where a connection is in its life. -/
inductive Phase where
  | unbound
  | bound
  /-- The bind failed. -/
  | failed
  | closed
deriving DecidableEq

/-- The name of a phase. -/
def Phase.name : Phase → String
  | unbound => "Unbound"
  | bound => "Bound"
  | failed => "Failed"
  | closed => "Closed"

/-- How a client proves who it is. -/
inductive LoginMethod where
  | simple
  | gssapi
deriving DecidableEq

/-- The word for a login method. -/
def LoginMethod.display : LoginMethod → String
  | simple => "SIMPLE"
  | gssapi => "GSSAPI"

/-- How a transport is protected. -/
inductive TransportMethod where
  | plain
  | startTls
  | ldaps
deriving DecidableEq

/-- The word for a transport method. -/
def TransportMethod.display : TransportMethod → String
  | plain => "plain"
  | startTls => "StartTLS"
  | ldaps => "LDAPS"

/-- The protection that a scheme and StartTLS give. -/
def TransportMethod.of (scheme : Scheme) (startTls : Bool) : TransportMethod :=
  if scheme = .ldaps then ldaps else if startTls then .startTls else plain

/-- How a connection was bound. -/
structure Binding where
  login : LoginMethod
  transport : TransportMethod
  /-- The address of the server. -/
  uri : String
deriving DecidableEq

/-- The state of a connection. -/
structure Connection.State where
  phase : Phase
  /-- The session that is held. -/
  session : Option SessionId
  /-- StartTLS is asked for. -/
  startTls : Bool
  /-- How the connection was bound. -/
  binding : Option Binding
deriving DecidableEq

/-- The state after dialing. -/
def Connection.State.dialed : State :=
  ⟨.unbound, none, false, none⟩

/-- The state after closing. -/
def Connection.State.closed : State :=
  ⟨.closed, none, false, none⟩

/-! ## Connections -/

/-- A connection to a server. -/
structure Connection where
  address : Address
  options : DialOptions
  /-- Where searches may start; only a login sets it. -/
  searchBase : String
  state : Connection.State
deriving DecidableEq

namespace Connection

/-- Where the connection is in its life. -/
def phase (c : Connection) : Phase :=
  c.state.phase

/-- How the connection was bound. -/
def binding? (c : Connection) : Option Binding :=
  c.state.binding

/-- The connection in another phase. -/
def enter (c : Connection) (phase : Phase) : Connection :=
  { c with state := { c.state with phase := phase } }

/-- The connection with StartTLS asked for or not. -/
def setStartTls (c : Connection) (startTls : Bool) : Connection :=
  { c with state := { c.state with startTls := startTls } }

/-- Writes a line to the connection's logger. -/
def log (c : Connection) (level : Level) (text : String) : Dialogue Unit :=
  .say c.options.logger level text

/-- What the connection shows of itself. -/
def describe (c : Connection) : String :=
  "Connection \x7b url: " ++ quoted c.address.text ++ ", state: " ++ c.phase.name ++
    ", search_base: " ++ quoted c.searchBase ++ ", .. \x7d"

/-! ## Dialing and closing -/

/-- Dials an address. -/
def dial (address : String) (options : DialOptions) : Dialogue (Except Failure Connection) :=
  match Address.parse address with
  | .error failure => do
    .say options.logger .error ("dial " ++ address ++ ": " ++ failure.display)
    return .error failure
  | .ok address => do
    .say options.logger .debug ("dialed " ++ address.text)
    return .ok ⟨address, options, "", .dialed⟩

/-- Ends the session.  A server that fails to say goodbye is reported, as an error only if the
failure did not come from the server. -/
def release (c : Connection) (session : SessionId) : Dialogue Unit := do
  match ← .call session .unbind with
  | .ok () => return ()
  | .error failure =>
    c.log (if failure.isSerious then .error else .debug)
      ("unbind " ++ c.address.text ++ ": " ++ failure.display)

/-- Closes the connection.  A closed one stays as it is. -/
def close (c : Connection) : Dialogue Connection := do
  if c.phase = .closed then return c
  else
    match c.state.session with
    | some session => c.release session
    | none => pure ()
    c.log .debug ("closed " ++ c.address.text)
    return { c with state := .closed }

/-! ## Before the bind -/

/-- Refuses a connection that is not waiting for its bind. -/
def ensureUnbound (c : Connection) : Except Failure Unit :=
  match c.phase with
  | .unbound => .ok ()
  | .bound => Refusal.alreadyBound.refuse
  | .failed => Refusal.bindFailed.refuse
  | .closed => Refusal.closed.refuse

/-- Asks for StartTLS before the bind. -/
def startTls (c : Connection) : Except Failure Connection :=
  match c.ensureUnbound with
  | .error failure => .error failure
  | .ok () =>
    if c.address.scheme = .ldaps then Refusal.startTlsOverLdaps.refuse
    else .ok (c.setStartTls true)

end Connection

end LdapClient
