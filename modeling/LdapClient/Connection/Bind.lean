/-
# LdapClient.Connection.Bind -- binding a connection

A bind opens the transport and proves who the client is, in this order.  It takes an unbound
connection to a bound one if both succeed and to a failed one otherwise; a rejected bind is followed
by an unbind, whose own failure changes nothing.  A connection that is not unbound is refused, and
nothing is asked.
-/
import LdapClient.Connection

namespace LdapClient.Connection

/-- The connection once it is bound. -/
def hold (c : Connection) (session : SessionId) (binding : Binding) : Connection :=
  { c with
    state := { c.state with phase := .bound, session := some session, binding := some binding } }

/-- Says goodbye after a rejected bind. -/
def abandon (c : Connection) (session : SessionId) : Dialogue Unit := do
  match ← .call session .unbind with
  | .ok () => return ()
  | .error failure =>
    c.log .debug ("unbind " ++ c.address.text ++ " after rejected bind: " ++ failure.display)

/-- Makes the bind call to a session that was just opened. -/
def bindSession (c : Connection) (method : LoginMethod) (startTls : Bool) (made : SessionCall)
    (session : SessionId) : Dialogue (Except Failure Unit × Connection) := do
  match ← .call session made with
  | .error failure =>
    c.log .error (method.display ++ " bind to " ++ c.address.text ++ ": " ++ failure.display)
    c.abandon session
    return (.error failure, c.enter .failed)
  | .ok _ =>
    let transport := TransportMethod.of c.address.scheme startTls
    c.log .debug (method.display ++ " bind to " ++ c.address.text ++ " over " ++ transport.display)
    return (.ok (), c.hold session ⟨method, transport, c.address.text⟩)

/-- Opens the transport and makes the bind call. -/
def bindBy (c : Connection) (method : LoginMethod) (startTls : Bool) (made : SessionCall) :
    Dialogue (Except Failure Unit × Connection) := do
  match c.ensureUnbound with
  | .error failure => return (.error failure, c)
  | .ok () =>
    match ← .connect c.options.connector c.address (c.options.transport startTls) with
    | .error failure =>
      c.log .error ("connect to " ++ c.address.text ++ ": " ++ failure.display)
      return (.error failure, c.enter .failed)
    | .ok session => c.bindSession method startTls made session

/-- Binds with a name and a password, which must not be empty.  StartTLS comes first if it was
asked for. -/
def simpleBind (c : Connection) (dn password : String) :
    Dialogue (Except Failure Unit × Connection) :=
  if password.isEmpty then return (Refusal.emptyPassword.refuse, c)
  else c.bindBy .simple c.state.startTls (.simpleBind dn password)

/-- Binds by GSSAPI, which never comes with StartTLS.  The server is known by the host of the
address. -/
def gssapiBind (c : Connection) (realm : String) (keytab : Option String) :
    Dialogue (Except Failure Unit × Connection) :=
  (c.setStartTls false).bindBy .gssapi false (.gssapiBind ⟨realm, keytab, c.address.host⟩)

end LdapClient.Connection
