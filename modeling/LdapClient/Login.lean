/-
# LdapClient.Login -- logging in to one of several servers

A login tries the servers of its parameters in order, or the discovered ones if there are none, and
stops at the first that accepts it.  They are discovered with the caller's resolver, or else with
that of the system, if it can be had.  An attempt that fails is closed before the next one begins,
and the failure of the last attempt is the failure of the login.

Parameters that break a rule, or that ask for a secured login without GSSAPI, are refused before
anything is asked: a password is never sent where the caller wanted it protected.
-/
import LdapClient.Connection.Bind
import LdapClient.Discovery
import LdapClient.Dn.Basic

namespace LdapClient.Login

open Text

/-! ## Addresses -/

/-- Holds the marks that stand between a scheme and a host. -/
def hasScheme : List Char → Bool
  | [] => false
  | c :: rest => ['/', '/'].isPrefixOf rest && c = ':' || hasScheme rest

/-- The address of a server that may lack a scheme. -/
def addressOf (useLdaps : Bool) (uri : String) : String :=
  if hasScheme (trim uri.toList) then trimmed uri
  else (if useLdaps then "ldaps://" else "ldap://") ++ trimmed uri

/-! ## One attempt -/

/-- Binds a dialed connection as the parameters say. -/
def authenticate (params : Params) (c : Connection) :
    Dialogue (Except Failure Unit × Connection) :=
  if params.wantsGssapi then c.gssapiBind params.domain params.keytab
  else c.simpleBind params.bindDn params.bindPassword.reveal

/-- Asks for StartTLS if the parameters do. -/
def protect (params : Params) (c : Connection) : Except Failure Connection :=
  if params.useStartTls then c.startTls else .ok c

/-- Closes a connection that could not be bound. -/
def giveUp (c : Connection) (failure : Failure) : Dialogue (Except Failure Connection) := do
  let _ ← c.close
  return .error failure

/-- Dials a server and binds. -/
def attempt (params : Params) (options : DialOptions) (address : String) :
    Dialogue (Except Failure Connection) := do
  match ← Connection.dial address options with
  | .error failure => return .error failure
  | .ok c =>
    match protect params c with
    | .error failure => giveUp c failure
    | .ok c =>
      match ← authenticate params c with
      | (.ok (), c) => return .ok c
      | (.error failure, c) => giveUp c failure

/-! ## All attempts -/

/-- Tries the servers in order; `last` is the failure so far. -/
def tryAll (params : Params) (options : DialOptions) (last : Failure) :
    List String → Dialogue (Except Failure Connection)
  | [] => return .error last
  | uri :: uris => do
    match ← attempt params options (addressOf params.useLdaps uri) with
    | .ok c => return .ok c
    | .error failure =>
      .say options.logger .error
        ("login to " ++ addressOf params.useLdaps uri ++ ": " ++ failure.display)
      tryAll params options failure uris

/-- Sees to it that service records can be looked up: the caller's resolver is at hand, that of the
system has to be asked for. -/
def prepareResolver (options : DialOptions) : Dialogue (Except Failure Unit) :=
  if options.customResolver then return .ok () else .systemResolver

/-- Discovers the servers of the domain. -/
def discover (params : Params) (options : DialOptions) :
    Dialogue (Except Failure (List String)) := do
  match ← prepareResolver options with
  | .error failure => return .error failure
  | .ok () => Discovery.servers params.domain params.site

/-- The servers to try. -/
def servers (params : Params) (options : DialOptions) :
    Dialogue (Except Failure (List String)) := do
  if params.uris.isEmpty && !params.domain.isEmpty then
    match ← discover params options with
    | .error failure => return .error failure
    | .ok hosts =>
      .say options.logger .debug
        ("discovered " ++ Decimal.ofNat hosts.length ++ " servers for " ++ params.domain ++ ": " ++
          join " " hosts)
      return .ok hosts
  else return .ok params.uris

/-- Where searches of the new connection may start: at the configured base, or at the root of the
domain. -/
def searchBase (params : Params) : String :=
  if params.searchBase.isEmpty then Dn.ofDomain params.domain else params.searchBase

/-- Refuses parameters that no server is asked about. -/
def ensureAllowed (params : Params) : Except Failure Unit :=
  match params.ensureValid with
  | .error failure => .error failure
  | .ok () =>
    if params.secured && !params.useGssapi then Refusal.securedWithoutGssapi.refuse else .ok ()

/-- Logs in. -/
def login (params : Params) (options : DialOptions) : Dialogue (Except Failure Connection) := do
  match ensureAllowed params with
  | .error failure => return .error failure
  | .ok () =>
    let options := options.withParams params
    match ← servers params options with
    | .error failure => return .error failure
    | .ok uris =>
      match ← tryAll params options Refusal.noServers.toFailure uris with
      | .error failure => return .error failure
      | .ok c => return .ok { c with searchBase := searchBase params }

end LdapClient.Login
