/-
# LdapClient.Connection.Command -- all that can be done with a connection

The calls that a caller may make on a connection, as data, and `perform`, which makes one.  A
`History` is a list of such calls, made one after the other on one connection; `live` makes them and
closes the connection at the end, whether the caller did or not.
-/
import LdapClient.Connection.Bind
import LdapClient.Connection.Operation

namespace LdapClient.Connection

/-! ## Commands -/

/-- A directory operation. -/
inductive Operation where
  | search (request : SearchRequest)
  | searchDns (base : String) (scope : Scope) (filter : String)
  | modify (request : ModifyRequest)
  | modifyDn (request : RenameRequest)
  | delete (dn : String)
  | rename (dn newRdn : String)
  | move (dn container : String)
  | attributes (object : String) (names : List String)
  | attributeValues (object name : String)
  | setAttribute (object name : String) (values : List String)
  | clearAttribute (object name : String)
  | exists? (dn : String)
  | existsWithClass (dn objectClass : String)
deriving DecidableEq

/-- A call on a connection. -/
inductive Command where
  | startTls
  | simpleBind (dn password : String)
  | gssapiBind (realm : String) (keytab : Option String)
  | close
  | operation (operation : Operation)
deriving DecidableEq

/-- What a successful call brings. -/
inductive Answer where
  | nothing
  | found (result : SearchResult)
  | texts (values : List String)
  | attributes (values : NameMap (List String))
  | truth (value : Bool)
deriving DecidableEq

/-! ## Performing -/

/-- Makes an answer of the value of an operation. -/
def answerBy {α : Type} (make : α → Answer) (result : Dialogue (Except Failure α)) :
    Dialogue (Except Failure Answer) := do
  return (← result).map make

/-- Runs a directory operation. -/
def operate (c : Connection) : Operation → Dialogue (Except Failure Answer)
  | .search request => answerBy .found (c.search request)
  | .searchDns base scope filter => answerBy .texts (c.searchDns base scope filter)
  | .modify request => answerBy (fun _ => .nothing) (c.modify request)
  | .modifyDn request => answerBy (fun _ => .nothing) (c.modifyDn request)
  | .delete dn => answerBy (fun _ => .nothing) (c.delete dn)
  | .rename dn newRdn => answerBy (fun _ => .nothing) (c.rename dn newRdn)
  | .move dn container => answerBy (fun _ => .nothing) (c.move dn container)
  | .attributes object names => answerBy .attributes (c.attributes object names)
  | .attributeValues object name => answerBy .texts (c.attributeValues object name)
  | .setAttribute object name values =>
    answerBy (fun _ => .nothing) (c.setAttribute object name values)
  | .clearAttribute object name => answerBy (fun _ => .nothing) (c.clearAttribute object name)
  | .exists? dn => answerBy .truth (c.exists? dn)
  | .existsWithClass dn objectClass => answerBy .truth (c.existsWithClass dn objectClass)

/-- Makes a call on a connection. -/
def perform (c : Connection) : Command → Dialogue (Except Failure Answer × Connection)
  | .startTls =>
    match c.startTls with
    | .error failure => return (.error failure, c)
    | .ok c => return (.ok .nothing, c)
  | .simpleBind dn password => do
    let (result, c) ← c.simpleBind dn password
    return (result.map fun _ => .nothing, c)
  | .gssapiBind realm keytab => do
    let (result, c) ← c.gssapiBind realm keytab
    return (result.map fun _ => .nothing, c)
  | .close => do
    let c ← c.close
    return (.ok .nothing, c)
  | .operation operation => do
    let result ← c.operate operation
    return (result, c)

/-! ## Histories -/

/-- Calls made one after the other. -/
abbrev History := List Command

/-- Makes the calls of a history. -/
def performAll (c : Connection) :
    History → Dialogue (List (Except Failure Answer) × Connection)
  | [] => return ([], c)
  | command :: history => do
    let (result, c) ← c.perform command
    let (results, c) ← c.performAll history
    return (result :: results, c)

/-- Makes the calls of a history and closes the connection. -/
def live (c : Connection) (history : History) :
    Dialogue (List (Except Failure Answer) × Connection) := do
  let (results, c) ← c.performAll history
  let c ← c.close
  return (results, c)

end LdapClient.Connection
