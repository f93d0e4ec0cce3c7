/-
# LdapClient.Connection.Operation -- directory operations

Operations work on a bound connection and leave it as it is.  Each of them first looks at its own
arguments, then at the phase of the connection, and only then makes its calls, the first failing
one being the last.  An operation that got as far as the phase writes one line when it ends: a debug
line if it succeeded and an error line if not.

A search first enumerates the names that match and then reads each of these entries by itself, in
the order of the enumeration.
-/
import LdapClient.Connection
import LdapClient.Dn.Basic

namespace LdapClient.Connection

open Text

variable {α : Type}

/-! ## The held session -/

/-- The session of a bound connection. -/
def heldSession (c : Connection) : Except Failure SessionId :=
  match c.phase with
  | .closed => Refusal.closed.refuse
  | .bound =>
    match c.state.session with
    | some session => .ok session
    | none => Refusal.noSession.refuse
  | .unbound => Refusal.notBound.refuse
  | .failed => Refusal.notBound.refuse

/-- Writes the line at the end of an operation. -/
def logEnd (c : Connection) (name : String) : Except Failure α → Dialogue Unit
  | .ok _ => c.log .debug (name ++ " on " ++ c.address.text ++ ": ok")
  | .error failure => c.log .error (name ++ " on " ++ c.address.text ++ ": " ++ failure.display)

/-- Uses the session of a bound connection. -/
def useSession (c : Connection) (use : SessionId → Dialogue (Except Failure α)) :
    Dialogue (Except Failure α) :=
  match c.heldSession with
  | .ok session => use session
  | .error failure => .done (.error failure)

/-- Uses the session of a bound connection for the operation of this name. -/
def withSession (c : Connection) (name : String)
    (use : SessionId → Dialogue (Except Failure α)) : Dialogue (Except Failure α) := do
  let result ← c.useSession use
  c.logEnd name result
  return result

/-! ## Searches -/

/-- The attribute list that asks for none. -/
def noAttributes : List String :=
  ["1.1"]

/-- The attributes to ask for: all of them if the caller named none. -/
def requestedOrAll (attributes : List String) : List String :=
  if attributes.isEmpty then ["*"] else attributes

/-- The search that reads one entry. -/
def readRequest (dn : String) (attributes : List String) : SearchRequest :=
  ⟨dn, .baseObject, "(objectclass=*)", requestedOrAll attributes⟩

/-- The names of the entries that a search finds. -/
def enumerate (session : SessionId) (base : String) (scope : Scope) (filter : String) :
    Dialogue (Except Failure (List String)) := do
  match ← .call session (.search ⟨base, scope, filter, noAttributes⟩) with
  | .error failure => return .error failure
  | .ok found => return .ok (List.map RawEntry.dn found)

/-- The entry of this name with what the first answered entry holds. -/
def entryOf (dn : String) : List RawEntry → Entry
  | [] => .bare dn
  | raw :: _ => .ofRaw { raw with dn := dn }

/-- Reads the entries of these names in order. -/
def readEntries (session : SessionId) (attributes : List String) :
    List String → Dialogue (Except Failure (List Entry))
  | [] => return .ok []
  | dn :: dns => do
    match ← .call session (.search (readRequest dn attributes)) with
    | .error failure => return .error failure
    | .ok found =>
      match ← readEntries session attributes dns with
      | .error failure => return .error failure
      | .ok entries => return .ok (entryOf dn found :: entries)

/-- Finds entries and reads them. -/
def search (c : Connection) (request : SearchRequest) :
    Dialogue (Except Failure SearchResult) :=
  c.withSession "search" fun session => do
    match ← enumerate session request.base request.scope request.filter with
    | .error failure => return .error failure
    | .ok dns =>
      match ← readEntries session request.attributes dns with
      | .error failure => return .error failure
      | .ok entries => return .ok ⟨entries⟩

/-- The names of the entries that match. -/
def searchDns (c : Connection) (base : String) (scope : Scope) (filter : String) :
    Dialogue (Except Failure (List String)) :=
  c.withSession "search_dns" fun session => enumerate session base scope filter

/-! ## Changes -/

/-- A change that would add nothing. -/
def isEmptyAdd (change : Change) : Bool :=
  change.kind = .add && change.values.isEmpty

/-- Makes the changes in order. -/
def applyChanges (session : SessionId) (dn : String) :
    List Change → Dialogue (Except Failure Unit)
  | [] => return .ok ()
  | change :: changes => do
    match ← .call session (.modify dn change) with
    | .error failure => return .error failure
    | .ok () => applyChanges session dn changes

/-- Changes an entry.  An addition of nothing, anywhere in the list, is refused; no changes at all
are done at once. -/
def modify (c : Connection) (request : ModifyRequest) : Dialogue (Except Failure Unit) :=
  match request.changes.find? isEmptyAdd with
  | some change => return (Refusal.emptyAdd change.target request.dn).refuse
  | none =>
    if request.changes.isEmpty then return .ok ()
    else c.withSession "modify" fun session => applyChanges session request.dn request.changes

/-- Gives an entry another relative name or another parent. -/
def modifyDn (c : Connection) (request : RenameRequest) : Dialogue (Except Failure Unit) :=
  c.withSession "modify_dn" fun session => .call session (.modifyDn request)

/-- Deletes an entry. -/
def delete (c : Connection) (dn : String) : Dialogue (Except Failure Unit) :=
  c.withSession "delete" fun session => .call session (.delete dn)

/-- Has the form `type=value`, neither of the two blank. -/
def isRdn (text : String) : Bool :=
  match cutOnce '=' text.toList with
  | none => false
  | some (type, value) => !(trim type).isEmpty && !(trim value).isEmpty

/-- Gives an entry another relative name and drops the old one. -/
def rename (c : Connection) (dn newRdn : String) : Dialogue (Except Failure Unit) :=
  if isRdn newRdn then c.modifyDn (.inPlace dn newRdn true)
  else return (Refusal.malformedRdn newRdn).refuse

/-! ## Existence -/

/-- The filter for an object class. -/
def classFilter (objectClass : String) : String :=
  "(objectclass=" ++ objectClass ++ ")"

/-- The search for an entry of an object class. -/
def probeRequest (dn objectClass : String) : SearchRequest :=
  ⟨dn, .baseObject, classFilter objectClass, noAttributes⟩

/-- Looks for an entry of an object class.  That there is no such object is an answer too. -/
def probe (session : SessionId) (dn objectClass : String) : Dialogue (Except Failure Bool) := do
  match ← .call session (.search (probeRequest dn objectClass)) with
  | .ok found => return .ok !(List.isEmpty found)
  | .error failure =>
    if failure.code = .noSuchObject then return .ok false else return .error failure

/-- There is an entry of this name and object class. -/
def existsWithClass (c : Connection) (dn objectClass : String) : Dialogue (Except Failure Bool) :=
  c.withSession "dn_exists" fun session => probe session dn objectClass

/-- There is an entry of this name. -/
def exists? (c : Connection) (dn : String) : Dialogue (Except Failure Bool) :=
  c.existsWithClass dn "*"

/-- Puts an entry of this relative name under another parent, which must exist. -/
def relocate (session : SessionId) (dn newRdn container : String) :
    Dialogue (Except Failure Unit) := do
  match ← probe session container "*" with
  | .error failure => return .error failure
  | .ok false => return (Refusal.noDestination container).refuse
  | .ok true => .call session (.modifyDn ⟨dn, newRdn, true, container⟩)

/-- Moves an entry under another parent, which must exist, and keeps its relative name. -/
def move (c : Connection) (dn container : String) : Dialogue (Except Failure Unit) :=
  match Dn.parse dn with
  | .error fault => return .error fault.toFailure
  | .ok name =>
    c.withSession "move_object" fun session => relocate session dn name.firstRdn container

/-! ## Single attributes -/

/-- The text attributes of an object, all of them or those of these names. -/
def attributes (c : Connection) (object : String) (names : List String) :
    Dialogue (Except Failure (NameMap (List String))) :=
  c.withSession "get_object_attributes" fun session => do
    match ← .call session (.search (readRequest object names)) with
    | .error failure => return .error failure
    | .ok [] => return .ok .empty
    | .ok (raw :: _) => return .ok raw.text

/-- The values of an attribute of an object, in whatever case the server writes its name. -/
def attributeValues (c : Connection) (object name : String) :
    Dialogue (Except Failure (List String)) := do
  match ← c.attributes object [name] with
  | .error failure => return .error failure
  | .ok found => return .ok ((found.findFolded? name).getD [])

/-- Puts these values in the place of all values of an attribute. -/
def setAttribute (c : Connection) (object name : String) (values : List String) :
    Dialogue (Except Failure Unit) :=
  if values.isEmpty then return (Refusal.noValues name object).refuse
  else c.withSession "set_object_attribute" fun session =>
    .call session (.modify object ⟨.replace, name, values⟩)

/-- Removes an attribute, if it is there. -/
def clearAttribute (c : Connection) (object name : String) : Dialogue (Except Failure Unit) :=
  c.withSession "clear_object_attribute" fun session => do
    match ← .call session (.modify object ⟨.delete, name, []⟩) with
    | .ok () => return .ok ()
    | .error failure =>
      if failure.code = .noSuchAttribute then return .ok () else return .error failure

end LdapClient.Connection
