/-
# LdapClient.Wire.Message -- requests and responses

What crosses the wire for each call to a session, apart from its encoding.  `Request.ofCall` says
which request a call sends, or why it sends none; `Response.answer` says what the call makes of the
response.

A search on the wire knows three depths.  The scope below the base is asked for as a subtree, and
the base is taken out of the response.
-/
import LdapClient.Dn.Basic
import LdapClient.SearchFilter
import LdapClient.Session

namespace LdapClient.Wire

open Text

/-! ## Requests -/

/-- How deep a search goes. -/
inductive Depth where
  | base
  | oneLevel
  | subtree
deriving DecidableEq

/-- The number of a depth. -/
def Depth.number : Depth → Nat
  | base => 0
  | oneLevel => 1
  | subtree => 2

/-- The depth that covers a scope. -/
def Depth.ofScope : Scope → Depth
  | .baseObject => base
  | .singleLevel => oneLevel
  | .wholeSubtree => subtree
  | .subordinate => subtree
  | .default => subtree

/-- A request to a server. -/
inductive Request where
  | bind (dn password : String)
  | search (base : String) (depth : Depth) (filter : SearchFilter) (attributes : List String)
  | modify (dn : String) (kind : ChangeKind) (target : String) (values : List String)
  | modifyDn (dn newRdn : String) (deleteOldRdn : Bool) (newSuperior : Option String)
  | delete (dn : String)
  | unbind

/-- Distinct values in ascending order, which is how a set of values is sent. -/
def valueSet (values : List String) : List String :=
  (NameMap.ofList (values.map fun value => (value, ()))).names

/-- The request that a call sends. -/
def Request.ofCall : SessionCall → Except Signal Request
  | .simpleBind dn password => .ok (bind dn password)
  | .gssapiBind _ =>
    .error (.withCode ResultCode.authMethodNotSupported.value "GSSAPI support is not compiled in")
  | .search ⟨base, scope, filter, attributes⟩ =>
    match SearchFilter.parse? filter with
    | some filter => .ok (search base (.ofScope scope) filter attributes)
    | none => .error ⟨"filter parse error"⟩
  | .modify dn change =>
    if change.kind = .add && change.values.isEmpty then .error ⟨"empty value set for Add"⟩
    else .ok (modify dn change.kind change.target (valueSet change.values))
  | .modifyDn request =>
    .ok (modifyDn request.dn request.newRdn request.deleteOldRdn
      (if request.isMove then some request.newSuperior else none))
  | .delete dn => .ok (delete dn)
  | .unbind => .ok unbind

/-! ## Entries -/

/-- An entry on the wire: attributes in the order of the server, with octet strings as values. -/
structure WireEntry where
  dn : String
  attributes : List Attribute

/-- The texts of values that are all well formed. -/
def texts? (values : List Octets) : Option (List String) :=
  values.mapM fun value => (decode? value).map String.ofList

/-- Well-formed octets. -/
def isText (value : Octets) : Bool :=
  (decode? value).isSome

/-- Sorts an attribute into an entry.  If all its values are text it is a text attribute, in the
place of an earlier one of that name; otherwise its values go behind the binary ones of that name,
those first that are no text. -/
def addAttribute (entry : RawEntry) (a : Attribute) : RawEntry :=
  match texts? a.octets with
  | some texts => { entry with text := entry.text.put a.name texts }
  | none =>
    let values := a.octets.filter (fun value => !isText value) ++ a.octets.filter isText
    { entry with binary := entry.binary.put a.name ((entry.binary.find? a.name).getD [] ++ values) }

/-- The entry that a session answers. -/
def WireEntry.toRaw (entry : WireEntry) : RawEntry :=
  entry.attributes.foldl addAttribute ⟨entry.dn, .empty, .empty⟩

/-- Takes the base out of a subtree. -/
def withoutBase (base : String) (entries : List RawEntry) : List RawEntry :=
  entries.filter fun entry => !Dn.sameText entry.dn base

/-! ## Responses -/

/-- What comes back for a request. -/
inductive Response where
  /-- A result code, which may need all of 32 bits, a text and, for a search, entries. -/
  | result (code : Nat) (text : String) (entries : List WireEntry)
  /-- Nothing within the time limit. -/
  | silence
  /-- The end of the transport. -/
  | hangup

/-- The signal of a result that is no success: its text, or the meaning of its code. -/
def resultSignal (code : Nat) (text : String) : Signal :=
  .withCode code <|
    if text.isEmpty then ((ResultCode.ofInt? code).getD .unknown).description else text

/-- The signal of a call that gets no response because the transport ended. -/
def unanswered : Signal :=
  ⟨"result recv error: channel closed"⟩

/-- The signal of a transport that ended during a call. -/
def hangupSignal : SessionCall → Signal
  | .search _ => ⟨"premature end of search stream"⟩
  | _ => unanswered

/-- The value that a successful result brings. -/
def value (entries : List WireEntry) : (call : SessionCall) → call.Value
  | .search request =>
    let found := entries.map WireEntry.toRaw
    if request.scope = .subordinate then withoutBase request.base found else found
  | .simpleBind _ _ => ()
  | .gssapiBind _ => ()
  | .modify _ _ => ()
  | .modifyDn _ => ()
  | .delete _ => ()
  | .unbind => ()

/-- What a call makes of a response. -/
def Response.answer (call : SessionCall) : Response → call.Answer
  | result code text entries =>
    if code = 0 then .ok (value entries call) else .error (resultSignal code text)
  | silence => .error (.withCode ResultCode.timeout.value "timeout: deadline has elapsed")
  | hangup => .error (hangupSignal call)

end LdapClient.Wire
