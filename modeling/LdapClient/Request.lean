/-
# LdapClient.Request -- what a caller asks of the directory

Values built by callers: search scopes and searches, attribute changes, renames.
-/
import LdapClient.Failure

namespace LdapClient

/-! ## Searches -/

/-- How far below its base a search looks. -/
inductive Scope where
  | baseObject
  | singleLevel
  | wholeSubtree
  /-- Everything below the base but not the base itself. -/
  | subordinate
  /-- What the server takes for default, the whole subtree. -/
  | default
deriving DecidableEq

namespace Scope

/-- The number of a scope. -/
def code : Scope → Int
  | .baseObject => 0
  | .singleLevel => 1
  | .wholeSubtree => 2
  | .subordinate => 3
  | .default => -1

/-- All scopes. -/
def all : List Scope :=
  [.baseObject, .singleLevel, .wholeSubtree, .subordinate, .default]

/-- The scope with this number. -/
def ofCode (n : Int) : Except Failure Scope :=
  match all.find? fun scope => decide (scope.code = n) with
  | some scope => .ok scope
  | none => .error (.param ("invalid search scope " ++ Text.Decimal.ofInt n))

/-- The name of a scope. -/
def name : Scope → String
  | .baseObject => "BaseObject"
  | .singleLevel => "SingleLevel"
  | .wholeSubtree => "WholeSubtree"
  | .subordinate => "Subordinate"
  | .default => "Default"

end Scope

/-- A search.  The filter is passed on untouched; no attributes means all of them. -/
structure SearchRequest where
  base : String
  scope : Scope
  filter : String
  attributes : List String
deriving DecidableEq

/-! ## Changes -/

/-- What a change does with the values of an attribute. -/
inductive ChangeKind where
  | add
  /-- Removes the listed values, or the whole attribute if none are listed. -/
  | delete
  | replace
deriving DecidableEq

namespace ChangeKind

/-- The word for a kind of change. -/
def display : ChangeKind → String
  | .add => "add"
  | .delete => "delete"
  | .replace => "replace"

/-- The kind of change that a word stands for. -/
def ofWord? (word : String) : Option ChangeKind :=
  [add, delete, replace].find? fun kind => kind.display == word

end ChangeKind

/-- A change to one attribute. -/
structure Change where
  kind : ChangeKind
  target : String
  values : List String
deriving DecidableEq

/-- Changes to one entry, in the order in which they apply. -/
structure ModifyRequest where
  dn : String
  changes : List Change
deriving DecidableEq

/-- A new relative name for an entry, under a new parent unless `newSuperior` is empty. -/
structure RenameRequest where
  dn : String
  newRdn : String
  deleteOldRdn : Bool
  newSuperior : String
deriving DecidableEq

namespace RenameRequest

/-- A new relative name under the same parent. -/
def inPlace (dn newRdn : String) (deleteOldRdn : Bool) : RenameRequest :=
  ⟨dn, newRdn, deleteOldRdn, ""⟩

/-- The entry gets another parent. -/
def isMove (request : RenameRequest) : Bool :=
  !request.newSuperior.isEmpty

end RenameRequest

end LdapClient
