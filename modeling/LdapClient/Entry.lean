/-
# LdapClient.Entry -- directory entries

An attribute is a name with octet strings as values.  What is read as text is a view of the octets:
`Attribute.values` decodes them one by one, so the two lists always have the same length.

An entry is a distinguished name with attributes in ascending order of their names, one for each
name.  Lookups come in two forms, by the exact name and by the name up to ASCII case, and never
fail: what is not there reads as no values, and its first value as an empty one.

A `RawEntry` is what a session answers: attributes that are text apart from those that are not.
`Entry.ofRaw` puts the two together.
-/
import LdapClient.NameMap
import LdapClient.Text.Cut
import LdapClient.Text.Octets

namespace LdapClient

open Text

/-! ## Attributes -/

/-- A name and its values. -/
structure Attribute where
  name : String
  octets : List Octets
deriving DecidableEq

namespace Attribute

/-- An attribute with text values. -/
def ofText (name : String) (values : List String) : Attribute :=
  ⟨name, values.map Text.octets⟩

/-- The values as text. -/
def values (a : Attribute) : List String :=
  a.octets.map lossy

end Attribute

/-! ## Entries -/

/-- An entry as a session answers it. -/
structure RawEntry where
  dn : String
  text : NameMap (List String)
  binary : NameMap (List Octets)
deriving DecidableEq

/-- An entry of the directory. -/
structure Entry where
  dn : String
  named : NameMap (List Octets)
deriving DecidableEq

/-- How a name is matched. -/
inductive Match where
  /-- Character by character. -/
  | exact
  /-- Up to the case of ASCII letters. -/
  | folded
deriving DecidableEq

namespace Entry

/-- An entry with these attributes, of which the first with each name is kept. -/
def ofAttributes (dn : String) (attributes : List Attribute) : Entry :=
  ⟨dn, .ofFirst (attributes.map fun a => (a.name, a.octets))⟩

/-- An entry without attributes. -/
def bare (dn : String) : Entry :=
  ⟨dn, .empty⟩

/-- The attributes of a session's answer, the octets of text values before the binary values of
the same name. -/
def ofRaw (raw : RawEntry) : Entry :=
  ⟨raw.dn, (raw.text.mapValues (List.map Text.octets)).extend raw.binary⟩

/-- The attributes, in ascending order of their names. -/
def attributes (entry : Entry) : List Attribute :=
  entry.named.toList.map fun named => ⟨named.1, named.2⟩

/-! ## Lookups -/

/-- The octets of an attribute's values. -/
def octets (entry : Entry) (mode : Match) (name : String) : List Octets :=
  match mode with
  | .exact => (entry.named.find? name).getD []
  | .folded => (entry.named.findFolded? name).getD []

/-- The values of an attribute. -/
def values (entry : Entry) (mode : Match) (name : String) : List String :=
  (entry.octets mode name).map lossy

/-- The octets of an attribute's first value. -/
def firstOctets (entry : Entry) (mode : Match) (name : String) : Octets :=
  (entry.octets mode name).headD []

/-- An attribute's first value. -/
def firstValue (entry : Entry) (mode : Match) (name : String) : String :=
  (entry.values mode name).headD ""

/-! ## Rendering -/

/-- A line of its own, moved in by blanks. -/
def line (indent : Nat) (text : String) : String :=
  String.ofList (List.replicate indent ' ') ++ text ++ "\n"

/-- The entry in lines: its name, then two blanks further in one line for each attribute. -/
def pretty (entry : Entry) (indent : Nat) : String :=
  line indent ("DN: " ++ entry.dn) ++
    join "" (entry.attributes.map fun a =>
      line (indent + 2) (a.name ++ ": [" ++ join " " a.values ++ "]"))

end Entry

/-! ## Search results -/

/-- The entries that a search found, in the order in which it found them. -/
structure SearchResult where
  entries : List Entry
deriving DecidableEq

namespace SearchResult

/-- All entries in lines. -/
def pretty (result : SearchResult) (indent : Nat) : String :=
  join "" (result.entries.map fun entry => entry.pretty indent)

end SearchResult

end LdapClient
