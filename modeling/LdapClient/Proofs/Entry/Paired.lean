/-
# LdapClient.Proofs.Entry.Paired -- entries whose values stand in two lists

An attribute can also keep its values twice, in a list of texts and in a list of octets.  An entry
is then a list of such attributes, in which names are looked up one by one.  Nothing in these types
holds the lists together, or the names apart: what an `Entry` has by its form, a `PairedEntry` has
only by the way in which it is built.

This module is about the first way, from attributes in any order and with any repetitions, which are
arranged by name.  `attributes_kept_once` says what is kept and what is found, and that it comes to
the same as `Entry.ofAttributes`.
-/
import LdapClient.Proofs.Entry
import LdapClient.Proofs.Entry.Arrangement

namespace LdapClient

open Text

/-! ## Attributes -/

/-- A name and its values, as texts and as octets. -/
structure PairedAttribute where
  name : String
  texts : List String
  octets : List Octets
deriving DecidableEq

namespace PairedAttribute

/-- An attribute with text values. -/
def ofTexts (name : String) (texts : List String) : PairedAttribute :=
  ⟨name, texts, texts.map Text.octets⟩

/-- An attribute with any values. -/
def ofOctets (name : String) (octets : List Octets) : PairedAttribute :=
  ⟨name, octets.map lossy, octets⟩

end PairedAttribute

/-- The attribute with what can be read of its values. -/
def Attribute.paired (a : Attribute) : PairedAttribute :=
  ⟨a.name, a.values, a.octets⟩

theorem Attribute.paired_ofText (name : String) (texts : List String) :
    (ofText name texts).paired = .ofTexts name texts := by
  simp only [paired, ofText, values, map_lossy_octets, PairedAttribute.ofTexts]

/-! ## Entries -/

/-- A distinguished name with attributes. -/
structure PairedEntry where
  dn : String
  attributes : List PairedAttribute
deriving DecidableEq

/-- The other name is matched by this one. -/
def Match.agrees (mode : Match) (name other : String) : Bool :=
  match mode with
  | .exact => other = name
  | .folded => sameFolded other name

namespace PairedEntry

/-- The entry with the first attribute of each name, in ascending order of the names. -/
def ofAttributes (dn : String) (attributes : List PairedAttribute) : PairedEntry :=
  ⟨dn, arrange PairedAttribute.name attributes⟩

/-- The first attribute that a name matches. -/
def find? (entry : PairedEntry) (mode : Match) (name : String) : Option PairedAttribute :=
  entry.attributes.find? fun a => mode.agrees name a.name

/-- The values of an attribute. -/
def texts (entry : PairedEntry) (mode : Match) (name : String) : List String :=
  ((entry.find? mode name).map PairedAttribute.texts).getD []

/-- The octets of an attribute's values. -/
def octets (entry : PairedEntry) (mode : Match) (name : String) : List Octets :=
  ((entry.find? mode name).map PairedAttribute.octets).getD []

/-- An attribute's first value. -/
def firstText (entry : PairedEntry) (mode : Match) (name : String) : String :=
  (entry.texts mode name).headD ""

/-- The octets of an attribute's first value. -/
def firstOctets (entry : PairedEntry) (mode : Match) (name : String) : Octets :=
  (entry.octets mode name).headD []

end PairedEntry

/-! ## The paired form of an entry -/

namespace Entry

/-- The entry with what can be read of its values. -/
def paired (entry : Entry) : PairedEntry :=
  ⟨entry.dn, entry.attributes.map Attribute.paired⟩

theorem ascending_attributes (entry : Entry) : Ascending Attribute.name entry.attributes :=
  entry.named.ascending_toList.map fun _ => rfl

theorem ascending_paired (entry : Entry) :
    Ascending PairedAttribute.name entry.paired.attributes :=
  entry.ascending_attributes.map fun _ => rfl

theorem find?_paired (entry : Entry) (mode : Match) (name : String) :
    entry.paired.find? mode name =
      (entry.attributes.find? fun a => mode.agrees name a.name).map Attribute.paired :=
  List.find?_map

theorem find?_attributes (entry : Entry) (name : String) :
    entry.attributes.find? (fun a => a.name = name) =
      (entry.named.find? name).map (Attribute.mk name) := by
  rw [attributes, find?_map_name fun _ => rfl, NameMap.find?_toList, Option.map_map]
  rfl

/-- Looking a name up is going through the attributes until one agrees. -/
theorem octets_eq (entry : Entry) (mode : Match) (name : String) :
    entry.octets mode name =
      ((entry.attributes.find? fun a => mode.agrees name a.name).map Attribute.octets).getD [] := by
  cases mode with
  | exact =>
    change (entry.named.find? name).getD [] =
      ((entry.attributes.find? fun a => a.name = name).map Attribute.octets).getD []
    rw [find?_attributes]
    cases entry.named.find? name <;> rfl
  | folded =>
    rw [attributes, List.find?_map, Option.map_map]
    rfl

theorem octets_paired (entry : Entry) (mode : Match) (name : String) :
    entry.paired.octets mode name = entry.octets mode name := by
  rw [PairedEntry.octets, find?_paired, octets_eq, Option.map_map]
  rfl

theorem texts_paired (entry : Entry) (mode : Match) (name : String) :
    entry.paired.texts mode name = entry.values mode name := by
  rw [PairedEntry.texts, find?_paired, values, octets_eq, Option.map_map]
  cases entry.attributes.find? fun a => mode.agrees name a.name <;> rfl

theorem attributes_ofAttributes (dn : String) (attributes : List Attribute) :
    (ofAttributes dn attributes).attributes = arrange Attribute.name attributes := by
  rw [Entry.attributes, ofAttributes, NameMap.toList_ofFirst,
    map_arrange Prod.fst Attribute.name fun _ => rfl, List.map_map]
  exact congrArg _ (List.map_id attributes)

theorem ofAttributes_attributes (entry : Entry) :
    ofAttributes entry.dn entry.attributes = entry := by
  obtain ⟨dn, named⟩ := entry
  have hlist : (ofAttributes dn (Entry.attributes ⟨dn, named⟩)).named.toList = named.toList := by
    rw [ofAttributes, NameMap.toList_ofFirst, attributes, List.map_map]
    exact (congrArg _ (List.map_id named.toList)).trans named.ascending_toList.arrange_eq
  have hnamed : (ofAttributes dn (Entry.attributes ⟨dn, named⟩)).named = named :=
    NameMap.ext_find? fun name => congrArg (NameMap.lookup name) hlist
  exact congrArg (Entry.mk dn) hnamed

theorem paired_ofAttributes (dn : String) (attributes : List Attribute) :
    (ofAttributes dn attributes).paired = .ofAttributes dn (attributes.map Attribute.paired) := by
  rw [paired, attributes_ofAttributes,
    map_arrange Attribute.name PairedAttribute.name fun _ => rfl]
  rfl

end Entry

/-- Of any attributes, an entry has the first with each name and no other, in ascending order of the
octets of their names, and there it finds each.  Its own attributes make the same entry again.  All
of this holds of the entries that keep octets alone, too. -/
theorem attributes_kept_once (dn : String) (attributes : List PairedAttribute) :
    let entry := PairedEntry.ofAttributes dn attributes
    Ascending PairedAttribute.name entry.attributes ∧
      (entry.attributes.map PairedAttribute.name).Nodup ∧
      (∀ name, name ∈ entry.attributes.map PairedAttribute.name ↔
        name ∈ attributes.map PairedAttribute.name) ∧
      (∀ name, entry.find? .exact name = attributes.find? fun a => a.name = name) ∧
      PairedEntry.ofAttributes entry.dn entry.attributes = entry ∧
      (∀ plain : List Attribute,
        (Entry.ofAttributes dn plain).paired =
            .ofAttributes dn (plain.map Attribute.paired) ∧
          ∀ name, (Entry.ofAttributes dn plain).octets .exact name =
            ((plain.find? fun a => a.name = name).map Attribute.octets).getD []) ∧
      ∀ other : Entry, Entry.ofAttributes other.dn other.attributes = other := by
  intro entry
  have hascending : Ascending PairedAttribute.name entry.attributes := ascending_arrange attributes
  refine ⟨hascending, hascending.nodup_names, fun name => mem_map_arrange,
    find?_arrange attributes, ?_, ?_, Entry.ofAttributes_attributes⟩
  · exact congrArg (PairedEntry.mk dn) hascending.arrange_eq
  · intro plain
    refine ⟨Entry.paired_ofAttributes dn plain, fun name => ?_⟩
    rw [Entry.octets_eq, Entry.attributes_ofAttributes]
    exact congrArg (fun found => (found.map Attribute.octets).getD []) (find?_arrange plain name)

end LdapClient
