/-
# LdapClient.Proofs.Entry.Parts -- entries put together from the two parts of an answer

A session answers the attributes that are text apart from the others, and a name may stand in both
parts.  The octets of the second part are then put behind the values of the first, in both of the
lists that a `PairedAttribute` has, one list after the other.

Nothing is lost on the way, and the lists stay in step: each text is what the octets at its place
are read as.  `isBuilt_iff` says that of everything that can be built, and that nothing else can be
said of it but the order of the names.  The main statement is `both_parts_kept`.
-/
import LdapClient.Proofs.Entry.Paired

namespace LdapClient

open Text

/-! ## Lists in step -/

/-- Each text is what the octets at its place are read as. -/
structure InStep (texts : List String) (octets : List Octets) : Prop where
  length_eq : texts.length = octets.length
  decoded : ∀ (i : Nat) text written, texts[i]? = some text → octets[i]? = some written →
    text = lossy written

theorem inStep_iff {texts : List String} {octets : List Octets} :
    InStep texts octets ↔ texts = octets.map lossy := by
  constructor
  · rintro ⟨hlength, hdecoded⟩
    apply List.ext_getElem (hlength.trans (List.length_map _).symm)
    intro i htexts hoctets
    rw [List.getElem_map]
    exact hdecoded i _ _ (List.getElem?_eq_getElem _) (List.getElem?_eq_getElem _)
  · rintro rfl
    refine ⟨List.length_map _, fun i text written htext hwritten => ?_⟩
    rw [List.getElem?_map, hwritten] at htext
    exact (Option.some.inj htext).symm

/-! ## Adding the second part -/

namespace PairedAttribute

/-- The attribute with more values behind its own. -/
def extend (a : PairedAttribute) (more : List Octets) : PairedAttribute :=
  ⟨a.name, a.texts ++ more.map lossy, a.octets ++ more⟩

/-- Puts values behind those of the first attribute with the name, or behind all attributes as one
of their own. -/
def absorb (name : String) (more : List Octets) : List PairedAttribute → List PairedAttribute
  | [] => [.ofOctets name more]
  | a :: rest => if a.name = name then a.extend more :: rest else a :: absorb name more rest

/-- The attribute of a name after more values came to what was there. -/
def joined (name : String) (found : Option PairedAttribute) (more : List Octets) :
    PairedAttribute :=
  (found.map fun a => a.extend more).getD (.ofOctets name more)

theorem find?_absorb (name : String) (more : List Octets) (attributes : List PairedAttribute)
    (key : String) :
    (absorb name more attributes).find? (fun a => a.name = key) =
      if name = key then some (joined name (attributes.find? fun a => a.name = key) more)
      else attributes.find? fun a => a.name = key := by
  have hnew : (ofOctets name more).name = name := rfl
  induction attributes with
  | nil =>
    rw [absorb, List.find?_singleton, hnew]
    simp [joined]
  | cons a rest ih =>
    have hextend : (a.extend more).name = a.name := rfl
    rw [absorb]
    by_cases hname : a.name = name
    · subst hname
      rw [if_pos rfl, List.find?_cons, List.find?_cons, hextend]
      by_cases hkey : a.name = key <;> simp [hkey, joined]
    · rw [if_neg hname, List.find?_cons, List.find?_cons, ih]
      by_cases hkey : a.name = key
      · have hother : name ≠ key := fun h => hname (hkey.trans h.symm)
        rw [decide_eq_true hkey, if_neg hother, if_neg hother]
      · rw [decide_eq_false hkey]

/-- The names of the second part are different, so what one adds is not touched by the next. -/
theorem find?_foldl_absorb {parts : List (String × List Octets)}
    (h : parts.Pairwise fun a b => before a.1 b.1 = true) (attributes : List PairedAttribute)
    (key : String) :
    (parts.foldl (fun as part => absorb part.1 part.2 as) attributes).find?
        (fun a => a.name = key) =
      match NameMap.lookup key parts with
      | none => attributes.find? fun a => a.name = key
      | some more => some (joined key (attributes.find? fun a => a.name = key) more) := by
  induction parts generalizing attributes with
  | nil => rfl
  | cons part parts ih =>
    obtain ⟨name, more⟩ := part
    obtain ⟨hfirst, hrest⟩ := List.pairwise_cons.mp h
    rw [List.foldl_cons, ih hrest, find?_absorb, NameMap.lookup]
    by_cases hkey : name = key
    · subst hkey
      rw [if_pos rfl, if_pos rfl, NameMap.lookup_eq_none_of_before hfirst]
    · rw [if_neg hkey, if_neg hkey]

end PairedAttribute

/-- The attributes of the text part, with the other part added name by name, and arranged. -/
def PairedEntry.ofRaw (raw : RawEntry) : PairedEntry :=
  .ofAttributes raw.dn
    (raw.binary.toList.foldl (fun as part => PairedAttribute.absorb part.1 part.2 as)
      (raw.text.toList.map fun part => .ofTexts part.1 part.2))

theorem PairedEntry.ascending_ofRaw (raw : RawEntry) :
    Ascending PairedAttribute.name (PairedEntry.ofRaw raw).attributes :=
  ascending_arrange _

theorem PairedEntry.find?_ofRaw (raw : RawEntry) (name : String) :
    (PairedEntry.ofRaw raw).attributes.find? (fun a => a.name = name) =
      match raw.binary.find? name with
      | none => (raw.text.find? name).map (.ofTexts name)
      | some more =>
        some (PairedAttribute.joined name ((raw.text.find? name).map (.ofTexts name)) more) := by
  have hname (part : String × List String) :
      (PairedAttribute.ofTexts part.1 part.2).name = part.1 := rfl
  have htext : (raw.text.toList.map fun part => PairedAttribute.ofTexts part.1 part.2).find?
      (fun a => a.name = name) = (raw.text.find? name).map (.ofTexts name) := by
    rw [find?_map_name hname, NameMap.find?_toList, Option.map_map]
    rfl
  refine (find?_arrange _ name).trans ?_
  rw [PairedAttribute.find?_foldl_absorb raw.binary.sorted, htext]
  rfl

theorem Entry.paired_ofRaw (raw : RawEntry) : (ofRaw raw).paired = PairedEntry.ofRaw raw := by
  have hattributes : (ofRaw raw).paired.attributes = (PairedEntry.ofRaw raw).attributes := by
    apply (ofRaw raw).ascending_paired.ext_find? (PairedEntry.ascending_ofRaw raw)
    intro name
    have hname (a : Attribute) : a.paired.name = a.name := rfl
    rw [PairedEntry.find?_ofRaw, paired, find?_map_name hname, find?_attributes, ofRaw,
      NameMap.find?_extend, NameMap.find?_mapValues]
    cases raw.binary.find? name <;> cases raw.text.find? name <;>
      simp [Attribute.paired, Attribute.values, PairedAttribute.joined, PairedAttribute.ofTexts,
        PairedAttribute.ofOctets, PairedAttribute.extend, map_lossy_octets, -List.map_map]
  exact congrArg (PairedEntry.mk raw.dn) hattributes

/-! ## What is kept -/

/-- Both parts of an answer are in the entry, and nothing else. -/
structure PairedEntry.Keeps (entry : PairedEntry) (raw : RawEntry) : Prop where
  dn_eq : entry.dn = raw.dn
  ascending : Ascending PairedAttribute.name entry.attributes
  /-- A name that stands in one of the parts, or in both, stands once. -/
  count_names : ∀ name, (entry.attributes.map PairedAttribute.name).count name =
    if name ∈ raw.text.names ++ raw.binary.names then 1 else 0
  /-- The octets of the texts come first, then those of the other part. -/
  octets_eq : ∀ a ∈ entry.attributes, a.octets =
    ((raw.text.find? a.name).getD []).map Text.octets ++ (raw.binary.find? a.name).getD []

theorem PairedEntry.keeps_ofRaw (raw : RawEntry) : (PairedEntry.ofRaw raw).Keeps raw where
  dn_eq := rfl
  ascending := PairedEntry.ascending_ofRaw raw
  count_names := by
    intro name
    have hmem : name ∈ (PairedEntry.ofRaw raw).attributes.map PairedAttribute.name ↔
        name ∈ raw.text.names ++ raw.binary.names := by
      rw [← isSome_find?_iff, PairedEntry.find?_ofRaw, List.mem_append, NameMap.mem_names_iff,
        NameMap.mem_names_iff]
      cases raw.binary.find? name <;> cases raw.text.find? name <;> simp
    rw [(PairedEntry.ascending_ofRaw raw).nodup_names.count]
    exact if_congr hmem rfl rfl
  octets_eq := by
    intro a ha
    have hfind := (PairedEntry.ascending_ofRaw raw).find?_eq_some_iff.mpr ⟨ha, rfl⟩
    rw [PairedEntry.find?_ofRaw] at hfind
    have hoctets := congrArg (Option.map PairedAttribute.octets) hfind
    revert hoctets
    cases raw.binary.find? a.name <;> cases raw.text.find? a.name <;>
      simp [PairedAttribute.joined, PairedAttribute.ofTexts, PairedAttribute.ofOctets,
        PairedAttribute.extend, eq_comm]

/-! ## What can be built -/

mutual

/-- An attribute that was built or was read out of an entry that was built. -/
inductive PairedAttribute.IsBuilt : PairedAttribute → Prop
  | ofTexts (name : String) (texts : List String) :
      PairedAttribute.IsBuilt (.ofTexts name texts)
  | ofOctets (name : String) (octets : List Octets) :
      PairedAttribute.IsBuilt (.ofOctets name octets)
  | ofEntry {entry : PairedEntry} {a : PairedAttribute} :
      PairedEntry.IsBuilt entry → a ∈ entry.attributes → PairedAttribute.IsBuilt a

/-- An entry that was built, of attributes that were or from an answer. -/
inductive PairedEntry.IsBuilt : PairedEntry → Prop
  | ofAttributes (dn : String) {attributes : List PairedAttribute} :
      (∀ a ∈ attributes, PairedAttribute.IsBuilt a) →
        PairedEntry.IsBuilt (.ofAttributes dn attributes)
  | ofRaw (raw : RawEntry) : PairedEntry.IsBuilt (.ofRaw raw)

end

theorem Entry.inStep_paired {entry : Entry} {a : PairedAttribute}
    (h : a ∈ entry.paired.attributes) : InStep a.texts a.octets := by
  obtain ⟨plain, -, rfl⟩ := List.mem_map.mp h
  exact inStep_iff.mpr rfl

mutual

theorem PairedAttribute.IsBuilt.inStep {a : PairedAttribute} (h : a.IsBuilt) :
    InStep a.texts a.octets :=
  match h with
  | .ofTexts name texts => inStep_iff.mpr (map_lossy_octets texts).symm
  | .ofOctets name octets => inStep_iff.mpr rfl
  | .ofEntry hentry hmem => hentry.inStep a hmem

theorem PairedEntry.IsBuilt.inStep {entry : PairedEntry} (h : entry.IsBuilt) :
    ∀ a ∈ entry.attributes, InStep a.texts a.octets :=
  match h with
  | .ofAttributes dn hbuilt => fun a hmem => (hbuilt a (mem_of_mem_arrange hmem)).inStep
  | .ofRaw raw => by
    rw [← Entry.paired_ofRaw]
    exact fun a => Entry.inStep_paired

end

theorem PairedEntry.IsBuilt.ascending {entry : PairedEntry} (h : entry.IsBuilt) :
    Ascending PairedAttribute.name entry.attributes := by
  cases h with
  | ofAttributes dn _ => exact ascending_arrange _
  | ofRaw raw => exact PairedEntry.ascending_ofRaw raw

theorem PairedAttribute.isBuilt_of_inStep {a : PairedAttribute} (h : InStep a.texts a.octets) :
    a.IsBuilt := by
  have hbuilt := IsBuilt.ofOctets a.name a.octets
  rw [ofOctets, ← inStep_iff.mp h] at hbuilt
  exact hbuilt

/-- The lists of every attribute are in step, and the names in ascending order; whatever is so, can
be built. -/
theorem PairedEntry.isBuilt_iff {entry : PairedEntry} :
    entry.IsBuilt ↔ Ascending PairedAttribute.name entry.attributes ∧
      ∀ a ∈ entry.attributes, InStep a.texts a.octets := by
  constructor
  · exact fun h => ⟨h.ascending, h.inStep⟩
  · rintro ⟨hascending, hinStep⟩
    have hbuilt := IsBuilt.ofAttributes entry.dn fun a hmem =>
      PairedAttribute.isBuilt_of_inStep (hinStep a hmem)
    rw [PairedEntry.ofAttributes, hascending.arrange_eq] at hbuilt
    exact hbuilt

/-- The entry of an answer keeps both of its parts, and is the same as the one that keeps octets
alone.  In every entry that can be built, the texts of each attribute go with its octets one by
one. -/
theorem both_parts_kept (raw : RawEntry) :
    (PairedEntry.ofRaw raw).Keeps raw ∧ (Entry.ofRaw raw).paired = PairedEntry.ofRaw raw ∧
      ∀ entry : PairedEntry, entry.IsBuilt ↔
        Ascending PairedAttribute.name entry.attributes ∧
          ∀ a ∈ entry.attributes, InStep a.texts a.octets :=
  ⟨PairedEntry.keeps_ofRaw raw, Entry.paired_ofRaw raw, fun _ => PairedEntry.isBuilt_iff⟩

/-- A name stands in both parts: a text with a letter of two octets comes before octets that are no
text. -/
theorem description_parts_kept :
    let raw : RawEntry := ⟨"cn=host", .ofList [("description", ["Höhe"])],
      .ofList [("description", [[0x48, 0xff]]), ("cn", [])]⟩
    let a : PairedAttribute :=
      ⟨"description", ["Höhe", "H\uFFFD"], [[0x48, 0xc3, 0xb6, 0x68, 0x65], [0x48, 0xff]]⟩
    a ∈ (PairedEntry.ofRaw raw).attributes ∧
      ((PairedEntry.ofRaw raw).attributes.map PairedAttribute.name).count "description" = 1 ∧
      InStep a.texts a.octets := by
  intro raw a
  obtain ⟨hkeeps, hpaired, hbuilt⟩ := both_parts_kept raw
  have hmem : a ∈ (PairedEntry.ofRaw raw).attributes := by
    rw [← hpaired]
    decide +kernel
  have hcount := hkeeps.count_names "description"
  rw [if_pos (by decide +kernel)] at hcount
  exact ⟨hmem, hcount, ((hbuilt _).mp (.ofRaw raw)).2 a hmem⟩

end LdapClient
