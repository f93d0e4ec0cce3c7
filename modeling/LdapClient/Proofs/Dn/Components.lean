/-
# LdapClient.Proofs.Dn.Components -- names are compared by their components

A name keeps the texts of its relative names, and what it is compared by can be found from these
texts alone: each is cut at its plus signs, and each part says a type and a value (`componentOf`).
`normalForm` does so and keeps going where a text cannot be cut or a part says nothing.  For a name
that was read neither happens, so no part is left out, and whether names are the same is decided by
their components, relative name by relative name and in any order within one.

Components do not change when a name is written in another way.  `PartRespelled` changes one part,
by blanks at its ends and at its first equals sign or by the case of its type, and `Respelled` does
so for all parts of a text, which may trade places within their relative name.  The main statement
is `components_decide`.
-/
import Mathlib.Data.Multiset.MapFold
import Mathlib.Logic.Relation
import LdapClient.Proofs.Dn.Composition
import LdapClient.Proofs.Dn.Relative

namespace LdapClient.Dn

open Text

/-! ## The order of keys -/

/-- The strict order of keys: by the type, and by the value where the types are the same. -/
def keyBefore (a b : List Char × List Char) : Bool :=
  precedes a.1 b.1 || (decide (a.1 = b.1) && precedes a.2 b.2)

theorem keyBefore_iff {a b : List Char × List Char} :
    keyBefore a b = true ↔ precedes a.1 b.1 = true ∨ a.1 = b.1 ∧ precedes a.2 b.2 = true := by
  simp [keyBefore]

theorem keyBefore_irrefl (a : List Char × List Char) : keyBefore a a = false := by
  rw [keyBefore, precedes_irrefl, precedes_irrefl, Bool.and_false, Bool.or_false]

theorem keyBefore_trans {a b c : List Char × List Char} (hab : keyBefore a b = true)
    (hbc : keyBefore b c = true) : keyBefore a c = true := by
  rw [keyBefore_iff] at *
  rcases hab with hab | ⟨hab, hab'⟩
  · rcases hbc with hbc | ⟨hbc, -⟩
    · exact .inl (precedes_trans hab hbc)
    · exact .inl (hbc ▸ hab)
  · rcases hbc with hbc | ⟨hbc, hbc'⟩
    · exact .inl (hab ▸ hbc)
    · exact .inr ⟨hab.trans hbc, precedes_trans hab' hbc'⟩

/-- Of two different keys one stands before the other. -/
theorem keyBefore_or_keyBefore {a b : List Char × List Char} (h : a ≠ b) :
    keyBefore a b = true ∨ keyBefore b a = true := by
  rw [keyBefore_iff, keyBefore_iff]
  by_cases htype : a.1 = b.1
  · have hvalue : a.2 ≠ b.2 := fun heq => h (Prod.ext htype heq)
    rcases precedes_or_precedes hvalue with hbefore | hbefore
    · exact .inl (.inr ⟨htype, hbefore⟩)
    · exact .inr (.inr ⟨htype.symm, hbefore⟩)
  · rcases precedes_or_precedes htype with hbefore | hbefore
    · exact .inl (.inl hbefore)
    · exact .inr (.inl hbefore)

/-- Keys from the first in the order to the last. -/
def sortKeys (keys : List (List Char × List Char)) : List (List Char × List Char) :=
  keys.mergeSort fun a b => !keyBefore b a

theorem pairwise_sortKeys (keys : List (List Char × List Char)) :
    (sortKeys keys).Pairwise fun a b => (!keyBefore b a) = true := by
  apply List.pairwise_mergeSort
  · intro a b c hab hbc
    rw [Bool.not_eq_true'] at *
    refine Bool.eq_false_iff.mpr fun hca => ?_
    -- if `c` stood before `a`, then `b`, which stands somewhere, would stand before one of them
    by_cases heq : b = c
    · rw [heq, hca] at hab
      contradiction
    · rcases keyBefore_or_keyBefore heq with hlt | hlt
      · rw [keyBefore_trans hlt hca] at hab
        contradiction
      · rw [hlt] at hbc
        contradiction
  · intro a b
    rw [Bool.or_eq_true, Bool.not_eq_true', Bool.not_eq_true']
    by_contra hboth
    rw [not_or, Bool.not_eq_false, Bool.not_eq_false] at hboth
    have hself := keyBefore_trans hboth.1 hboth.2
    rw [keyBefore_irrefl] at hself
    contradiction

/-- Sorted lists are equal just if the same keys are in them, each as many times. -/
theorem sortKeys_eq_iff {keys others : List (List Char × List Char)} :
    sortKeys keys = sortKeys others ↔ keys.Perm others := by
  have hkeys : (sortKeys keys).Perm keys := List.mergeSort_perm keys _
  have hothers : (sortKeys others).Perm others := List.mergeSort_perm others _
  constructor
  · intro heq
    exact hkeys.symm.trans (heq ▸ hothers)
  · intro hperm
    refine List.Perm.eq_of_pairwise ?_ (pairwise_sortKeys keys) (pairwise_sortKeys others)
      (hkeys.trans (hperm.trans hothers.symm))
    intro a b _ _ hab hba
    by_contra hne
    rw [Bool.not_eq_true'] at hab hba
    rcases keyBefore_or_keyBefore hne with hlt | hlt
    · rw [hlt] at hba
      contradiction
    · rw [hlt] at hab
      contradiction

/-! ## Components -/

/-- What a part is compared by: what stands before the first equals sign, in small ASCII letters,
and the normal value of what stands behind it, both without blanks at their ends. -/
def componentOf (part : List Char) : Option (List Char × List Char) :=
  (cutOnce '=' part).map fun sides => (fold (trim sides.1), Assertion.normalValue (trim sides.2))

theorem componentOf_sides {type : List Char} (h : '=' ∉ type) (value : List Char) :
    componentOf (type ++ '=' :: value) =
      some (fold (trim type), Assertion.normalValue (trim value)) := by
  rw [componentOf, cutOnce_append h]
  rfl

/-- Blanks around a part are not part of it. -/
theorem componentOf_padded {part padded : List Char} (h : Padded part padded) :
    componentOf part = componentOf padded := by
  have hsides (text : List Char) :
      componentOf text = (sides? text).map (Prod.map fold Assertion.normalValue) := by
    rw [componentOf, sides?, Option.map_map]
    rfl
  rw [hsides, hsides, sides?_padded h]

/-- An assertion is compared by what its part says. -/
theorem componentOf_parse {part : List Char} {assertion : Assertion}
    (h : Assertion.parse part = .ok assertion) : componentOf part = some assertion.key := by
  unfold Assertion.parse at h
  rw [componentOf]
  cases hcut : cutOnce '=' part with
  | none =>
    rw [hcut] at h
    cases h
  | some sides =>
    rw [hcut] at h
    dsimp only at h
    split at h
    · cases h
    · cases h
      rfl

/-- What parts are compared by, in any order. -/
def componentsOf (parts : List (List Char)) : Multiset (Option (List Char × List Char)) :=
  parts.map componentOf

/-! ## Names that were read -/

namespace Rdn

/-- The parts between the unescaped plus signs of the text, and none if it cannot be cut. -/
def parts (rdn : Rdn) : List (List Char) :=
  (splitUnescaped '+' rdn.text).getD []

/-- What a relative name is compared by, as far as its text goes. -/
def components (rdn : Rdn) : Multiset (Option (List Char × List Char)) :=
  componentsOf rdn.parts

/-- The sorted keys of those parts that are assertions. -/
def sortedKeys (rdn : Rdn) : List (List Char × List Char) :=
  sortKeys (rdn.parts.filterMap fun part => (Assertion.parse part).toOption.map Assertion.key)

namespace IsRead

variable {rdn : Rdn} (h : rdn.IsRead)

include h

/-- The text can be cut, and its parts are the assertions. -/
theorem parts_read : CutAt '+' rdn.text rdn.parts ∧
    List.Forall₂ (fun part assertion => Assertion.parse part = .ok assertion) rdn.parts
      rdn.assertions := by
  obtain ⟨-, parts, hcut, hassertions⟩ := Rdn.parse_eq_ok.mp h
  have hparts : rdn.parts = parts := by
    rw [Rdn.parts, (splitUnescaped_eq_some (by decide)).mpr hcut]
    rfl
  rw [hparts]
  exact ⟨hcut, Rdn.assertionsOf_eq_ok.mp hassertions⟩

/-- No part is left out of what a relative name is compared by. -/
theorem components_eq : rdn.components = rdn.keys.map some := by
  obtain ⟨-, hparts⟩ := h.parts_read
  rw [components, componentsOf, keys, Multiset.map_coe, List.map_map]
  exact congrArg _ (map_eq_map_of_forall₂ (fun _ _ hpart => componentOf_parse hpart) hparts)

theorem sortedKeys_eq : rdn.sortedKeys = sortKeys (rdn.assertions.map Assertion.key) := by
  obtain ⟨-, hparts⟩ := h.parts_read
  rw [sortedKeys]
  generalize rdn.parts = parts, rdn.assertions = assertions at hparts ⊢
  congr 1
  induction hparts with
  | nil => rfl
  | cons hpart _ ih =>
    rw [List.filterMap_cons, hpart, ih]
    rfl

variable {other : Rdn} (hother : other.IsRead)

include hother

theorem components_inj : rdn.components = other.components ↔ rdn.keys = other.keys := by
  rw [h.components_eq, hother.components_eq]
  exact (Multiset.map_injective (Option.some_injective _)).eq_iff

theorem sortedKeys_inj : rdn.sortedKeys = other.sortedKeys ↔ rdn.keys = other.keys := by
  rw [h.sortedKeys_eq, hother.sortedKeys_eq, sortKeys_eq_iff, keys, keys, Multiset.coe_eq_coe]

end IsRead

end Rdn

/-- What a name is compared by, found from the texts of its relative names. -/
def normalForm (name : Dn) : List (List (List Char × List Char)) :=
  name.rdns.map Rdn.sortedKeys

theorem isRead_of_parse {text : String} {name : Dn} (h : parse text = .ok name) :
    ∀ rdn ∈ name.rdns, rdn.IsRead := by
  obtain ⟨pieces, hspells⟩ := parse_eq_ok.mp h
  exact hspells.read

/-- Names can be compared by anything that tells their relative names apart as the keys do. -/
theorem same_iff_map {α : Type} {f : Rdn → α} {x y : Dn}
    (hf : ∀ a ∈ x.rdns, ∀ b ∈ y.rdns, (f a = f b ↔ a.keys = b.keys)) :
    same x y = true ↔ x.rdns.map f = y.rdns.map f := by
  rw [same_iff, keys, keys, List.ext_getElem_iff, List.ext_getElem_iff]
  simp only [List.length_map, List.getElem_map]
  refine and_congr_right fun _ => forall_congr' fun i => forall_congr' fun hi =>
    forall_congr' fun hi' => ?_
  exact (hf _ (List.getElem_mem hi) _ (List.getElem_mem hi')).symm

/-! ## Names written in another way -/

/-- One part is written in another way: with blanks at its ends and around the first equals sign, or
with other cases of the ASCII letters before it. -/
inductive PartRespelled : List Char → List Char → Prop
  | blanks {type value type' value' : List Char} (h : '=' ∉ type) (htype : Padded type type')
      (hvalue : Padded value value') : PartRespelled (type ++ '=' :: value) (type' ++ '=' :: value')
  | case {type type' : List Char} (h : '=' ∉ type) (htype : fold type = fold type')
      (value : List Char) : PartRespelled (type ++ '=' :: value) (type' ++ '=' :: value)

/-- The parts of a relative name are put in any order, and then written in another way; blanks can
go as well as come. -/
def RdnRespelled (parts others : List (List Char)) : Prop :=
  ∃ moved, parts.Perm moved ∧ List.Forall₂ (Relation.EqvGen PartRespelled) moved others

/-- A text is cut at its commas, as it stands, and each piece at its plus signs. -/
def CutInParts (text : List Char) (rdns : List (List (List Char))) : Prop :=
  ∃ pieces, CutAt ',' text pieces ∧ List.Forall₂ (CutAt '+') pieces rdns

/-- The parts of a text are written in another way, each relative name for itself. -/
def Respelled (text other : List Char) : Prop :=
  ∃ rdns others, CutInParts text rdns ∧ CutInParts other others ∧
    List.Forall₂ RdnRespelled rdns others

theorem PartRespelled.componentOf_eq {part other : List Char} (h : PartRespelled part other) :
    componentOf part = componentOf other := by
  cases h with
  | @blanks type value type' value' h htype hvalue =>
    have hnot : '=' ∉ type' := by
      obtain ⟨front, back, rfl, hfront, hback⟩ := htype
      have hequals : isBlank '=' = false := by decide
      simp [not_mem_of_blank hequals hfront, h, not_mem_of_blank hequals hback]
    rw [componentOf_sides h, componentOf_sides hnot, htype.trim_eq, hvalue.trim_eq]
  | @case type type' h htype value =>
    have hmark : IsMark '=' := by decide
    have hnot : '=' ∉ type' := by
      rw [← List.contains_iff_mem, ← contains_fold hmark, ← htype, contains_fold hmark,
        List.contains_iff_mem]
      exact h
    rw [componentOf_sides h, componentOf_sides hnot, ← trim_fold, ← trim_fold, htype]

theorem RdnRespelled.componentsOf_eq {parts others : List (List Char)}
    (h : RdnRespelled parts others) : componentsOf parts = componentsOf others := by
  obtain ⟨moved, hmoved, hothers⟩ := h
  have heqv {part other : List Char} (h : Relation.EqvGen PartRespelled part other) :
      componentOf part = componentOf other := by
    induction h with
    | rel _ _ h => exact h.componentOf_eq
    | refl _ => rfl
    | symm _ _ _ ih => exact ih.symm
    | trans _ _ _ _ _ ih ih' => exact ih.trans ih'
  rw [componentsOf, componentsOf, Multiset.coe_eq_coe]
  have hsame := map_eq_map_of_forall₂ (f := componentOf) (fun _ _ h => heqv h) hothers
  exact hsame ▸ hmoved.map componentOf

/-- The components of a name that was read are those of its text as it stands. -/
theorem components_of_cut {text : String} {name : Dn} (h : parse text = .ok name)
    {rdns : List (List (List Char))} (hcut : CutInParts text.toList rdns) :
    name.rdns.map Rdn.components = rdns.map componentsOf := by
  obtain ⟨pieces, hspells⟩ := parse_eq_ok.mp h
  obtain ⟨found, hfound, hparts⟩ := hcut
  obtain rfl := hspells.cut.unique (by decide) hfound
  have htexts := hspells.texts
  have hread := hspells.read
  generalize name.rdns = read at htexts hread
  clear hspells hfound
  induction hparts generalizing read with
  | nil =>
    obtain rfl := List.map_eq_nil_iff.mp htexts.symm
    rfl
  | @cons piece parts pieces rdns hpiece _ ih =>
    obtain ⟨rdn, rest, rfl, htext, hrest⟩ := List.map_eq_cons_iff.mp htexts.symm
    obtain ⟨hrdn, hrdns⟩ := List.forall_mem_cons.mp hread
    -- the piece is the text of the relative name between blanks, and so are the parts of both
    obtain ⟨hcut, -⟩ := hrdn.parts_read
    rw [htext] at hcut
    obtain ⟨others, hothers, hpadded⟩ := hcut.padded (by decide) (padded_trim piece)
    obtain rfl := hothers.unique (by decide) hpiece
    have hsame := map_eq_map_of_forall₂ (fun _ _ h => componentOf_padded h) hpadded
    rw [List.map_cons, List.map_cons, ih rest hrest.symm hrdns, Rdn.components, componentsOf, hsame,
      componentsOf]

/-- A name written in another way has the same components. -/
theorem keys_of_respelled {a a' : String} {x x' : Dn} (ha : parse a = .ok x)
    (ha' : parse a' = .ok x') (h : Respelled a.toList a'.toList) : x.keys = x'.keys := by
  obtain ⟨rdns, others, hrdns, hothers, hrespelled⟩ := h
  have hread := isRead_of_parse ha
  have hread' := isRead_of_parse ha'
  apply same_iff.mp
  rw [same_iff_map (f := Rdn.components) fun a ha b hb =>
    (hread a ha).components_inj (hread' b hb), components_of_cut ha hrdns,
    components_of_cut ha' hothers]
  exact map_eq_map_of_forall₂ (fun _ _ h => h.componentsOf_eq) hrespelled

/-- What a name is compared by is found from the texts of its relative names without leaving a part
out: each text can be cut, and each part is an assertion.  Names are the same just if they have as
many relative names and, one by one, the same components, each as many times; and just if the sorted
normal forms are equal.  So a name can take the place of another one if its text is the same up to
blanks next to commas, plus signs and first equals signs, ASCII case in types and the order of parts
within a relative name. -/
theorem components_decide {a b : String} {x y : Dn} (ha : parse a = .ok x) (hb : parse b = .ok y) :
    (∀ rdn ∈ x.rdns, splitUnescaped '+' rdn.text = some rdn.parts ∧
      ∀ part ∈ rdn.parts, ∃ assertion, Assertion.parse part = .ok assertion ∧
        componentOf part = some assertion.key) ∧
    (same x y = true ↔ x.rdns.length = y.rdns.length ∧
      ∀ i, ∀ hi : i < x.rdns.length, ∀ hi' : i < y.rdns.length,
        x.rdns[i].components = y.rdns[i].components) ∧
    (same x y = true ↔ x.rdns.length = y.rdns.length ∧ x.normalForm = y.normalForm) ∧
    ∀ a' x', parse a' = .ok x' → Respelled a.toList a'.toList →
      same x' y = same x y ∧ same y x' = same y x := by
  have hx := isRead_of_parse ha
  have hy := isRead_of_parse hb
  refine ⟨?_, ?_, ?_, ?_⟩
  · intro rdn hrdn
    obtain ⟨hcut, hparts⟩ := (hx rdn hrdn).parts_read
    refine ⟨(splitUnescaped_eq_some (by decide)).mpr hcut, fun part hpart => ?_⟩
    obtain ⟨i, hi, rfl⟩ := List.getElem_of_mem hpart
    have hassertion := hparts.get hi (hparts.length_eq ▸ hi)
    exact ⟨_, hassertion, componentOf_parse hassertion⟩
  · rw [same_iff_map (f := Rdn.components) fun a ha b hb => (hx a ha).components_inj (hy b hb),
      List.ext_getElem_iff]
    simp only [List.length_map, List.getElem_map]
  · rw [same_iff_map (f := Rdn.sortedKeys) fun a ha b hb => (hx a ha).sortedKeys_inj (hy b hb)]
    refine ⟨fun h => ⟨?_, h⟩, fun h => h.2⟩
    simpa using congrArg List.length h
  · intro a' x' ha' hrespelled
    have hkeys := keys_of_respelled ha ha' hrespelled
    constructor <;> rw [Bool.eq_iff_iff, same_iff, same_iff, hkeys]

/-- The parts of the first relative name trade places, one with blanks at its equals sign and the
other with a type in small letters, and a blank comes before the comma. -/
theorem respelled_person :
    Respelled "SN=b\\ c+cn=a,dc=org".toList "cn = a+sn=b\\ c ,dc=org".toList := by
  have hblank : ∀ c ∈ [' '], isBlank c = true := List.forall_mem_singleton.mpr (by decide)
  have hsn : Relation.EqvGen PartRespelled (['S', 'N'] ++ '=' :: ['b', '\\', ' ', 'c'])
      (['s', 'n'] ++ '=' :: ['b', '\\', ' ', 'c', ' ']) :=
    .trans _ (['s', 'n'] ++ '=' :: ['b', '\\', ' ', 'c']) _
      (.rel _ _ (.case (by decide) (by decide) _))
      (.rel _ _ (.blanks (by decide) (.refl _) (.behind _ hblank)))
  have hcn : Relation.EqvGen PartRespelled (['c', 'n'] ++ '=' :: ['a'])
      (['c', 'n', ' '] ++ '=' :: [' ', 'a']) :=
    .rel _ _ (.blanks (by decide) (.behind _ hblank) (.before _ hblank))
  have hcut {mark : Char} {text : List Char} {pieces : List (List Char)} (hmark : mark ≠ '\\')
      (h : splitUnescaped mark text = some pieces) : CutAt mark text pieces :=
    (splitUnescaped_eq_some hmark).mp h
  have hdc : CutAt '+' "dc=org".toList [['d', 'c', '=', 'o', 'r', 'g']] := hcut (by decide) rfl
  refine ⟨_, _, ⟨_, hcut (by decide) rfl, .cons (hcut (by decide) rfl) (.cons hdc .nil)⟩,
    ⟨_, hcut (by decide) rfl, .cons (hcut (by decide) rfl) (.cons hdc .nil)⟩, ?_⟩
  have hperson := List.Forall₂.cons hcn (.cons hsn .nil)
  exact .cons ⟨_, .swap _ _ [], hperson⟩ (.cons ⟨_, .refl _, .cons (.refl _) .nil⟩ .nil)

theorem respelled_person_same :
    let x : Dn := ⟨[⟨"SN=b\\ c+cn=a".toList,
      [⟨"SN".toList, "b\\ c".toList⟩, ⟨"cn".toList, "a".toList⟩]⟩,
      ⟨"dc=org".toList, [⟨"dc".toList, "org".toList⟩]⟩]⟩
    let x' : Dn := ⟨[⟨"cn = a+sn=b\\ c".toList,
      [⟨"cn".toList, "a".toList⟩, ⟨"sn".toList, "b\\ c".toList⟩]⟩,
      ⟨"dc=org".toList, [⟨"dc".toList, "org".toList⟩]⟩]⟩
    let y : Dn := ⟨[⟨"CN=A+SN=B\\20C".toList,
      [⟨"CN".toList, "A".toList⟩, ⟨"SN".toList, "B\\20C".toList⟩]⟩,
      ⟨"DC=ORG".toList, [⟨"DC".toList, "ORG".toList⟩]⟩]⟩
    parse "SN=b\\ c+cn=a,dc=org" = .ok x ∧ parse "cn = a+sn=b\\ c ,dc=org" = .ok x' ∧
      parse "CN=A+SN=B\\20C,DC=ORG" = .ok y ∧ x.normalForm = y.normalForm ∧
      same x y = true ∧ same x' y = true := by
  intro x x' y
  have hx : parse "SN=b\\ c+cn=a,dc=org" = .ok x := by decide +kernel
  have hx' : parse "cn = a+sn=b\\ c ,dc=org" = .ok x' := by decide +kernel
  have hy : parse "CN=A+SN=B\\20C,DC=ORG" = .ok y := by decide +kernel
  have hsame : same x y = true := by decide +kernel
  obtain ⟨-, -, hnormal, hrespelled⟩ := components_decide hx hy
  have hreplace := (hrespelled _ x' hx' respelled_person).1
  exact ⟨hx, hx', hy, (hnormal.mp hsame).2, hsame, hreplace.trans hsame⟩

end LdapClient.Dn
