/-
# LdapClient.Proofs.Entry.Lookup -- names looked up exactly and up to case

An entry may have several attributes whose names differ only in case.  A lookup up to case then
reads one of them, that with the least name (`find?_folded_eq_some_iff`), whichever spelling is
asked for; so it reads the same as the exact lookup under every name that is there if no two names
agree (`find?_folded_eq_exact_iff`).

What is read under a name comes in four forms, a `Reading`.  `lookups_agree` is the main statement:
it holds of everything that can be built, and `Entry` reads the same.
-/
import LdapClient.Proofs.Entry.Parts

namespace LdapClient

open Text

/-! ## Readings -/

/-- What is read under a name: all values, and the first. -/
structure Reading where
  texts : List String
  octets : List Octets
  firstText : String
  firstOctets : Octets
deriving DecidableEq

/-- What is read where there is nothing. -/
def Reading.nothing : Reading :=
  ⟨[], [], "", []⟩

/-- The four forms say the same, place by place. -/
structure Reading.IsCoherent (reading : Reading) : Prop where
  inStep : InStep reading.texts reading.octets
  firstText_eq : reading.firstText = reading.texts[0]?.getD ""
  firstOctets_eq : reading.firstOctets = reading.octets[0]?.getD []
  first_decoded : reading.firstText = lossy reading.firstOctets

/-- What is read of an attribute. -/
def PairedAttribute.reading (a : PairedAttribute) : Reading :=
  ⟨a.texts, a.octets, a.texts[0]?.getD "", a.octets[0]?.getD []⟩

theorem PairedAttribute.isCoherent_reading {a : PairedAttribute} (h : InStep a.texts a.octets) :
    a.reading.IsCoherent where
  inStep := h
  firstText_eq := rfl
  firstOctets_eq := rfl
  first_decoded := by
    change a.texts[0]?.getD "" = lossy (a.octets[0]?.getD [])
    rw [inStep_iff.mp h, List.getElem?_map]
    cases a.octets[0]? <;> rfl

theorem Reading.isCoherent_nothing : nothing.IsCoherent where
  inStep := inStep_iff.mpr rfl
  firstText_eq := rfl
  firstOctets_eq := rfl
  first_decoded := rfl

/-- What an entry reads under a name. -/
def Entry.reading (entry : Entry) (mode : Match) (name : String) : Reading :=
  ⟨entry.values mode name, entry.octets mode name, entry.firstValue mode name,
    entry.firstOctets mode name⟩

namespace PairedEntry

/-- What an entry reads under a name. -/
def reading (entry : PairedEntry) (mode : Match) (name : String) : Reading :=
  ⟨entry.texts mode name, entry.octets mode name, entry.firstText mode name,
    entry.firstOctets mode name⟩

variable {entry : PairedEntry} {mode : Match} {name : String}

/-- All four forms read the attribute that is found. -/
theorem reading_eq : entry.reading mode name =
    ((entry.find? mode name).map PairedAttribute.reading).getD .nothing := by
  rw [reading, firstText, firstOctets, texts, octets]
  cases entry.find? mode name with
  | none => rfl
  | some a => simp [PairedAttribute.reading, List.headD_eq_head?_getD, List.head?_eq_getElem?]

end PairedEntry

theorem Entry.reading_paired (entry : Entry) (mode : Match) (name : String) :
    entry.paired.reading mode name = entry.reading mode name := by
  simp only [PairedEntry.reading, reading, PairedEntry.firstText, PairedEntry.firstOctets,
    firstValue, firstOctets, texts_paired, octets_paired]

/-! ## The least of the names that agree -/

/-- Of the attributes with the name up to ASCII case, the one whose name is least by its octets. -/
structure PairedAttribute.IsLeastFolded (attributes : List PairedAttribute) (name : String)
    (a : PairedAttribute) : Prop where
  mem : a ∈ attributes
  same : sameFolded a.name name = true
  least : ∀ b ∈ attributes, sameFolded b.name name = true →
    b = a ∨ octetsBefore (Text.octets a.name) (Text.octets b.name) = true

namespace PairedEntry

variable {entry : PairedEntry}

theorem find?_folded_eq_some_iff (h : Ascending PairedAttribute.name entry.attributes)
    {name : String} {a : PairedAttribute} :
    entry.find? .folded name = some a ↔
      PairedAttribute.IsLeastFolded entry.attributes name a := by
  refine h.find?_eq_some_iff_least.trans ?_
  simp only [← octetsBefore_octets]
  exact ⟨fun ⟨hmem, hsame, hleast⟩ => ⟨hmem, hsame, hleast⟩,
    fun ⟨hmem, hsame, hleast⟩ => ⟨hmem, hsame, hleast⟩⟩

theorem find?_exact_of_mem (h : Ascending PairedAttribute.name entry.attributes)
    {a : PairedAttribute} (ha : a ∈ entry.attributes) : entry.find? .exact a.name = some a :=
  h.find?_eq_some_iff.mpr ⟨ha, rfl⟩

/-- Both lookups find the same under the names that are there if and only if no two of these names
agree up to case. -/
theorem find?_folded_eq_exact_iff (h : Ascending PairedAttribute.name entry.attributes) :
    (∀ a ∈ entry.attributes, entry.find? .folded a.name = entry.find? .exact a.name) ↔
      entry.attributes.Pairwise fun a b => sameFolded a.name b.name = false := by
  constructor
  · intro hsame
    refine h.imp_of_mem fun {a b} ha hb hbefore => ?_
    rw [octetsBefore_octets] at hbefore
    refine Bool.eq_false_iff.mpr fun hagree => ?_
    -- the name of `b` would find what stands before it
    have hb' := (hsame b hb).trans (find?_exact_of_mem h hb)
    rcases ((find?_folded_eq_some_iff h).mp hb').least a ha hagree with rfl | hbehind
    · exact ne_of_before hbefore rfl
    · rw [octetsBefore_octets, before_asymm hbefore] at hbehind
      contradiction
  · intro hdistinct a ha
    rw [find?_exact_of_mem h ha, find?_folded_eq_some_iff h]
    refine ⟨ha, decide_eq_true rfl, fun b hb hagree => .inl ?_⟩
    by_contra hne
    have hsymm : Std.Symm fun a b : PairedAttribute => sameFolded a.name b.name = false := by
      refine ⟨fun a b hab => ?_⟩
      rw [sameFolded, decide_eq_false_iff_not] at hab ⊢
      exact Ne.symm hab
    have hnot := hdistinct.forall hb ha hne
    rw [hagree] at hnot
    contradiction

/-! ## All lookups -/

/-- What lookups in an entry say of each other. -/
structure LooksUp (entry : PairedEntry) : Prop where
  /-- Up to case, all four forms read the one attribute with the least name that agrees, or nothing
  if none does. -/
  folded : ∀ name,
    (∃ a, PairedAttribute.IsLeastFolded entry.attributes name a ∧
      entry.reading .folded name = a.reading) ∨
    (∀ a ∈ entry.attributes, sameFolded a.name name = false) ∧
      entry.reading .folded name = .nothing
  same_iff :
    (∀ a ∈ entry.attributes, entry.find? .folded a.name = entry.find? .exact a.name) ↔
      entry.attributes.Pairwise fun a b => sameFolded a.name b.name = false
  coherent : ∀ mode name, (entry.reading mode name).IsCoherent

theorem IsBuilt.looksUp (h : entry.IsBuilt) : entry.LooksUp where
  folded := by
    intro name
    rw [reading_eq]
    cases hfind : entry.find? .folded name with
    | none =>
      have hnone := List.find?_eq_none.mp hfind
      exact .inr ⟨fun a ha => Bool.eq_false_iff.mpr (hnone a ha), rfl⟩
    | some a => exact .inl ⟨a, (find?_folded_eq_some_iff h.ascending).mp hfind, rfl⟩
  same_iff := find?_folded_eq_exact_iff h.ascending
  coherent := by
    intro mode name
    rw [reading_eq]
    cases hfind : entry.find? mode name with
    | none => exact Reading.isCoherent_nothing
    | some a =>
      have hmem : a ∈ entry.attributes := List.mem_of_find?_eq_some hfind
      exact PairedAttribute.isCoherent_reading (h.inStep a hmem)

end PairedEntry

theorem Entry.isBuilt_paired (entry : Entry) : entry.paired.IsBuilt :=
  PairedEntry.isBuilt_iff.mpr ⟨entry.ascending_paired, fun _ => inStep_paired⟩

/-- In everything that can be built, lookups up to case read the attribute with the least name that
agrees; they find the same as exact lookups if and only if no two names agree; and the four forms of
what is read go together.  Entries that keep octets alone can be built and read the same. -/
theorem lookups_agree :
    (∀ entry : PairedEntry, entry.IsBuilt → entry.LooksUp) ∧
      ∀ entry : Entry, entry.paired.IsBuilt ∧
        ∀ mode name, entry.paired.reading mode name = entry.reading mode name :=
  ⟨fun _ h => h.looksUp, fun entry => ⟨entry.isBuilt_paired, entry.reading_paired⟩⟩

/-- Two spellings of one name: the small letter stands first in the list, but the capital one first
in the order, and each lookup up to case reads it. -/
theorem spellings_looked_up :
    let plain : Entry := .ofAttributes "cn=jdoe" [.ofText "cn" ["jdoe"], .ofText "CN" ["J", "D"]]
    let entry : PairedEntry :=
      .ofAttributes "cn=jdoe" [.ofTexts "cn" ["jdoe"], .ofTexts "CN" ["J", "D"]]
    plain.paired = entry ∧ entry.IsBuilt ∧
      entry.reading .folded "cN" = ⟨["J", "D"], [[0x4a], [0x44]], "J", [0x4a]⟩ ∧
      (∃ a ∈ entry.attributes, entry.find? .folded a.name ≠ entry.find? .exact a.name) ∧
      (entry.reading .exact "cn").IsCoherent := by
  intro plain entry
  have hplain : plain.paired = entry := by
    refine (Entry.paired_ofAttributes _ _).trans ?_
    simp only [List.map_cons, List.map_nil, Attribute.paired_ofText, entry]
  obtain ⟨hlooks, hreads⟩ := lookups_agree
  obtain ⟨hbuilt, hreading⟩ := hreads plain
  rw [hplain] at hbuilt hreading
  have hentry := hlooks entry hbuilt
  have hreads : plain.reading .folded "cN" = ⟨["J", "D"], [[0x4a], [0x44]], "J", [0x4a]⟩ := by
    decide +kernel
  have hagree : ¬ entry.attributes.Pairwise fun a b => sameFolded a.name b.name = false := by
    rw [← hplain]
    decide +kernel
  rw [← hentry.same_iff] at hagree
  push Not at hagree
  exact ⟨hplain, hbuilt, (hreading _ _).trans hreads, hagree, hentry.coherent _ _⟩

end LdapClient
