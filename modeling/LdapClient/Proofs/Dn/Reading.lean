/-
# LdapClient.Proofs.Dn.Reading -- reading a name from its parts

Names are read from what they are put together from: `IsPlainType.parse_assertion`,
`Rdn.parse_intercalate` and `parseChars_intercalate` give the reading of a joined text by the
readings of the parts.  Blanks are dropped at each of the three levels, so each needs to know that
there are none at its ends; the ends of a joined text are those of its first and its last piece
(`Pieces.begins_joined`, `Pieces.joined_eq`).

Where every relative name is a single assertion that needs no reading of its own,
`parseChars_clean` says at once what is read.  `commonName` is such a name around one value.
-/
import LdapClient.Dn.Basic
import LdapClient.Proofs.Dn.Split
import LdapClient.Proofs.Text.Trim

namespace LdapClient.Dn

open Text

/-! ## The front of a text -/

/-- Something that can be seen stands in front. -/
def Begins (text : List Char) : Prop :=
  ∃ c rest, text = c :: rest ∧ isBlank c = false

theorem Begins.append {text : List Char} (h : Begins text) (more : List Char) :
    Begins (text ++ more) := by
  obtain ⟨c, rest, rfl, hc⟩ := h
  exact ⟨c, rest ++ more, rfl, hc⟩

theorem Begins.ne_nil {text : List Char} (h : Begins text) : text ≠ [] := by
  obtain ⟨c, rest, rfl, -⟩ := h
  exact List.cons_ne_nil c rest

theorem Begins.tight {text : List Char} (h : Begins text)
    (hback : ∀ c ∈ text.getLast?, isBlank c = false) : Tight text := by
  obtain ⟨c, rest, rfl, hc⟩ := h
  refine ⟨?_, hback⟩
  rintro _ ⟨rfl⟩
  exact hc

/-! ## Joined texts -/

/-- There are pieces, each of them begins with something that can be seen and has its escapes
finished, and this is the last one. -/
structure Pieces (pieces : List (List Char)) (last : List Char) : Prop where
  last_eq : pieces.getLast? = some last
  begins : ∀ piece ∈ pieces, Begins piece
  whole : ∀ piece ∈ pieces, Whole [] piece

theorem pieces_map {α : Type} {text : α → List Char} {parts : List α} (hne : parts ≠ [])
    (hbegins : ∀ part ∈ parts, Begins (text part))
    (hwhole : ∀ part ∈ parts, Whole [] (text part)) :
    Pieces (parts.map text) (text (parts.getLast hne)) where
  last_eq := by
    rw [List.getLast?_map, List.getLast?_eq_some_getLast hne]
    rfl
  begins := List.forall_mem_map.mpr hbegins
  whole := List.forall_mem_map.mpr hwhole

namespace Pieces

variable {mark : Char} {pieces : List (List Char)} {last : List Char}

theorem ne_nil (h : Pieces pieces last) : pieces ≠ [] :=
  List.ne_nil_of_mem (List.mem_of_getLast? h.last_eq)

/-- What is joined begins like the first piece. -/
theorem begins_joined (h : Pieces pieces last) : Begins ([mark].intercalate pieces) := by
  cases pieces with
  | nil => exact absurd rfl h.ne_nil
  | cons piece rest =>
    have hpiece := h.begins piece List.mem_cons_self
    cases rest with
    | nil => rwa [List.intercalate_singleton]
    | cons next rest =>
      rw [List.intercalate_cons_cons, List.append_assoc]
      exact hpiece.append _

/-- What is joined ends with the last piece. -/
theorem joined_eq (h : Pieces pieces last) (hmark : mark ≠ '\\') :
    ∃ before, Whole [] before ∧ [mark].intercalate pieces = before ++ last :=
  Whole.intercalate_last hmark h.last_eq h.whole

theorem tight_joined (h : Pieces pieces last) (hmark : mark ≠ '\\') (htight : Tight last) :
    Tight ([mark].intercalate pieces) := by
  refine h.begins_joined.tight ?_
  obtain ⟨before, -, heq⟩ := h.joined_eq hmark
  have hne := (h.begins last (List.mem_of_getLast? h.last_eq)).ne_nil
  rw [heq, List.getLast?_append_of_ne_nil _ hne]
  exact htight.back

end Pieces

/-! ## Assertions -/

/-- An attribute type that is written as it is: there are no blanks in it, and nothing that means
something in a name. -/
structure IsPlainType (type : List Char) : Prop where
  nonempty : type ≠ []
  plain : ∀ c ∈ type, isBlank c = false ∧ c ∉ [',', '+', '=', '\\']

namespace IsPlainType

variable {type : List Char}

theorem begins (h : IsPlainType type) : Begins type := by
  cases htype : type with
  | nil => exact absurd htype h.nonempty
  | cons c rest => exact ⟨c, rest, rfl, (h.plain c (by rw [htype]; exact List.mem_cons_self)).1⟩

theorem tight (h : IsPlainType type) : Tight type where
  front c hc := (h.plain c (List.mem_of_mem_head? hc)).1
  back c hc := (h.plain c (List.mem_of_mem_getLast? hc)).1

theorem whole (h : IsPlainType type) : Whole [',', '+'] type := by
  apply Whole.of_forall
  intro c hc
  have hplain := (h.plain c hc).2
  simp only [List.mem_cons, List.not_mem_nil, or_false, not_or] at hplain ⊢
  exact ⟨hplain.2.2.2, hplain.1, hplain.2.1⟩

/-- No blank stands at the ends of an assertion if none stands at the end of its value. -/
theorem tight_assertion (h : IsPlainType type) {value : List Char} (hvalue : Tight value)
    (hne : value ≠ []) : Tight (type ++ '=' :: value) := by
  have hassertion := h.tight.enclose hvalue h.nonempty hne ['=']
  rwa [List.append_assoc, List.singleton_append] at hassertion

theorem parse_assertion (h : IsPlainType type) {value : List Char} (hvalue : trim value ≠ []) :
    Assertion.parse (type ++ '=' :: value) = .ok ⟨type, trim value⟩ := by
  have hequals : '=' ∉ type := fun hmem => (h.plain _ hmem).2 (by simp)
  have hbackslash : '\\' ∉ type := fun hmem => (h.plain _ hmem).2 (by simp)
  rw [Assertion.parse, cutOnce_append hequals]
  simp [h.tight.trim_eq, h.nonempty, hvalue, hbackslash]

end IsPlainType

/-! ## Names -/

theorem Rdn.pieces_intercalate {mark : Char} (hne : mark ≠ '\\') {pieces : List (List Char)}
    (hpieces : pieces ≠ []) (h : ∀ piece ∈ pieces, Whole [mark] piece) :
    Rdn.pieces mark ([mark].intercalate pieces) = .ok pieces := by
  rw [Rdn.pieces, split_intercalate (List.mem_singleton_self mark) hne hpieces h]

/-- Assertions that can be read one by one can be read together. -/
theorem Rdn.assertionsOf_ok {parts : List (List Char)}
    (h : ∀ part ∈ parts, ∃ assertion, Assertion.parse part = .ok assertion) :
    ∃ assertions, Rdn.assertionsOf parts = .ok assertions := by
  induction parts with
  | nil => exact ⟨[], rfl⟩
  | cons part parts ih =>
    obtain ⟨assertion, hpart⟩ := h part List.mem_cons_self
    obtain ⟨assertions, hparts⟩ := ih fun p hp => h p (List.mem_cons_of_mem part hp)
    exact ⟨assertion :: assertions, by rw [Rdn.assertionsOf, hpart, hparts]⟩

/-- A relative name is read from its parts. -/
theorem Rdn.parse_intercalate {parts : List (List Char)} (hparts : parts ≠ [])
    (h : ∀ part ∈ parts, Whole ['+'] part) :
    Rdn.parse (['+'].intercalate parts) =
      (Rdn.assertionsOf parts).map (Rdn.mk (['+'].intercalate parts)) := by
  rw [Rdn.parse, Rdn.pieces_intercalate (by decide) hparts h]
  dsimp only
  cases Rdn.assertionsOf parts <;> rfl

theorem Rdn.parse_open {text : List Char} (h : Whole [] text) :
    Rdn.parse (text ++ ['\\']) = .error .unterminatedEscape := by
  rw [Rdn.parse, Rdn.pieces, h.split_open]

/-- Relative names that can be read as they are written can be read together. -/
theorem Rdn.parseAll_ok {texts : List (List Char)}
    (h : ∀ text ∈ texts, ∃ rdn, Rdn.parse (trim text) = .ok rdn ∧ rdn.text = text) :
    ∃ rdns, Rdn.parseAll texts = .ok rdns ∧ rdns.map Rdn.text = texts := by
  induction texts with
  | nil => exact ⟨[], rfl, rfl⟩
  | cons text texts ih =>
    obtain ⟨rdn, hparse, htext⟩ := h text List.mem_cons_self
    obtain ⟨rdns, hall, htexts⟩ := ih fun t ht => h t (List.mem_cons_of_mem text ht)
    refine ⟨rdn :: rdns, by rw [Rdn.parseAll, hparse, hall], ?_⟩
    rw [List.map_cons, htext, htexts]

/-- The first relative name that cannot be read decides. -/
theorem Rdn.parseAll_error {texts : List (List Char)} {fault : Fault}
    (hall : ∀ text ∈ texts, (∃ rdn, Rdn.parse (trim text) = .ok rdn) ∨
      Rdn.parse (trim text) = .error fault)
    (hsome : ∃ text ∈ texts, Rdn.parse (trim text) = .error fault) :
    Rdn.parseAll texts = .error fault := by
  induction texts with
  | nil =>
    obtain ⟨text, hmem, -⟩ := hsome
    contradiction
  | cons text texts ih =>
    rcases hall text List.mem_cons_self with ⟨rdn, hparse⟩ | hparse
    · -- this one can be read, so the one that cannot is further on
      have hrest : ∃ t ∈ texts, Rdn.parse (trim t) = .error fault := by
        obtain ⟨t, hmem, ht⟩ := hsome
        rcases List.mem_cons.mp hmem with rfl | hmem
        · rw [hparse] at ht
          contradiction
        · exact ⟨t, hmem, ht⟩
      rw [Rdn.parseAll, hparse, ih (fun t ht => hall t (List.mem_cons_of_mem text ht)) hrest]
    · rw [Rdn.parseAll, hparse]

/-- A name is read from its relative names. -/
theorem parseChars_intercalate {texts : List (List Char)} (htexts : texts ≠ [])
    (h : ∀ text ∈ texts, Whole [','] text) (htight : Tight ([','].intercalate texts))
    (hne : [','].intercalate texts ≠ []) :
    parseChars ([','].intercalate texts) = (Rdn.parseAll texts).map Dn.mk := by
  rw [parseChars, htight.trim_eq, if_neg (by rwa [List.isEmpty_iff]),
    Rdn.pieces_intercalate (by decide) htexts h]
  dsimp only
  cases Rdn.parseAll texts <;> rfl

/-! ## Names of single assertions -/

/-- An assertion as it is written. -/
def Assertion.text (assertion : Assertion) : List Char :=
  assertion.type ++ '=' :: assertion.value

/-- An assertion that can be written as it is. -/
structure Assertion.IsClean (assertion : Assertion) : Prop where
  plain : IsPlainType assertion.type
  whole : Whole [',', '+'] assertion.value
  tight : Tight assertion.value
  nonempty : assertion.value ≠ []

namespace Assertion.IsClean

variable {assertion : Assertion} (h : assertion.IsClean)

include h

theorem text_whole : Whole [',', '+'] assertion.text :=
  h.plain.whole.append (.char (by decide) (by decide) h.whole)

theorem text_tight : Tight assertion.text :=
  h.plain.tight_assertion h.tight h.nonempty

theorem text_begins : Begins assertion.text :=
  h.plain.begins.append _

/-- It is read as a relative name of its own. -/
theorem parse_text : Rdn.parse (trim assertion.text) = .ok ⟨assertion.text, [assertion]⟩ := by
  have hassertion : Assertion.parse assertion.text = .ok assertion := by
    rw [Assertion.text, h.plain.parse_assertion (by rw [h.tight.trim_eq]; exact h.nonempty),
      h.tight.trim_eq]
  rw [h.text_tight.trim_eq, Rdn.parse, Rdn.pieces, h.text_whole.split_self (by simp)]
  simp [Rdn.assertionsOf, hassertion]

end Assertion.IsClean

theorem Rdn.parseAll_clean {assertions : List Assertion}
    (h : ∀ assertion ∈ assertions, assertion.IsClean) :
    Rdn.parseAll (assertions.map Assertion.text) =
      .ok (assertions.map fun assertion => ⟨assertion.text, [assertion]⟩) := by
  induction assertions with
  | nil => rfl
  | cons assertion assertions ih =>
    have hrest := ih fun a ha => h a (List.mem_cons_of_mem assertion ha)
    rw [List.map_cons, Rdn.parseAll, (h assertion List.mem_cons_self).parse_text, hrest]
    rfl

/-- A name of clean assertions is read as it is written. -/
theorem parseChars_clean {assertions : List Assertion} (hne : assertions ≠ [])
    (h : ∀ assertion ∈ assertions, assertion.IsClean) :
    parseChars ([','].intercalate (assertions.map Assertion.text)) =
      .ok ⟨assertions.map fun assertion => ⟨assertion.text, [assertion]⟩⟩ := by
  have hpieces := pieces_map hne (fun a ha => (h a ha).text_begins)
    fun a ha => (h a ha).text_whole.mono (List.nil_subset _)
  have hwhole : ∀ text ∈ assertions.map Assertion.text, Whole [','] text :=
    List.forall_mem_map.mpr fun a ha => (h a ha).text_whole.mono (by simp)
  have htight : Tight ([','].intercalate (assertions.map Assertion.text)) :=
    hpieces.tight_joined (by decide) (h _ (List.getLast_mem hne)).text_tight
  rw [parseChars_intercalate hpieces.ne_nil hwhole htight hpieces.begins_joined.ne_nil,
    Rdn.parseAll_clean h]
  rfl

/-! ## Names of one value -/

/-- The name of the entry below `dc=org` that has this common name. -/
def commonName (value : List Char) : String :=
  "cn=" ++ String.ofList value ++ ",dc=org"

/-- The assertions in the name of the entry. -/
def commonNameAssertions (value : List Char) : List Assertion :=
  [⟨['c', 'n'], value⟩, ⟨['d', 'c'], ['o', 'r', 'g']⟩]

/-- The value can be written as it is. -/
def IsCleanValue (value : List Char) : Prop :=
  Assertion.IsClean ⟨['c', 'n'], value⟩

theorem isCleanValue {value : List Char} (hwhole : Whole [',', '+'] value) (htight : Tight value)
    (hne : value ≠ []) : IsCleanValue value where
  plain := ⟨List.cons_ne_nil _ _, by simp [isBlank]⟩
  whole := hwhole
  tight := htight
  nonempty := hne

section

variable {value : List Char} (h : IsCleanValue value)

include h

/-- The name is read as the value below its parent. -/
theorem parse_commonName : parse (commonName value) =
    .ok ⟨(commonNameAssertions value).map fun assertion => ⟨assertion.text, [assertion]⟩⟩ := by
  have htext : (commonName value).toList =
      [','].intercalate ((commonNameAssertions value).map Assertion.text) := by
    simp [commonName, commonNameAssertions, Assertion.text, String.toList_append,
      String.toList_ofList]
  have hne : commonNameAssertions value ≠ [] := List.cons_ne_nil _ _
  rw [Dn.parse, htext, parseChars_clean hne]
  refine List.forall_mem_cons.mpr ⟨h, List.forall_mem_singleton.mpr ?_⟩
  exact ⟨⟨by decide, by simp [isBlank]⟩, .of_forall (by simp),
    ⟨by simp [isBlank], by simp [isBlank]⟩, by decide⟩

/-- Such names are the same just if the values have the same normal value. -/
theorem sameText_commonName {other : List Char} (hother : IsCleanValue other) :
    sameText (commonName value) (commonName other) = true ↔
      Assertion.normalValue value = Assertion.normalValue other := by
  rw [sameText, parse_commonName h, parse_commonName hother]
  simp [same, commonNameAssertions, Rdn.sameAll, Rdn.same, Assertion.key, List.isPerm_iff]

end

end LdapClient.Dn
