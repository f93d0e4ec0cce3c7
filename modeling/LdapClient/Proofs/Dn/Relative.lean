/-
# LdapClient.Proofs.Dn.Relative -- texts that are one relative name

`IsRelative` says that a text is read as a distinguished name with one relative name.  The reader
trims, cuts at commas, cuts at plus signs and cuts at equals signs; `isRelative_iff` says what that
comes to: no comma stands in the text without an escape, no escape is left open, and every part
between unescaped plus signs is an assertion.

A cruder look at the text asks only for something before and something behind its first equals sign
(`IsTypeValue`).  Every relative name stands up to it, and of the texts without comma, plus sign and
backslash nothing else does (`IsSingle.isTypeValue`, `IsTypeValue.isSingle`).
-/
import LdapClient.Proofs.Dn.Parsed
import LdapClient.Proofs.Dn.Reading
import LdapClient.Proofs.Text.Fold

namespace LdapClient.Dn

open Text

variable {text padded type value part : List Char}

/-! ## Both sides of an equals sign -/

/-- The first equals sign of the text stands between these two sides, neither of which is blank. -/
structure Sides (type value text : List Char) : Prop where
  written : text = type ++ '=' :: value
  first : '=' ∉ type
  type_nonblank : ∃ c ∈ type, isBlank c = false
  value_nonblank : ∃ c ∈ value, isBlank c = false

theorem Sides.extend (h : Sides type value text) {front : List Char} (hfront : '=' ∉ front)
    (back : List Char) : Sides (front ++ type) (value ++ back) (front ++ text ++ back) where
  written := by simp [h.written]
  first := by simp [hfront, h.first]
  type_nonblank := h.type_nonblank.imp fun _ hc => hc.imp_left (List.mem_append_right front)
  value_nonblank := h.value_nonblank.imp fun _ hc => hc.imp_left (List.mem_append_left back)

/-- What stands before and behind the first equals sign, without blanks at the ends. -/
def sides? (text : List Char) : Option (List Char × List Char) :=
  (cutOnce '=' text).map (Prod.map trim trim)

theorem sides?_eq {type : List Char} (h : '=' ∉ type) (value : List Char) :
    sides? (type ++ '=' :: value) = some (trim type, trim value) := by
  rw [sides?, cutOnce_append h]
  rfl

/-- Blanks around a text are blanks around its sides. -/
theorem sides?_padded (h : Padded text padded) : sides? padded = sides? text := by
  obtain ⟨front, back, rfl, hfront, hback⟩ := h
  have hequals : isBlank '=' = false := by decide
  have hnotFront := not_mem_of_blank hequals hfront
  have hnotBack := not_mem_of_blank hequals hback
  by_cases hmem : '=' ∈ text
  · obtain ⟨type, value, rfl, htype⟩ := List.eq_append_cons_of_mem hmem
    have hall : front ++ (type ++ '=' :: value) ++ back =
        (front ++ type) ++ '=' :: (value ++ back) := by simp
    have hnot : '=' ∉ front ++ type := by simp [hnotFront, htype]
    rw [hall, sides?_eq htype, sides?_eq hnot, (Padded.before type hfront).trim_eq,
      (Padded.behind value hback).trim_eq]
  · have hnot : '=' ∉ front ++ text ++ back := by simp [hnotFront, hmem, hnotBack]
    rw [sides?, sides?, cutOnce_eq_none hmem, cutOnce_eq_none hnot]

/-- Something stands before the first equals sign of the text, and something behind it. -/
def IsTypeValue (text : List Char) : Prop :=
  ∃ type value, Sides type value text

/-- A text of that form without a backslash before its first equals sign. -/
def IsAssertion (text : List Char) : Prop :=
  ∃ type value, Sides type value text ∧ '\\' ∉ type

theorem IsAssertion.isTypeValue (h : IsAssertion text) : IsTypeValue text :=
  let ⟨type, value, hsides, _⟩ := h
  ⟨type, value, hsides⟩

theorem isTypeValue_iff :
    IsTypeValue text ↔ ∃ type value, sides? text = some (type, value) ∧ type ≠ [] ∧ value ≠ [] := by
  constructor
  · rintro ⟨type, value, rfl, hfirst, htype, hvalue⟩
    exact ⟨trim type, trim value, sides?_eq hfirst value, trim_ne_nil htype, trim_ne_nil hvalue⟩
  · rintro ⟨_, _, hsides, htype, hvalue⟩
    obtain ⟨⟨type, value⟩, hcut, heq⟩ := Option.map_eq_some_iff.mp hsides
    cases heq
    obtain ⟨htext, hfirst⟩ := cutOnce_eq_some.mp hcut
    exact ⟨type, value, htext, hfirst, trim_ne_nil_iff.mp htype, trim_ne_nil_iff.mp hvalue⟩

theorem isTypeValue_padded (h : Padded text padded) : IsTypeValue padded ↔ IsTypeValue text := by
  rw [isTypeValue_iff, isTypeValue_iff, sides?_padded h]

/-- The parts that are read are the assertions. -/
theorem Assertion.exists_parse_iff :
    (∃ assertion, Assertion.parse part = .ok assertion) ↔ IsAssertion part := by
  have hcontains (type : List Char) : (trim type).contains '\\' = true ↔ '\\' ∈ type := by
    rw [List.contains_iff_mem, ← List.count_pos_iff, count_trim (by decide), List.count_pos_iff]
  constructor
  · rintro ⟨assertion, h⟩
    unfold Assertion.parse at h
    split at h
    · cases h
    · rename_i type value hcut
      obtain ⟨htext, hfirst⟩ := cutOnce_eq_some.mp hcut
      split at h
      · cases h
      · rename_i hrefused
        simp only [Bool.or_eq_true, List.isEmpty_iff, hcontains, not_or] at hrefused
        obtain ⟨⟨htype, hvalue⟩, hbackslash⟩ := hrefused
        exact ⟨type, value, ⟨htext, hfirst, trim_ne_nil_iff.mp htype, trim_ne_nil_iff.mp hvalue⟩,
          hbackslash⟩
  · rintro ⟨type, value, ⟨htext, hfirst, htype, hvalue⟩, hbackslash⟩
    refine ⟨⟨trim type, trim value⟩, ?_⟩
    rw [Assertion.parse, cutOnce_eq_some.mpr ⟨htext, hfirst⟩]
    refine if_neg ?_
    simp only [Bool.or_eq_true, List.isEmpty_iff, hcontains, not_or]
    exact ⟨⟨trim_ne_nil htype, trim_ne_nil hvalue⟩, hbackslash⟩

/-! ## One relative name -/

/-- The text is read as a distinguished name with one relative name. -/
def IsRelative (text : String) : Prop :=
  ∃ rdn, parse text = .ok ⟨[rdn]⟩

/-- No comma stands in the text without an escape, no escape is left open at its end, and its parts
between unescaped plus signs are assertions. -/
structure IsSingle (text : List Char) : Prop where
  whole : Whole [','] (trim text)
  parts : ∃ parts, CutAt '+' (trim text) parts ∧ ∀ part ∈ parts, IsAssertion part

theorem Rdn.exists_assertionsOf_iff {parts : List (List Char)} :
    (∃ assertions, Rdn.assertionsOf parts = .ok assertions) ↔ ∀ part ∈ parts, IsAssertion part := by
  constructor
  · rintro ⟨assertions, h⟩
    have hread := Rdn.assertionsOf_eq_ok.mp h
    clear h
    induction hread with
    | nil => exact List.forall_mem_nil _
    | cons hpart _ ih =>
      have hassertion := Assertion.exists_parse_iff.mp ⟨_, hpart⟩
      exact List.forall_mem_cons.mpr ⟨hassertion, ih⟩
  · intro h
    exact Rdn.assertionsOf_ok fun part hpart => Assertion.exists_parse_iff.mpr (h part hpart)

theorem Rdn.exists_parse_iff :
    (∃ rdn, Rdn.parse text = .ok rdn) ↔
      ∃ parts, CutAt '+' text parts ∧ ∀ part ∈ parts, IsAssertion part := by
  constructor
  · rintro ⟨rdn, h⟩
    obtain ⟨-, parts, hcut, hassertions⟩ := Rdn.parse_eq_ok.mp h
    exact ⟨parts, hcut, Rdn.exists_assertionsOf_iff.mp ⟨_, hassertions⟩⟩
  · rintro ⟨parts, hcut, hparts⟩
    obtain ⟨assertions, hassertions⟩ := Rdn.exists_assertionsOf_iff.mpr hparts
    exact ⟨⟨text, assertions⟩, Rdn.parse_eq_ok.mpr ⟨rfl, parts, hcut, hassertions⟩⟩

theorem isRelative_iff {text : String} : IsRelative text ↔ IsSingle text.toList := by
  constructor
  · rintro ⟨rdn, h⟩
    obtain ⟨-, pieces, hcut, hrdns⟩ := parseChars_eq_ok.mp h
    cases Rdn.parseAll_eq_ok.mp hrdns with
    | cons hrdn hnone =>
      cases hnone
      -- the only piece is the trimmed text itself
      have hjoined := hcut.joined
      rw [List.intercalate_singleton] at hjoined
      subst hjoined
      rw [trim_trim] at hrdn
      exact ⟨hcut.whole _ List.mem_cons_self, Rdn.exists_parse_iff.mp ⟨rdn, hrdn⟩⟩
  · rintro ⟨hwhole, hparts⟩
    obtain ⟨rdn, hrdn⟩ := Rdn.exists_parse_iff.mpr hparts
    refine ⟨rdn, parseChars_eq_ok.mpr ⟨(Rdn.text_of_parse hrdn).2.1, [trim text.toList],
      .single hwhole, Rdn.parseAll_eq_ok.mpr (.cons ?_ .nil)⟩⟩
    rwa [trim_trim]

/-! ## The cruder look -/

/-- A text begins with its first piece. -/
theorem CutAt.exists_eq_append {mark : Char} {pieces : List (List Char)} {piece : List Char}
    (h : CutAt mark text (piece :: pieces)) : ∃ rest, text = piece ++ rest := by
  rw [← h.joined]
  cases pieces with
  | nil => exact ⟨[], by rw [List.intercalate_singleton, List.append_nil]⟩
  | cons next pieces => exact ⟨_, by rw [List.intercalate_cons_cons, List.append_assoc]⟩

theorem IsSingle.isTypeValue (h : IsSingle text) : IsTypeValue text := by
  obtain ⟨parts, hcut, hparts⟩ := h.parts
  obtain ⟨part, more, rfl⟩ := List.exists_cons_of_ne_nil hcut.ne_nil
  obtain ⟨rest, htrim⟩ := hcut.exists_eq_append
  obtain ⟨type, value, hsides⟩ := (hparts part List.mem_cons_self).isTypeValue
  have hall : Sides type (value ++ rest) (trim text) := by
    rw [htrim]
    exact hsides.extend List.not_mem_nil rest
  exact (isTypeValue_padded (padded_trim text)).mpr ⟨type, value ++ rest, hall⟩

/-- Commas, plus signs and backslashes are all that the cruder look overlooks. -/
theorem IsTypeValue.isSingle (h : IsTypeValue text) (hplain : ∀ c ∈ text, c ∉ [',', '+', '\\']) :
    IsSingle text := by
  obtain ⟨front, back, htext, -⟩ := exists_trim text
  have htrim : ∀ c ∈ trim text, c ≠ '\\' ∧ c ∉ [',', '+'] := by
    intro c hc
    have hmem : c ∈ text := by rw [htext]; simp [hc]
    simpa [and_assoc, and_comm, and_left_comm] using hplain c hmem
  have hwhole : Whole [',', '+'] (trim text) := .of_forall htrim
  refine ⟨hwhole.mono (by simp), [trim text], .single (hwhole.mono (by simp)), ?_⟩
  obtain ⟨type, value, hsides⟩ := (isTypeValue_padded (padded_trim text)).mp h
  refine List.forall_mem_singleton.mpr ⟨type, value, hsides, fun hmem => ?_⟩
  exact (htrim '\\' (by rw [hsides.written]; simp [hmem])).1 rfl

end LdapClient.Dn
