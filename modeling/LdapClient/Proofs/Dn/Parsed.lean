/-
# LdapClient.Proofs.Dn.Parsed -- what a name that was read looks like

Reading is taken back here, from a name that was read to the text that it was read from.  Each level
has its lemma: `Rdn.assertionsOf_eq_ok`, `Rdn.parse_eq_ok`, `Rdn.parseAll_eq_ok` and
`parseChars_eq_ok`.

Blanks are dropped before anything is known about escapes, so it takes a look at the next level to
see that no escaped blank is among them: a relative name that lost one ends inside an escape and is
refused.  What is left is the relative name as it stands in the text.  `Leads` says for the first
one what that means, `Leads.unique` that a text has at most one, and `leads_firstRdn` that it is the
one that is kept.
-/
import Mathlib.Data.List.Forall2
import LdapClient.Dn.Basic
import LdapClient.Proofs.Dn.Split
import LdapClient.Proofs.Text.Trim

namespace LdapClient.Dn

open Text

/-! ## Reading taken back -/

theorem Rdn.pieces_eq_ok {mark : Char} (hmark : mark ≠ '\\') {text : List Char}
    {parts : List (List Char)} : Rdn.pieces mark text = .ok parts ↔ CutAt mark text parts := by
  rw [← splitUnescaped_eq_some hmark, Rdn.pieces]
  cases splitUnescaped mark text <;> simp

theorem Rdn.assertionsOf_eq_ok {parts : List (List Char)} {assertions : List Assertion} :
    Rdn.assertionsOf parts = .ok assertions ↔
      List.Forall₂ (fun part assertion => Assertion.parse part = .ok assertion) parts
        assertions := by
  constructor
  · intro h
    induction parts generalizing assertions with
    | nil =>
      cases h
      exact .nil
    | cons part parts ih =>
      unfold Rdn.assertionsOf at h
      split at h
      · cases h
      · split at h
        · cases h
        · rename_i assertion hassertion _ rest hrest
          cases h
          exact .cons hassertion (ih hrest)
  · intro h
    induction h with
    | nil => rfl
    | cons hassertion _ ih => simp only [Rdn.assertionsOf, hassertion, ih]

theorem Rdn.parse_eq_ok {text : List Char} {rdn : Rdn} :
    Rdn.parse text = .ok rdn ↔
      rdn.text = text ∧ ∃ parts, CutAt '+' text parts ∧
        Rdn.assertionsOf parts = .ok rdn.assertions := by
  have hplus : '+' ≠ '\\' := by decide
  constructor
  · intro h
    unfold Rdn.parse at h
    split at h
    · cases h
    · rename_i parts hparts
      split at h
      · cases h
      · cases h
        exact ⟨rfl, parts, (Rdn.pieces_eq_ok hplus).mp hparts, ‹_›⟩
  · rintro ⟨rfl, parts, hparts, hassertions⟩
    simp only [Rdn.parse, (Rdn.pieces_eq_ok hplus).mpr hparts, hassertions]

theorem Rdn.parseAll_eq_ok {texts : List (List Char)} {rdns : List Rdn} :
    Rdn.parseAll texts = .ok rdns ↔
      List.Forall₂ (fun text rdn => Rdn.parse (trim text) = .ok rdn) texts rdns := by
  constructor
  · intro h
    induction texts generalizing rdns with
    | nil =>
      cases h
      exact .nil
    | cons text texts ih =>
      unfold Rdn.parseAll at h
      split at h
      · cases h
      · split at h
        · cases h
        · rename_i rdn hrdn _ rest hrest
          cases h
          exact .cons hrdn (ih hrest)
  · intro h
    induction h with
    | nil => rfl
    | cons hrdn _ ih => simp only [Rdn.parseAll, hrdn, ih]

theorem parseChars_eq_ok {text : List Char} {name : Dn} :
    parseChars text = .ok name ↔
      trim text ≠ [] ∧ ∃ pieces, CutAt ',' (trim text) pieces ∧
        Rdn.parseAll pieces = .ok name.rdns := by
  have hcomma : ',' ≠ '\\' := by decide
  constructor
  · intro h
    unfold parseChars at h
    split at h
    · cases h
    · rename_i hne
      split at h
      · cases h
      · rename_i pieces hpieces
        split at h
        · cases h
        · cases h
          exact ⟨by simpa using hne, pieces, (Rdn.pieces_eq_ok hcomma).mp hpieces, ‹_›⟩
  · rintro ⟨hne, pieces, hpieces, hrdns⟩
    have hnot : ¬ (trim text).isEmpty = true := by simpa using hne
    simp only [parseChars, if_neg hnot, (Rdn.pieces_eq_ok hcomma).mpr hpieces, hrdns]

/-- A relative name that is read is not empty, and all its escapes are finished. -/
theorem Rdn.text_of_parse {text : List Char} {rdn : Rdn} (h : Rdn.parse text = .ok rdn) :
    rdn.text = text ∧ text ≠ [] ∧ Whole [] text := by
  obtain ⟨rfl, parts, hcut, hassertions⟩ := Rdn.parse_eq_ok.mp h
  refine ⟨rfl, ?_, ?_⟩
  · intro hnil
    rw [hnil] at h
    cases h
  · rw [← hcut.joined]
    apply Whole.intercalate (by decide) List.not_mem_nil
    intro part hpart
    exact (hcut.whole part hpart).mono (List.nil_subset _)

/-! ## The leading relative name -/

/-- The text begins with this relative name, as it is written there: between blanks, up to the end
or the first comma without an escape. -/
structure Leads (rdn text : List Char) : Prop where
  ne_nil : rdn ≠ []
  tight : Tight rdn
  whole : Whole [','] rdn
  written : ∃ front back rest, text = front ++ rdn ++ back ++ rest ∧
    (∀ c ∈ front, isBlank c = true) ∧ (∀ c ∈ back, isBlank c = true) ∧
    rest.head? ∈ [none, some ',']

theorem whole_of_blank {marks text : List Char} (hmarks : ∀ mark ∈ marks, isBlank mark = false)
    (h : ∀ c ∈ text, isBlank c = true) : Whole marks text := by
  apply Whole.of_forall
  intro c hc
  constructor
  · rintro rfl
    exact not_mem_of_blank (by decide) h hc
  · intro hmark
    exact not_mem_of_blank (hmarks c hmark) h hc

/-- A piece that loses no escaped blank has no mark without an escape afterwards either. -/
theorem Whole.of_trim {marks piece : List Char} (h : Whole marks piece)
    (htrim : Whole [] (trim piece)) : Whole marks (trim piece) := by
  obtain ⟨front, back, hpiece, hfront, -⟩ := exists_trim piece
  rw [hpiece, List.append_assoc] at h
  -- the blanks in front hold no escape, and by `htrim` those behind are not escaped
  have hrest := ((whole_of_blank (List.forall_mem_nil _) hfront).append_iff.mp h).2
  exact (htrim.append_iff.mp hrest).1

/-- A text begins with one relative name at most. -/
theorem Leads.unique {rdn other text : List Char} (h : Leads rdn text) (hother : Leads other text) :
    rdn = other := by
  obtain ⟨front, back, rest, rfl, hfront, hback, hrest⟩ := h.written
  obtain ⟨front', back', rest', heq, hfront', hback', hrest'⟩ := hother.written
  have hcomma : ∀ mark ∈ [','], isBlank mark = false := List.forall_mem_singleton.mpr (by decide)
  have hwhole {rdn front back : List Char} (hrdn : Whole [','] rdn)
      (hfront : ∀ c ∈ front, isBlank c = true) (hback : ∀ c ∈ back, isBlank c = true) :
      Whole [','] (front ++ rdn ++ back) :=
    ((whole_of_blank hcomma hfront).append hrdn).append (whole_of_blank hcomma hback)
  have hsame : front ++ rdn ++ back = front' ++ other ++ back' :=
    (hwhole h.whole hfront hback).eq_of_append_eq (by decide)
      (hwhole hother.whole hfront' hback') hrest hrest' heq
  calc rdn = trim (front ++ rdn ++ back) := (h.tight.trim_enclosed h.ne_nil hfront hback).symm
    _ = trim (front' ++ other ++ back') := by rw [hsame]
    _ = other := hother.tight.trim_enclosed hother.ne_nil hfront' hback'

/-- The relative name of the first piece leads the text. -/
theorem leads_of_cut {text piece : List Char} {pieces : List (List Char)}
    (hcut : CutAt ',' (trim text) (piece :: pieces)) (hne : trim piece ≠ [])
    (hescapes : Whole [] (trim piece)) : Leads (trim piece) text := by
  obtain ⟨before, after, htext, hbefore, hafter⟩ := exists_trim text
  obtain ⟨front, back, hpiece, hfront, hback⟩ := exists_trim piece
  have hwhole := (hcut.whole piece List.mem_cons_self).of_trim hescapes
  refine ⟨hne, trim_tight piece, hwhole, ?_⟩
  have hbefore' : ∀ c ∈ before ++ front, isBlank c = true :=
    List.forall_mem_append.mpr ⟨hbefore, hfront⟩
  cases pieces with
  | nil =>
    -- the only piece ends with the text, so the blanks behind both are one
    have hjoined := hcut.joined
    rw [List.intercalate_singleton] at hjoined
    refine ⟨before ++ front, back ++ after, [], ?_, hbefore', ?_, by simp⟩
    · calc text = before ++ piece ++ after := by rw [hjoined, ← htext]
        _ = before ++ (front ++ trim piece ++ back) ++ after := by rw [← hpiece]
        _ = before ++ front ++ trim piece ++ (back ++ after) ++ [] := by simp
    · exact List.forall_mem_append.mpr ⟨hback, hafter⟩
  | cons next pieces =>
    have hjoined := hcut.joined
    rw [List.intercalate_cons_cons] at hjoined
    refine ⟨before ++ front, back, ',' :: [','].intercalate (next :: pieces) ++ after, ?_, hbefore',
      hback, by simp⟩
    calc text = before ++ (piece ++ [','] ++ [','].intercalate (next :: pieces)) ++ after := by
          rw [hjoined, ← htext]
      _ = before ++ (front ++ trim piece ++ back ++ [','] ++
            [','].intercalate (next :: pieces)) ++ after := by rw [← hpiece]
      _ = before ++ front ++ trim piece ++ back ++
            (',' :: [','].intercalate (next :: pieces) ++ after) := by simp

/-- The leading relative name of a name that was read stands in front of the text, exactly as it is
written there. -/
theorem leads_firstRdn {text : String} {name : Dn} (h : parse text = .ok name) :
    Leads name.firstRdn.toList text.toList := by
  obtain ⟨-, pieces, hcut, hrdns⟩ := parseChars_eq_ok.mp h
  obtain ⟨piece, more, rfl⟩ := List.exists_cons_of_ne_nil hcut.ne_nil
  obtain ⟨rdns⟩ := name
  cases Rdn.parseAll_eq_ok.mp hrdns with
  | cons hrdn _ =>
    obtain ⟨htext, hne, hescapes⟩ := Rdn.text_of_parse hrdn
    simp only [firstRdn, texts, List.map_cons, htext, String.toList_ofList]
    exact leads_of_cut hcut hne hescapes

end LdapClient.Dn
