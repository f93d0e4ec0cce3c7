/-
# LdapClient.Proofs.Dn.Composition -- names written out and put together

Reading a name drops the blanks at the ends of the text, cuts it and drops the blanks at the ends of
the pieces.  The first of these steps could be left out: `parseChars_iff_cut` says that a text is
read as a name if and only if each of its pieces, cut as it stands, is read as a relative name
without the blanks around it.  Blanks that are escaped make no exception, because a piece that loses
one is refused.

With that, names are put together by putting their pieces one behind the other.  The relative names
of a name that was read are written out and read back as they are, and behind a comma the relative
names of a second name follow those of the first.  The main statement is
`names_read_back_and_join`.
-/
import LdapClient.Proofs.Dn.Parsed
import LdapClient.Proofs.Dn.Sameness
import LdapClient.Proofs.Text.Cut

namespace LdapClient.Dn

open Text

/-! ## Blanks around a text that is cut -/

theorem map_eq_map_of_forall₂ {α β γ : Type} {r : α → β → Prop} {f : α → γ} {g : β → γ}
    (hf : ∀ a b, r a b → f a = g b) {as : List α} {bs : List β} (h : List.Forall₂ r as bs) :
    as.map f = bs.map g := by
  induction h with
  | nil => rfl
  | cons hab _ ih => rw [List.map_cons, List.map_cons, hf _ _ hab, ih]

section

variable {mark : Char} (hmark : isBlank mark = false)

include hmark

theorem whole_of_blanks {blanks : List Char} (h : ∀ c ∈ blanks, isBlank c = true) :
    Whole [mark] blanks :=
  whole_of_blank (List.forall_mem_singleton.mpr hmark) h

/-- Blanks around a text are blanks around its pieces. -/
theorem CutAt.padded {text padded : List Char} {pieces : List (List Char)}
    (h : CutAt mark text pieces) (hpadded : Padded text padded) :
    ∃ others, CutAt mark padded others ∧ List.Forall₂ Padded pieces others := by
  obtain ⟨front, back, rfl, hfront, hback⟩ := hpadded
  -- the blanks behind belong to the last piece, to which the induction goes
  have hbehind : ∃ others, CutAt mark (text ++ back) others ∧
      List.Forall₂ Padded pieces others := by
    obtain ⟨hne, rfl, hwhole⟩ := h
    induction pieces with
    | nil => contradiction
    | cons piece pieces ih =>
      obtain ⟨hpiece, hpieces⟩ := List.forall_mem_cons.mp hwhole
      cases pieces with
      | nil =>
        rw [List.intercalate_singleton]
        exact ⟨[piece ++ back], .single (hpiece.append (whole_of_blanks hmark hback)),
          .cons (.behind piece hback) .nil⟩
      | cons next pieces =>
        obtain ⟨others, hothers, hpad⟩ := ih (List.cons_ne_nil next pieces) hpieces
        refine ⟨piece :: others, ?_, .cons (.refl piece) hpad⟩
        rw [List.intercalate_cons_cons]
        simpa using hothers.cons_piece hpiece
  obtain ⟨others, hothers, hpad⟩ := hbehind
  have hall := hothers.glue (whole_of_blanks hmark hfront)
  rw [← List.append_assoc] at hall
  refine ⟨_, hall, ?_⟩
  cases hpad with
  | nil => exact absurd rfl hothers.ne_nil
  | cons hpiece hrest => exact .cons (hpiece.trans (.before _ hfront)) hrest

/-- The text between the blanks has its pieces without the blanks around them. -/
theorem CutAt.map_trim {text padded : List Char} {pieces others : List (List Char)}
    (h : CutAt mark text pieces) (hpadded : Padded text padded) (hothers : CutAt mark padded others)
    (hescape : mark ≠ '\\') : others.map trim = pieces.map trim := by
  obtain ⟨found, hfound, hpad⟩ := h.padded hmark hpadded
  obtain rfl := hothers.unique hescape hfound
  exact (map_eq_map_of_forall₂ (fun _ _ hpiece => hpiece.trim_eq.symm) hpad).symm

end

/-- Whether a text loses an escaped blank is seen at its last piece. -/
theorem whole_trim_append {before last : List Char} (hbefore : Whole [] before)
    (hne : trim last ≠ []) (htrim : Whole [] (trim last)) :
    trim (before ++ last) ≠ [] ∧ Whole [] (trim (before ++ last)) := by
  obtain ⟨front, back, hfound, hfront, hback⟩ := exists_trim last
  obtain ⟨front', back', htext, hfront', hback'⟩ := exists_trim (before ++ last)
  have hnil : trim (before ++ last) ≠ [] := by
    intro hnil
    rw [hnil, List.append_nil] at htext
    have hall : ∀ c ∈ before ++ last, isBlank c = true := by
      rw [htext]
      exact List.forall_mem_append.mpr ⟨hfront', hback'⟩
    exact hne (trim_eq_nil (List.forall_mem_append.mp hall).2)
  -- both texts end where the blanks at the end begin
  have hend : front' ++ trim (before ++ last) = before ++ (front ++ trim last) := by
    have hleft : trimEnd (before ++ last) = front' ++ trim (before ++ last) := by
      conv_lhs => rw [htext]
      apply trimEnd_append_blanks _ hback'
      rw [List.getLast?_append_of_ne_nil _ hnil]
      exact (trim_tight _).back
    have hright : trimEnd (before ++ last) = before ++ (front ++ trim last) := by
      conv_lhs => rw [hfound, ← List.append_assoc]
      apply trimEnd_append_blanks _ hback
      rw [← List.append_assoc, List.getLast?_append_of_ne_nil _ hne]
      exact (trim_tight _).back
    exact hleft.symm.trans hright
  have hblank : Whole [] front := whole_of_blank (List.forall_mem_nil _) hfront
  have hwhole : Whole [] (front' ++ trim (before ++ last)) := by
    rw [hend]
    exact hbefore.append (hblank.append htrim)
  exact ⟨hnil, ((whole_of_blank (List.forall_mem_nil _) hfront').append_iff.mp hwhole).2⟩

/-! ## Pieces that are read -/

/-- The relative name is what is read of its own text. -/
def Rdn.IsRead (rdn : Rdn) : Prop :=
  Rdn.parse rdn.text = .ok rdn

theorem Rdn.parse_eq_ok_iff_isRead {text : List Char} {rdn : Rdn} :
    Rdn.parse text = .ok rdn ↔ text = rdn.text ∧ rdn.IsRead := by
  constructor
  · intro h
    obtain ⟨rfl, -, -⟩ := Rdn.text_of_parse h
    exact ⟨rfl, h⟩
  · rintro ⟨rfl, h⟩
    exact h

theorem Rdn.parseAll_eq_ok_iff_isRead {pieces : List (List Char)} {rdns : List Rdn} :
    Rdn.parseAll pieces = .ok rdns ↔
      pieces.map trim = rdns.map Rdn.text ∧ ∀ rdn ∈ rdns, rdn.IsRead := by
  rw [Rdn.parseAll_eq_ok]
  constructor
  · intro h
    induction h with
    | nil => exact ⟨rfl, List.forall_mem_nil _⟩
    | cons hrdn _ ih =>
      obtain ⟨htext, hread⟩ := Rdn.parse_eq_ok_iff_isRead.mp hrdn
      exact ⟨congrArg₂ List.cons htext ih.1, List.forall_mem_cons.mpr ⟨hread, ih.2⟩⟩
  · rintro ⟨htexts, hread⟩
    induction rdns generalizing pieces with
    | nil =>
      obtain rfl := List.map_eq_nil_iff.mp htexts
      exact .nil
    | cons rdn rdns ih =>
      obtain ⟨piece, rest, rfl, htext, hrest⟩ := List.map_eq_cons_iff.mp htexts
      obtain ⟨hrdn, hrdns⟩ := List.forall_mem_cons.mp hread
      exact .cons (Rdn.parse_eq_ok_iff_isRead.mpr ⟨htext, hrdn⟩) (ih hrest hrdns)

/-- The pieces of a text, cut as it stands, are these relative names between blanks. -/
structure Spells (text : List Char) (rdns : List Rdn) (pieces : List (List Char)) : Prop where
  cut : CutAt ',' text pieces
  texts : pieces.map trim = rdns.map Rdn.text
  read : ∀ rdn ∈ rdns, rdn.IsRead

/-- A text is read as a name if and only if its pieces are read as relative names. -/
theorem parseChars_iff_cut {text : List Char} {name : Dn} :
    parseChars text = .ok name ↔ ∃ pieces, Spells text name.rdns pieces := by
  have hcomma : ',' ≠ '\\' := by decide
  have hblank : isBlank ',' = false := by decide
  rw [parseChars_eq_ok]
  constructor
  · rintro ⟨-, pieces, hcut, hrdns⟩
    obtain ⟨htexts, hread⟩ := Rdn.parseAll_eq_ok_iff_isRead.mp hrdns
    obtain ⟨others, hothers, -⟩ := hcut.padded hblank (padded_trim text)
    exact ⟨others, hothers, (hcut.map_trim hblank (padded_trim text) hothers hcomma).trans htexts,
      hread⟩
  · rintro ⟨pieces, hcut, htexts, hread⟩
    obtain ⟨last, hlast, before, hbefore, rfl⟩ := hcut.exists_last hcomma
    -- the last piece is read, so it loses no escaped blank, and neither does the text
    have hmem : trim last ∈ name.rdns.map Rdn.text := htexts ▸ List.mem_map_of_mem hlast
    obtain ⟨rdn, hrdn, htext⟩ := List.mem_map.mp hmem
    obtain ⟨-, hne, hescapes⟩ := Rdn.text_of_parse (hread rdn hrdn)
    rw [htext] at hne hescapes
    obtain ⟨hnil, hwhole⟩ := whole_trim_append hbefore hne hescapes
    obtain ⟨found, hfound⟩ := hwhole.exists_cutAt ','
    have hsame := hfound.map_trim hblank (padded_trim _) hcut hcomma
    exact ⟨hnil, found, hfound,
      Rdn.parseAll_eq_ok_iff_isRead.mpr ⟨hsame.symm.trans htexts, hread⟩⟩

namespace Spells

variable {text : List Char} {rdns : List Rdn} {pieces : List (List Char)}

/-- Texts with a comma between them spell the relative names of the first and of the second. -/
theorem append (h : Spells text rdns pieces) {other : List Char} {more : List Rdn}
    {others : List (List Char)} (hother : Spells other more others) :
    Spells (text ++ ',' :: other) (rdns ++ more) (pieces ++ others) where
  cut := h.cut.append hother.cut
  texts := by rw [List.map_append, List.map_append, h.texts, hother.texts]
  read := List.forall_mem_append.mpr ⟨h.read, hother.read⟩

/-- The text of a relative name is not cut, and no blanks stand around it. -/
theorem clean (h : Spells text rdns pieces) :
    ∀ rdn ∈ rdns, Whole [','] rdn.text ∧ trim rdn.text = rdn.text := by
  intro rdn hrdn
  have hmem : rdn.text ∈ pieces.map trim := h.texts ▸ List.mem_map_of_mem hrdn
  obtain ⟨piece, hpiece, htext⟩ := List.mem_map.mp hmem
  obtain ⟨-, -, hescapes⟩ := Rdn.text_of_parse (h.read rdn hrdn)
  rw [← htext] at hescapes ⊢
  exact ⟨(h.cut.whole piece hpiece).of_trim hescapes, trim_trim piece⟩

theorem ne_nil (h : Spells text rdns pieces) : rdns ≠ [] := by
  rintro rfl
  exact h.cut.ne_nil (List.map_eq_nil_iff.mp h.texts)

/-- Some of the relative names, written out with commas, are spelled by themselves. -/
theorem sublist (h : Spells text rdns pieces) {some : List Rdn} (hsome : some ≠ [])
    (hsub : some ⊆ rdns) :
    Spells ([','].intercalate (some.map Rdn.text)) some (some.map Rdn.text) where
  cut := ⟨mt List.map_eq_nil_iff.mp hsome, rfl,
    List.forall_mem_map.mpr fun rdn hrdn => (h.clean rdn (hsub hrdn)).1⟩
  texts := by
    rw [List.map_map]
    exact List.map_congr_left fun rdn hrdn => (h.clean rdn (hsub hrdn)).2
  read := fun rdn hrdn => h.read rdn (hsub hrdn)

end Spells

/-! ## Names -/

section Names

variable {x : String} {a : Dn}

theorem parse_eq_ok :
    parse x = .ok a ↔ ∃ pieces, Spells x.toList a.rdns pieces :=
  parseChars_iff_cut

theorem toList_display (a : Dn) :
    a.display.toList = [','].intercalate (a.rdns.map Rdn.text) := by
  rw [display, texts, toList_join, List.map_map]
  exact congrArg _ (List.map_congr_left fun rdn _ => String.toList_ofList)

/-- A name that was read is written out and read back as it is. -/
theorem parse_display (hx : parse x = .ok a) : parse a.display = .ok a := by
  obtain ⟨pieces, hspells⟩ := parse_eq_ok.mp hx
  have hall := hspells.sublist hspells.ne_nil (List.Subset.refl a.rdns)
  rw [← toList_display] at hall
  exact parse_eq_ok.mpr ⟨_, hall⟩

/-- The leading relative name is a name by itself. -/
theorem parse_firstRdn (hx : parse x = .ok a) :
    ∃ first rest, a.rdns = first :: rest ∧ a.firstRdn = String.ofList first.text ∧
      parse a.firstRdn = .ok ⟨[first]⟩ := by
  obtain ⟨pieces, hspells⟩ := parse_eq_ok.mp hx
  obtain ⟨first, rest, hrdns⟩ := List.exists_cons_of_ne_nil hspells.ne_nil
  have hfirst : a.firstRdn = String.ofList first.text := by
    rw [firstRdn, texts, hrdns]
    rfl
  have hmem : [first] ⊆ a.rdns := by simp [hrdns]
  have hsingle := hspells.sublist (List.cons_ne_nil first []) hmem
  rw [List.map_singleton, List.intercalate_singleton] at hsingle
  refine ⟨first, rest, hrdns, hfirst, parse_eq_ok.mpr ⟨[first.text], ?_⟩⟩
  rw [hfirst, String.toList_ofList]
  exact hsingle

/-- Names with a comma between them are a name. -/
theorem parse_append (hx : parse x = .ok a) {y : String} {b : Dn} (hy : parse y = .ok b) :
    parse (x ++ "," ++ y) = .ok ⟨a.rdns ++ b.rdns⟩ := by
  obtain ⟨pieces, hspells⟩ := parse_eq_ok.mp hx
  obtain ⟨others, hother⟩ := parse_eq_ok.mp hy
  have htext : (x ++ "," ++ y).toList = x.toList ++ ',' :: y.toList := by
    simp [String.toList_append]
  refine parse_eq_ok.mpr ⟨pieces ++ others, ?_⟩
  rw [htext]
  exact hspells.append hother

/-- What names the same entry as a name is a name too. -/
theorem exists_parse_of_sameText (hx : parse x = .ok a) {x' : String}
    (h : sameText x x' = true) : ∃ a', parse x' = .ok a' ∧ a.keys = a'.keys := by
  cases hx' : parse x' with
  | error fault =>
    rw [sameText_eq_false (by rw [hx, hx']; exact Bool.false_ne_true.symm)] at h
    contradiction
  | ok a' =>
    rw [sameText, hx, hx'] at h
    exact ⟨a', rfl, same_iff.mp h⟩

end Names

/-- A name that was read is the text that it was read from, cut at its commas and without the blanks
around the pieces; written out, it is read back as it is and names the same entry.  Behind a comma
another name follows: what is read of both is the relative names of the first and then those of the
second, and the leading relative name can take the place of the first.  Both names can be replaced
by others of the same entries. -/
theorem names_read_back_and_join {x y : String} {a b : Dn} (hx : parse x = .ok a)
    (hy : parse y = .ok b) :
    (∃ pieces, CutAt ',' x.toList pieces ∧ pieces.map trim = a.rdns.map Rdn.text) ∧
    (parse a.display = .ok a ∧ sameText a.display x = true) ∧
    parse (x ++ "," ++ y) = .ok ⟨a.rdns ++ b.rdns⟩ ∧
    (∃ first rest, a.rdns = first :: rest ∧ a.firstRdn = String.ofList first.text ∧
      parse (a.firstRdn ++ "," ++ y) = .ok ⟨first :: b.rdns⟩) ∧
    ∀ x' y', sameText x x' = true → sameText y y' = true →
      sameText (x ++ "," ++ y) (x' ++ "," ++ y') = true := by
  refine ⟨?_, ?_, parse_append hx hy, ?_, ?_⟩
  · obtain ⟨pieces, hspells⟩ := parse_eq_ok.mp hx
    exact ⟨pieces, hspells.cut, hspells.texts⟩
  · refine ⟨parse_display hx, ?_⟩
    rw [sameText, parse_display hx, hx]
    exact same_iff.mpr rfl
  · obtain ⟨first, rest, hrdns, hfirst, hparse⟩ := parse_firstRdn hx
    exact ⟨first, rest, hrdns, hfirst, parse_append hparse hy⟩
  · intro x' y' hsame hsame'
    obtain ⟨a', hx', hkeys⟩ := exists_parse_of_sameText hx hsame
    obtain ⟨b', hy', hkeys'⟩ := exists_parse_of_sameText hy hsame'
    rw [sameText, parse_append hx hy, parse_append hx' hy']
    refine same_iff.mpr ?_
    simp only [keys, List.map_append] at hkeys hkeys' ⊢
    rw [hkeys, hkeys']

/-- A relative name of two parts, with an escaped comma and an escaped backslash before a blank, is
put in front of a name with blanks. -/
theorem spaced_names_joined :
    let x := " CN=Smith\\, J + uid=a\\\\ "
    let y := " ou=People , dc=org"
    let x' := "UID=A\\5C+cn=smith\\2C j"
    let y' := "OU=people,DC=Org"
    let a : Dn := ⟨[⟨"CN=Smith\\, J + uid=a\\\\".toList,
      [⟨"CN".toList, "Smith\\, J".toList⟩, ⟨"uid".toList, "a\\\\".toList⟩]⟩]⟩
    let b : Dn := ⟨[⟨"ou=People".toList, [⟨"ou".toList, "People".toList⟩]⟩,
      ⟨"dc=org".toList, [⟨"dc".toList, "org".toList⟩]⟩]⟩
    parse x = .ok a ∧ parse y = .ok b ∧ a.display = "CN=Smith\\, J + uid=a\\\\" ∧
      parse a.display = .ok a ∧ parse (x ++ "," ++ y) = .ok ⟨a.rdns ++ b.rdns⟩ ∧
      sameText x x' = true ∧ sameText y y' = true ∧
      sameText (x ++ "," ++ y) (x' ++ "," ++ y') = true := by
  intro x y x' y' a b
  have hx : parse x = .ok a := by decide +kernel
  have hy : parse y = .ok b := by decide +kernel
  have hsame : sameText x x' = true := by decide +kernel
  have hsame' : sameText y y' = true := by decide +kernel
  obtain ⟨-, ⟨hdisplay, -⟩, happend, -, hreplace⟩ := names_read_back_and_join hx hy
  exact ⟨hx, hy, by rfl, hdisplay, happend, hsame, hsame', hreplace x' y' hsame hsame'⟩

end LdapClient.Dn
