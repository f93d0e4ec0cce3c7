/-
# LdapClient.Proofs.Dn.Sameness -- naming the same entry is an equivalence

Texts are compared in two ways, as names or as plain texts, and which of the two is used depends on
both of them.  `identity` puts the two ways into one value: what a name is compared by, or the
folded text if it is no name.  `sameText_iff` says that texts are the same just if their identities
are equal, so that being the same is an equivalence.

What could go wrong is a name beside a text that is no name, which are compared as plain texts.
Such texts are never the same, because reading looks at no letters: `isOk_parseChars_fold` says that
a folded text is read just if the text is.
-/
import LdapClient.Dn.Basic
import LdapClient.Proofs.Dn.Split
import LdapClient.Proofs.Text.Fold
import Mathlib.Data.Multiset.Basic

namespace LdapClient.Dn

open Text

/-! ## Which texts are read -/

theorem Rdn.isOk_assertionsOf (parts : List (List Char)) :
    (Rdn.assertionsOf parts).isOk = parts.all fun part => (Assertion.parse part).isOk := by
  induction parts with
  | nil => rfl
  | cons part parts ih =>
    rw [Rdn.assertionsOf, List.all_cons, ← ih]
    cases Assertion.parse part with
    | error fault => rfl
    | ok assertion => cases Rdn.assertionsOf parts <;> rfl

theorem Rdn.isOk_parse (text : List Char) :
    (Rdn.parse text).isOk = (splitUnescaped '+' text).any fun parts =>
      parts.all fun part => (Assertion.parse part).isOk := by
  rw [Rdn.parse, Rdn.pieces]
  cases splitUnescaped '+' text with
  | none => rfl
  | some parts =>
    rw [Option.any_some, ← Rdn.isOk_assertionsOf]
    dsimp only
    cases Rdn.assertionsOf parts <;> rfl

theorem Rdn.isOk_parseAll (texts : List (List Char)) :
    (Rdn.parseAll texts).isOk = texts.all fun text => (Rdn.parse (trim text)).isOk := by
  induction texts with
  | nil => rfl
  | cons text texts ih =>
    rw [Rdn.parseAll, List.all_cons, ← ih]
    cases Rdn.parse (trim text) with
    | error fault => rfl
    | ok rdn => cases Rdn.parseAll texts <;> rfl

/-- A text is read as a name if something can be seen of it and each of its pieces is read. -/
theorem isOk_parseChars (text : List Char) :
    (parseChars text).isOk = (!(trim text).isEmpty &&
      (splitUnescaped ',' (trim text)).any fun texts =>
        texts.all fun text => (Rdn.parse (trim text)).isOk) := by
  rw [parseChars, Rdn.pieces]
  cases (trim text).isEmpty with
  | true => rfl
  | false =>
    cases splitUnescaped ',' (trim text) with
    | none => rfl
    | some texts =>
      rw [Option.any_some, ← Rdn.isOk_parseAll]
      dsimp only
      cases Rdn.parseAll texts <;> rfl

/-! ## Reading looks at no letters -/

theorem splitUnescaped_fold {mark : Char} (hmark : IsMark mark) (text : List Char) :
    splitUnescaped mark (fold text) = (splitUnescaped mark text).map (List.map fold) := by
  have hbackslash (c : Char) : c.toLower = '\\' ↔ c = '\\' := toLower_eq_iff (by decide)
  have hdelimiter (c : Char) : c.toLower = mark ↔ c = mark := toLower_eq_iff hmark
  have hsame : mark.toLower = mark := (hdelimiter mark).mpr rfl
  -- an escape is read as a pair, which is why the induction follows the splitting
  fun_induction splitUnescaped mark text with
  | case1 => rfl
  | case2 => rfl
  | case3 hne =>
    rw [fold_cons, hsame, splitUnescaped_mark hne]
    rfl
  | case4 c hc hne =>
    rw [fold_cons, splitUnescaped_char (mt (hbackslash c).mp hc) (mt (hdelimiter c).mp hne)]
    rfl
  | case5 d rest ih =>
    rw [fold_cons, fold_cons, show '\\'.toLower = '\\' from rfl, splitUnescaped_escape, ih,
      Option.map_map, Option.map_map]
    exact congrArg (Option.map · _) (funext fun pieces => glue_fold ['\\', d] pieces)
  | case6 d rest hne ih =>
    rw [fold_cons, hsame, splitUnescaped_mark hne, ih, Option.map_map, Option.map_map]
    rfl
  | case7 c d rest hc hne ih =>
    rw [fold_cons, splitUnescaped_char (mt (hbackslash c).mp hc) (mt (hdelimiter c).mp hne), ih,
      Option.map_map, Option.map_map]
    exact congrArg (Option.map · _) (funext fun pieces => glue_fold [c] pieces)

theorem Assertion.isOk_parse_fold (part : List Char) :
    (Assertion.parse (fold part)).isOk = (Assertion.parse part).isOk := by
  rw [Assertion.parse, Assertion.parse, cutOnce_fold (by decide)]
  cases cutOnce '=' part with
  | none => rfl
  | some parts =>
    simp only [Option.map_some, Prod.map_fst, Prod.map_snd]
    rw [trim_fold, trim_fold, isEmpty_fold, isEmpty_fold, contains_fold (by decide)]
    split <;> rfl

theorem Rdn.isOk_parse_fold (text : List Char) :
    (Rdn.parse (fold text)).isOk = (Rdn.parse text).isOk := by
  rw [Rdn.isOk_parse, Rdn.isOk_parse, splitUnescaped_fold (by decide), Option.any_map]
  congr 1
  funext parts
  rw [List.all_map]
  exact congrArg _ (funext Assertion.isOk_parse_fold)

/-- A folded text is read as a name just if the text is. -/
theorem isOk_parseChars_fold (text : List Char) :
    (parseChars (fold text)).isOk = (parseChars text).isOk := by
  rw [isOk_parseChars, isOk_parseChars, trim_fold, isEmpty_fold, splitUnescaped_fold (by decide),
    Option.any_map]
  congr 2
  funext texts
  rw [List.all_map]
  congr 1
  funext text
  rw [Function.comp_apply, trim_fold, Rdn.isOk_parse_fold]

/-- Whether a text is a name depends only on its trimmed text up to ASCII case. -/
theorem isOk_parse_congr {a b : String} (h : fold (trim a.toList) = fold (trim b.toList)) :
    (parse a).isOk = (parse b).isOk := by
  have hread (text : String) : (parse text).isOk = (parseChars (fold (trim text.toList))).isOk := by
    rw [isOk_parseChars_fold, parse, parseChars, parseChars, trim_trim]
  rw [hread a, hread b, h]

/-! ## What texts are compared by -/

/-- What a relative name is compared by: the keys of its assertions, in any order. -/
def Rdn.keys (rdn : Rdn) : Multiset (List Char × List Char) :=
  rdn.assertions.map Assertion.key

/-- What a name is compared by. -/
def keys (dn : Dn) : List (Multiset (List Char × List Char)) :=
  dn.rdns.map Rdn.keys

/-- What a text is compared by: the keys of a name, and otherwise the folded text. -/
def identity (text : String) : List (Multiset (List Char × List Char)) ⊕ List Char :=
  match parse text with
  | .ok dn => .inl dn.keys
  | .error _ => .inr (fold (trim text.toList))

theorem Rdn.same_iff {a b : Rdn} : Rdn.same a b = true ↔ a.keys = b.keys := by
  rw [Rdn.same, List.isPerm_iff, Rdn.keys, Rdn.keys, Multiset.coe_eq_coe]

theorem Rdn.sameAll_iff {as bs : List Rdn} :
    Rdn.sameAll as bs = true ↔ as.map Rdn.keys = bs.map Rdn.keys := by
  induction as generalizing bs with
  | nil => cases bs <;> simp [Rdn.sameAll]
  | cons a as ih =>
    cases bs with
    | nil => simp [Rdn.sameAll]
    | cons b bs => simp [Rdn.sameAll, Rdn.same_iff, ih]

theorem same_iff {a b : Dn} : same a b = true ↔ a.keys = b.keys :=
  Rdn.sameAll_iff

/-- A name and a text that is no name are never the same. -/
theorem sameText_eq_false {a b : String} (h : (parse a).isOk ≠ (parse b).isOk) :
    sameText a b = false := by
  have hfold : fold (trim a.toList) ≠ fold (trim b.toList) := mt isOk_parse_congr h
  unfold sameText
  cases ha : parse a with
  | error fault => simpa using hfold
  | ok x =>
    cases hb : parse b with
    | error fault => simpa using hfold
    | ok y =>
      rw [ha, hb] at h
      contradiction

/-- Texts name the same entry just if they are compared by the same. -/
theorem sameText_iff {a b : String} : sameText a b = true ↔ identity a = identity b := by
  cases ha : parse a with
  | error fault =>
    cases hb : parse b with
    | error fault' => simp [sameText, identity, ha, hb]
    | ok y =>
      have hdiffer : sameText a b = false := by
        apply sameText_eq_false
        rw [ha, hb]
        exact Bool.false_ne_true
      simp [hdiffer, identity, ha, hb]
  | ok x =>
    cases hb : parse b with
    | error fault =>
      have hdiffer : sameText a b = false := by
        apply sameText_eq_false
        rw [ha, hb]
        exact Bool.false_ne_true.symm
      simp [hdiffer, identity, ha, hb]
    | ok y => simp [sameText, identity, ha, hb, same_iff]

/-- To name the same entry is an equivalence on all texts, names or not.  A name never names the
same entry as a text that is no name, because texts that agree up to blanks at the ends and ASCII
case are both names or both not. -/
theorem sameText_equivalence :
    (Equivalence fun a b => sameText a b = true) ∧
      (∀ a b, (parse a).isOk ≠ (parse b).isOk → sameText a b = false) ∧
      ∀ a b : String, fold (trim a.toList) = fold (trim b.toList) →
        (parse a).isOk = (parse b).isOk := by
  refine ⟨⟨?_, ?_, ?_⟩, fun a b => sameText_eq_false, fun a b => isOk_parse_congr⟩
  · intro a
    exact sameText_iff.mpr rfl
  · intro a b hab
    exact sameText_iff.mpr (sameText_iff.mp hab).symm
  · intro a b c hab hbc
    exact sameText_iff.mpr ((sameText_iff.mp hab).trans (sameText_iff.mp hbc))

end LdapClient.Dn
