/-
# LdapClient.Proofs.Dn.Domain -- domains written as names

A domain is written as a name, one `DC` for each of its labels, and the name is written before
anybody knows whether it can be read.  What is written needs no escapes if the domain holds no
comma, no plus sign and no backslash: blanks at the ends of a label are gone, blank labels are gone,
and an equals sign in a label stands behind the one that ends the type.  So each label is a clean
assertion (`isClean_dcOf`), and the name is read as it was written (`parse_ofDomain`).

Without a backslash a value stands for itself, hence labels are compared in small letters
(`keys_rdnOf`).  The main statement is `ofDomain_read`.
-/
import LdapClient.Proofs.Dn.Reading
import LdapClient.Proofs.Dn.Sameness
import LdapClient.Proofs.Dn.Unescape
import LdapClient.Proofs.Text.Cut

namespace LdapClient.Dn

open Text

/-! ## Labels -/

/-- Nothing in the domain means something in a name behind an equals sign. -/
def IsPlainDomain (domain : String) : Prop :=
  ∀ c ∈ domain.toList, c ∉ [',', '+', '\\']

instance (domain : String) : Decidable (IsPlainDomain domain) :=
  List.decidableBAll (· ∉ [',', '+', '\\']) domain.toList

theorem labels_eq_nil_iff {domain : String} :
    labels domain = [] ↔ ∀ piece ∈ domain.toList.splitOn '.', ∀ c ∈ piece, isBlank c = true := by
  rw [labels, cutAll_eq_splitOn, List.filter_eq_nil_iff, List.forall_mem_map]
  refine forall₂_congr fun piece _ => ?_
  have hseen : trim piece ≠ [] ↔ ∃ c ∈ piece, isBlank c = false := trim_ne_nil_iff
  have hblank : trim piece = [] ↔ ∀ c ∈ piece, isBlank c = true := by
    rw [← not_iff_not]
    simpa using hseen
  simpa using hblank

theorem mem_labels {domain : String} {label : List Char} (h : label ∈ labels domain) :
    label ≠ [] ∧ Tight label ∧ label ⊆ domain.toList := by
  obtain ⟨hmem, hne⟩ := List.mem_filter.mp h
  obtain ⟨piece, hpiece, rfl⟩ := List.mem_map.mp hmem
  refine ⟨by simpa using hne, trim_tight piece, ?_⟩
  exact List.Subset.trans (trim_subset piece) (subset_of_mem_cutAll hpiece)

/-! ## A label in the name -/

/-- The assertion that a label is written as. -/
def dcOf (label : List Char) : Assertion :=
  ⟨['D', 'C'], label⟩

/-- The relative name that a label is written as. -/
def rdnOf (label : List Char) : Rdn :=
  ⟨['D', 'C', '='] ++ label, [dcOf label]⟩

section

variable {domain : String} (h : IsPlainDomain domain) {label : List Char}
  (hlabel : label ∈ labels domain)

include h hlabel

theorem isClean_dcOf : (dcOf label).IsClean := by
  obtain ⟨hne, htight, hsub⟩ := mem_labels hlabel
  refine ⟨⟨List.cons_ne_nil _ _, by simp [dcOf, isBlank]⟩, .of_forall fun c hc => ?_, htight, hne⟩
  have hplain := h c (hsub hc)
  simp only [List.mem_cons, List.not_mem_nil, or_false, not_or] at hplain ⊢
  exact ⟨hplain.2.2, hplain.1, hplain.2.1⟩

/-- A label stands for itself, so it is compared in small letters. -/
theorem normalValue_label : Assertion.normalValue label = lowerCase label := by
  obtain ⟨-, htight, hsub⟩ := mem_labels hlabel
  have hplain : ∀ a ∈ encode label, a.toNat ≠ 92 := by
    intro a ha
    obtain ⟨c, hc, hac⟩ := List.mem_flatMap.mp ha
    refine utf8EncodeChar_no_backslash (fun heq => ?_) a hac
    exact h c (hsub hc) (by simp [heq])
  have hunescape := unescape_append hplain []
  simp only [List.append_nil, unescape] at hunescape
  rw [Assertion.normalValue, hunescape, decode_encode, htight.trim_eq]

theorem keys_rdnOf : (rdnOf label).keys = {(['d', 'c'], lowerCase label)} := by
  have hkey : (dcOf label).key = (['d', 'c'], lowerCase label) := by
    rw [Assertion.key, ← normalValue_label h hlabel]
    rfl
  rw [Rdn.keys, rdnOf, List.map_singleton, hkey]
  rfl

end

/-! ## The name -/

theorem toList_ofDomain (domain : String) :
    (ofDomain domain).toList = [','].intercalate (((labels domain).map dcOf).map Assertion.text) := by
  have htext (label : List Char) :
      ("DC=" ++ String.ofList label).toList = (dcOf label).text := by
    simp [dcOf, Assertion.text]
  rw [ofDomain, toList_join, List.map_map, List.map_map]
  exact congrArg _ (List.map_congr_left fun label _ => htext label)

/-- Nothing is written just if there are no labels. -/
theorem ofDomain_eq_empty_iff {domain : String} : ofDomain domain = "" ↔ labels domain = [] := by
  refine ⟨fun hempty => ?_, fun hnil => by rw [ofDomain, hnil]; rfl⟩
  by_contra hne
  obtain ⟨label, more, hlabels⟩ := List.exists_cons_of_ne_nil hne
  have htext := toList_ofDomain domain
  rw [hempty, hlabels] at htext
  cases more with
  | nil => simp [dcOf, Assertion.text] at htext
  | cons next more => simp [dcOf, Assertion.text, List.intercalate_cons_cons] at htext

section

variable {domain other : String} (h : IsPlainDomain domain)

include h

/-- What was written is read, label by label. -/
theorem parse_ofDomain (hne : labels domain ≠ []) :
    parse (ofDomain domain) = .ok ⟨(labels domain).map rdnOf⟩ := by
  have hnames : (labels domain).map dcOf ≠ [] := mt List.map_eq_nil_iff.mp hne
  have hclean : ∀ assertion ∈ (labels domain).map dcOf, assertion.IsClean :=
    List.forall_mem_map.mpr fun label hlabel => isClean_dcOf h hlabel
  rw [parse, toList_ofDomain, parseChars_clean hnames hclean, List.map_map]
  rfl

/-- What the name of a domain is compared by. -/
theorem identity_ofDomain : identity (ofDomain domain) =
    if labels domain = [] then .inr []
    else .inl (((labels domain).map lowerCase).map fun name => {(['d', 'c'], name)}) := by
  split
  · next hnil =>
    rw [ofDomain_eq_empty_iff.mpr hnil]
    rfl
  · next hne =>
    rw [identity, parse_ofDomain h hne]
    simp only [keys, List.map_map]
    exact congrArg _ (List.map_congr_left fun label hlabel => keys_rdnOf h hlabel)

/-- Names of domains are the same just if the labels are, up to capital letters. -/
theorem sameText_ofDomain (hother : IsPlainDomain other) :
    sameText (ofDomain domain) (ofDomain other) = true ↔
      (labels domain).map lowerCase = (labels other).map lowerCase := by
  have hinj : Function.Injective fun name : List Char =>
      ({(['d', 'c'], name)} : Multiset (List Char × List Char)) := by
    intro a b heq
    simpa using heq
  rw [sameText_iff, identity_ofDomain h, identity_ofDomain hother]
  by_cases hnil : labels domain = []
  · by_cases hnil' : labels other = []
    · simp [hnil, hnil']
    · simp [hnil, hnil']
  · by_cases hnil' : labels other = []
    · simp [hnil, hnil']
    · rw [if_neg hnil, if_neg hnil', Sum.inl.injEq, (List.map_injective_iff.mpr hinj).eq_iff]

end

/-- A domain without a comma, a plus sign and a backslash is written as nothing at all if and only
if there are only blanks between its dots.  Otherwise what is written is read as a name, with one
relative name `DC=label` for each label that is not blank, without the blanks at its ends, in the
order of the labels.  The names of two such domains are the same if and only if these labels agree
one by one in small letters. -/
theorem ofDomain_read {domain : String} (h : IsPlainDomain domain) :
    (ofDomain domain = "" ↔
      ∀ piece ∈ domain.toList.splitOn '.', ∀ c ∈ piece, isBlank c = true) ∧
    (ofDomain domain ≠ "" → parse (ofDomain domain) = .ok ⟨(labels domain).map fun label =>
      ⟨['D', 'C', '='] ++ label, [⟨['D', 'C'], label⟩]⟩⟩) ∧
    ∀ other, IsPlainDomain other →
      (sameText (ofDomain domain) (ofDomain other) = true ↔
        (labels domain).map lowerCase = (labels other).map lowerCase) := by
  refine ⟨ofDomain_eq_empty_iff.trans labels_eq_nil_iff, fun hne => ?_,
    fun other hother => sameText_ofDomain h hother⟩
  exact parse_ofDomain h (mt ofDomain_eq_empty_iff.mpr hne)

/-- Blank labels go, an equals sign and inner blanks stay, and letters outside ASCII are compared in
small letters as well. -/
theorem spelled_domains_same :
    let domain := ".STRAẞE. a=b  c .. \t.Org."
    let other := "straße.A=B  C.org"
    IsPlainDomain domain ∧ IsPlainDomain other ∧
      labels domain = ["STRAẞE".toList, "a=b  c".toList, "Org".toList] ∧
      ofDomain domain = "DC=STRAẞE,DC=a=b  c,DC=Org" ∧
      parse (ofDomain domain) = .ok ⟨(labels domain).map fun label =>
        ⟨['D', 'C', '='] ++ label, [⟨['D', 'C'], label⟩]⟩⟩ ∧
      sameText (ofDomain domain) (ofDomain other) = true := by
  intro domain other
  have hdomain : IsPlainDomain domain := by decide +kernel
  have hother : IsPlainDomain other := by decide +kernel
  have hwritten : ofDomain domain = "DC=STRAẞE,DC=a=b  c,DC=Org" := by decide +kernel
  have hlower : (labels domain).map lowerCase = (labels other).map lowerCase := by decide +kernel
  obtain ⟨-, hparse, hsame⟩ := ofDomain_read hdomain
  refine ⟨hdomain, hother, by decide +kernel, hwritten, hparse ?_, (hsame other hother).mpr hlower⟩
  rw [hwritten]
  decide +kernel

end LdapClient.Dn
