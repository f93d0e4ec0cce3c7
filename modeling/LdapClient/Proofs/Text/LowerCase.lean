/-
# LdapClient.Proofs.Text.LowerCase -- what making letters small leaves alone

A caseless character is no capital, and no capital becomes one.  So a text has each caseless
character as often as its small form, which is `count_lowerCase`.  Digits and most punctuation are
caseless, and so is the character that stands for ill-formed octets.
-/
import LdapClient.Proofs.Text.Fold
import LdapClient.Proofs.Text.Octets
import LdapClient.Text.LowerCase

namespace LdapClient.Text

/-- The character is no letter of ASCII, none of those that are made small by a rule of their own or
come from it, and no run of the table leads from it or to it. -/
def IsCaseless (m : Char) : Prop :=
  IsMark m ∧ m ∉ ['Σ', 'σ', 'ς', 'İ', Char.ofNat 0x307] ∧ ∀ run ∈ capitalRuns.toList,
    ¬ (run.first ≤ m.toNat ∧ m.toNat ≤ run.last) ∧
      ¬ (run.first + run.shift ≤ (m.toNat : Int) ∧ (m.toNat : Int) ≤ run.last + run.shift)

instance (m : Char) : Decidable (IsCaseless m) :=
  inferInstanceAs (Decidable (_ ∧ _ ∧ _))

/-- No run leads out of the characters. -/
theorem capitalRuns_bounds : ∀ run ∈ capitalRuns.toList, 0 ≤ (run.first : Int) + run.shift ∧
    ((run.last : Int) + run.shift < 0xD800 ∨
      0xDFFF < (run.first : Int) + run.shift ∧ (run.last : Int) + run.shift < 0x110000) := by
  decide +kernel

section

variable {m : Char} (hm : IsCaseless m)

include hm

theorem count_smallLetter (c : Char) : (smallLetter c).count m = [c].count m := by
  obtain ⟨hmark, hrules, hruns⟩ := hm
  simp only [List.mem_cons, List.not_mem_nil, or_false, not_or] at hrules
  unfold smallLetter
  split
  · have hsame : (c.toLower == m) = (c == m) := by
      rw [Bool.eq_iff_iff, beq_iff_eq, beq_iff_eq, toLower_eq_iff hmark]
    rw [List.count_singleton, List.count_singleton, hsame]
  · split
    · rename_i hdotted
      have hc : c = 'İ' := Char.toNat_inj.mp hdotted
      have hi : 'i' ≠ m := by
        rintro rfl
        exact absurd hmark (by decide)
      subst hc
      simp [hi, Ne.symm hrules.2.2.2.1, Ne.symm hrules.2.2.2.2]
    · split
      · -- a capital of the table goes where its run leads
        rename_i run hrun
        have hmem := Array.mem_toList_iff.mpr (Array.mem_of_find?_eq_some hrun)
        obtain ⟨hstart, hvalid⟩ := capitalRuns_bounds run hmem
        obtain ⟨hfrom, hto⟩ := hruns run hmem
        have hcovers := Array.find?_some hrun
        simp only [CapitalRun.covers, Bool.and_eq_true, Nat.ble_eq] at hcovers
        have hletter : ((c.toNat : Int) + run.shift).toNat.isValidChar := by
          unfold Nat.isValidChar
          omega
        have hc : c ≠ m := by
          rintro rfl
          exact hfrom hcovers.1
        have hsmall : Char.ofNat ((c.toNat : Int) + run.shift).toNat ≠ m := by
          intro heq
          have hnat := toNat_charOfNat hletter
          rw [heq] at hnat
          omega
        rw [List.count_singleton, List.count_singleton, beq_false_of_ne hc, beq_false_of_ne hsmall]
      · rfl

theorem count_smallSigma (before after : List Char) :
    [smallSigma before after].count m = ['Σ'].count m := by
  obtain ⟨-, hrules, -⟩ := hm
  simp only [List.mem_cons, List.not_mem_nil, or_false, not_or] at hrules
  unfold smallSigma
  split <;> simp [Ne.symm hrules.1, Ne.symm hrules.2.1, Ne.symm hrules.2.2.1]

theorem count_lowerCaseAfter (before text : List Char) :
    (lowerCaseAfter before text).count m = text.count m := by
  induction text generalizing before with
  | nil => rfl
  | cons c rest ih =>
    have hsmall : (if c = 'Σ' then [smallSigma before rest] else smallLetter c).count m =
        [c].count m := by
      split
      · rename_i h
        subst h
        exact count_smallSigma hm before rest
      · exact count_smallLetter hm c
    rw [lowerCaseAfter, List.count_append, ih, hsmall, ← List.count_append, List.singleton_append]

/-- A text has a caseless character as often as its small form. -/
theorem count_lowerCase (text : List Char) : (lowerCase text).count m = text.count m :=
  count_lowerCaseAfter hm [] text

end

end LdapClient.Text
