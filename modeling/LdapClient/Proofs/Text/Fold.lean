/-
# LdapClient.Proofs.Text.Fold -- what folding leaves alone

Folding makes capitals of ASCII small and touches no other character.  So it neither makes nor
destroys blanks, nor marks that are no letters, and it makes no difference whether a text is folded
before it is trimmed or cut, or its parts are folded afterwards.
-/
import LdapClient.Proofs.Text.Trim
import LdapClient.Text.Cut
import LdapClient.Text.Fold

namespace LdapClient.Text

/-! ## Characters -/

theorem toNat_toLower (c : Char) :
    c.toLower.toNat = if 0x41 ≤ c.toNat ∧ c.toNat ≤ 0x5A then c.toNat + 32 else c.toNat := by
  unfold Char.toLower
  by_cases h : c.val ≥ 'A'.val ∧ c.val ≤ 'Z'.val
  · have hlow : 0x41 ≤ c.toNat := h.1
    have hhigh : c.toNat ≤ 0x5A := h.2
    rw [dif_pos h, if_pos ⟨hlow, hhigh⟩]
    show (c.val + ('a'.val - 'A'.val)).toNat = c.toNat + 32
    have hval : c.val.toNat = c.toNat := rfl
    rw [UInt32.toNat_add, hval, show ('a'.val - 'A'.val).toNat = 32 from rfl]
    omega
  · have hnot : ¬ (0x41 ≤ c.toNat ∧ c.toNat ≤ 0x5A) := h
    rw [dif_neg h, if_neg hnot]

/-- The character is neither a capital nor a small letter of ASCII. -/
def IsMark (m : Char) : Prop :=
  ¬ (0x41 ≤ m.toNat ∧ m.toNat ≤ 0x5A) ∧ ¬ (0x61 ≤ m.toNat ∧ m.toNat ≤ 0x7A)

instance (m : Char) : Decidable (IsMark m) :=
  inferInstanceAs (Decidable (_ ∧ _))

theorem toLower_eq_iff {c m : Char} (hm : IsMark m) : c.toLower = m ↔ c = m := by
  obtain ⟨hcapital, hsmall⟩ := hm
  have hc := toNat_toLower c
  rw [← Char.toNat_inj, ← Char.toNat_inj, hc]
  split <;> omega

theorem isBlank_toLower (c : Char) : isBlank c.toLower = isBlank c := by
  have hc := toNat_toLower c
  by_cases h : 0x41 ≤ c.toNat ∧ c.toNat ≤ 0x5A
  · -- letters of either case are not blank
    rw [if_pos h] at hc
    have hcapital : isBlank c = false := by simp [isBlank]; omega
    have hsmall : isBlank c.toLower = false := by simp [isBlank, hc]; omega
    rw [hcapital, hsmall]
  · rw [if_neg h] at hc
    rw [Char.toNat_inj.mp hc]

/-! ## Texts -/

theorem fold_cons (c : Char) (rest : List Char) : fold (c :: rest) = c.toLower :: fold rest :=
  rfl

theorem fold_reverse (text : List Char) : fold text.reverse = (fold text).reverse :=
  List.map_reverse

theorem isEmpty_fold (text : List Char) : (fold text).isEmpty = text.isEmpty :=
  List.isEmpty_map

theorem contains_fold {m : Char} (hm : IsMark m) (text : List Char) :
    (fold text).contains m = text.contains m := by
  induction text with
  | nil => rfl
  | cons c rest ih =>
    have hc : (m == c.toLower) = (m == c) := by
      rw [Bool.eq_iff_iff, beq_iff_eq, beq_iff_eq, eq_comm, toLower_eq_iff hm, eq_comm]
    rw [fold_cons, List.contains_cons, List.contains_cons, ih, hc]

theorem count_fold {m : Char} (hm : IsMark m) (text : List Char) :
    (fold text).count m = text.count m := by
  induction text with
  | nil => rfl
  | cons c rest ih =>
    have hc : (c.toLower == m) = (c == m) := by
      rw [Bool.eq_iff_iff, beq_iff_eq, beq_iff_eq, toLower_eq_iff hm]
    rw [fold_cons, List.count_cons, List.count_cons, ih, hc]

theorem trimStart_fold (text : List Char) : trimStart (fold text) = fold (trimStart text) := by
  have hblank : isBlank ∘ Char.toLower = isBlank := funext isBlank_toLower
  rw [trimStart, fold, List.dropWhile_map, hblank]
  rfl

theorem trim_fold (text : List Char) : trim (fold text) = fold (trim text) := by
  show (trimStart (trimStart (fold text)).reverse).reverse =
    fold (trimStart (trimStart text).reverse).reverse
  rw [trimStart_fold, ← fold_reverse, trimStart_fold, ← fold_reverse]

theorem trim_trim (text : List Char) : trim (trim text) = trim text :=
  (trim_tight text).trim_eq

/-- A text is cut at the same place after folding. -/
theorem cutOnce_fold {m : Char} (hm : IsMark m) (text : List Char) :
    cutOnce m (fold text) = (cutOnce m text).map (Prod.map fold fold) := by
  induction text with
  | nil => rfl
  | cons c rest ih =>
    rw [fold_cons, cutOnce, cutOnce, ih]
    by_cases hc : c = m
    · rw [if_pos hc, if_pos ((toLower_eq_iff hm).mpr hc)]
      rfl
    · rw [if_neg hc, if_neg (mt (toLower_eq_iff hm).mp hc), Option.map_map, Option.map_map]
      rfl

theorem glue_fold (front : List Char) (pieces : List (List Char)) :
    glue (fold front) (pieces.map fold) = (glue front pieces).map fold := by
  cases pieces with
  | nil => rfl
  | cons piece pieces =>
    have hpiece : fold front ++ fold piece = fold (front ++ piece) := List.map_append.symm
    rw [List.map_cons, glue, glue, hpiece, List.map_cons]

end LdapClient.Text
