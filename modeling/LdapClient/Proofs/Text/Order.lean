/-
# LdapClient.Proofs.Text.Order -- the order of names is the order of their octets

Names are ordered by the code points of their characters.  Comparing the octets in which they are
written comes to the same: of two characters the one with the smaller code point is written in
smaller octets, also where one is written in more octets than the other
(`octetsBefore_utf8EncodeChar`).
-/
import LdapClient.Proofs.Text.Octets
import LdapClient.Text.Fold
import Mathlib.Tactic.SplitIfs

namespace LdapClient.Text

/-! ## The order of names -/

theorem ne_of_before {a b : String} (h : before a b = true) : a ≠ b := by
  rintro rfl
  rw [before_irrefl] at h
  contradiction

theorem before_asymm {a b : String} (h : before a b = true) : before b a = false := by
  refine Bool.eq_false_iff.mpr fun hba => ?_
  exact ne_of_before (before_trans h hba) rfl

theorem not_before_trans {a b c : String} (hab : before b a = false)
    (hbc : before c b = false) : before c a = false := by
  refine Bool.eq_false_iff.mpr fun hca => ?_
  by_cases heq : b = c
  · rw [heq, hca] at hab
    contradiction
  · rcases before_or_before heq with hlt | hlt
    · rw [before_trans hlt hca] at hab
      contradiction
    · rw [hlt] at hbc
      contradiction

/-! ## The order of octet strings -/

/-- The strict order of octet strings, by the first octets that differ; a string stands before its
continuations. -/
def octetsBefore : Octets → Octets → Bool
  | _, [] => false
  | [], _ :: _ => true
  | a :: as, b :: bs =>
    Nat.blt a.toNat b.toNat || (Nat.beq a.toNat b.toNat && octetsBefore as bs)

theorem octetsBefore_nil (x : Octets) : octetsBefore x [] = false := by
  cases x <;> rfl

theorem nil_octetsBefore {y : Octets} (h : y ≠ []) : octetsBefore [] y = true := by
  cases y with
  | nil => contradiction
  | cons b bs => rfl

theorem octetsBefore_asymm {x y : Octets} (h : octetsBefore x y = true) :
    octetsBefore y x = false := by
  induction x generalizing y with
  | nil => exact octetsBefore_nil y
  | cons a as ih =>
    cases y with
    | nil => contradiction
    | cons b bs =>
      rw [octetsBefore, Bool.or_eq_true, Nat.blt_eq, Bool.and_eq_true, Nat.beq_eq] at h
      refine Bool.eq_false_iff.mpr fun hba => ?_
      rw [octetsBefore, Bool.or_eq_true, Nat.blt_eq, Bool.and_eq_true, Nat.beq_eq] at hba
      rcases h with hlt | ⟨heq, hrest⟩
      · omega
      · rcases hba with hlt | ⟨-, hrest'⟩
        · omega
        · rw [ih hrest] at hrest'
          contradiction

theorem octetsBefore_append (front x y : Octets) :
    octetsBefore (front ++ x) (front ++ y) = octetsBefore x y := by
  induction front with
  | nil => rfl
  | cons a front ih =>
    have hlt : Nat.blt a.toNat a.toNat = false := by
      rw [Bool.eq_false_iff, ne_eq, Nat.blt_eq]
      exact Nat.lt_irrefl _
    have heq : Nat.beq a.toNat a.toNat = true := Nat.beq_eq.mpr rfl
    rw [List.cons_append, List.cons_append, octetsBefore, hlt, heq, ih]
    rfl

/-- Octets that are given by numbers are compared by these. -/
theorem octetsBefore_ofNat {m n : Nat} (hm : m < 256) (hn : n < 256) (x y : Octets) :
    octetsBefore (UInt8.ofNat m :: x) (UInt8.ofNat n :: y) = true ↔
      m < n ∨ m = n ∧ octetsBefore x y = true := by
  rw [octetsBefore, Bool.or_eq_true, Nat.blt_eq, Bool.and_eq_true, Nat.beq_eq, toNat_ofNat hm,
    toNat_ofNat hn]

/-! ## Characters and texts -/

/-- Of two characters the one with the smaller number is written in smaller octets. -/
theorem octetsBefore_utf8EncodeChar {c d : Char} (h : c.toNat < d.toNat) (x y : Octets) :
    octetsBefore (String.utf8EncodeChar c ++ x) (String.utf8EncodeChar d ++ y) = true := by
  have hlast : d.toNat < 0xD800 ∨ 0xDFFF < d.toNat ∧ d.toNat < 0x110000 := d.valid
  unfold String.utf8EncodeChar
  rw [show c.val.toNat = c.toNat from rfl, show d.val.toNat = d.toNat from rfl]
  generalize c.toNat = m at h ⊢
  generalize d.toNat = n at h hlast ⊢
  dsimp only
  have hsecond (k : Nat) : k / 4096 = k / 64 / 64 := by rw [Nat.div_div_eq_div_mul]
  have hthird (k : Nat) : k / 262144 = k / 64 / 64 / 64 := by
    rw [Nat.div_div_eq_div_mul, Nat.div_div_eq_div_mul]
  -- a longer form has a greater lead octet; forms of one length are numbers to the base 64
  split_ifs <;>
    simp (disch := omega) only [List.cons_append, List.nil_append, octetsBefore_ofNat, hsecond,
      hthird] <;>
    omega

theorem octetsBefore_encode (text other : List Char) :
    octetsBefore (encode text) (encode other) = precedes text other := by
  induction text generalizing other with
  | nil =>
    cases other with
    | nil => rfl
    | cons d other => exact nil_octetsBefore (encode_ne_nil (List.cons_ne_nil d other))
  | cons c text ih =>
    cases other with
    | nil => exact octetsBefore_nil _
    | cons d other =>
      rw [Bool.eq_iff_iff, encode_cons, encode_cons, precedes, Bool.or_eq_true, Nat.blt_eq,
        Bool.and_eq_true, Nat.beq_eq]
      rcases Nat.lt_trichotomy c.toNat d.toNat with hlt | heq | hgt
      · exact iff_of_true (octetsBefore_utf8EncodeChar hlt _ _) (.inl hlt)
      · obtain rfl : c = d := Char.toNat_inj.mp heq
        rw [octetsBefore_append, ih]
        simp
      · rw [octetsBefore_asymm (octetsBefore_utf8EncodeChar hgt _ _)]
        refine iff_of_false Bool.false_ne_true ?_
        rintro (hlt | ⟨heq, -⟩) <;> omega

/-- Names are ordered as their octets are. -/
theorem octetsBefore_octets (a b : String) : octetsBefore (octets a) (octets b) = before a b :=
  octetsBefore_encode a.toList b.toList

end LdapClient.Text
