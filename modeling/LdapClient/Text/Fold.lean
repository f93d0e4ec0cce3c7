/-
# LdapClient.Text.Fold -- names compared without regard to ASCII case, and their order

Attribute types and host names ignore the case of ASCII letters only: `É` and `é` stay different.
Names are ordered by the code points of their characters, which is also the order of their UTF-8
octets.
-/
namespace LdapClient.Text

/-- A text with its ASCII capitals made small. -/
def fold (text : List Char) : List Char :=
  text.map Char.toLower

/-- Two strings that differ at most in the case of ASCII letters. -/
def sameFolded (a b : String) : Bool :=
  decide (fold a.toList = fold b.toList)

/-- The strict order of texts by code points; a text stands before its continuations. -/
def precedes : List Char → List Char → Bool
  | _, [] => false
  | [], _ :: _ => true
  | a :: as, b :: bs => Nat.blt a.toNat b.toNat || (Nat.beq a.toNat b.toNat && precedes as bs)

/-- The order of names. -/
def before (a b : String) : Bool :=
  precedes a.toList b.toList

/-! ## A strict linear order -/

theorem precedes_irrefl (a : List Char) : precedes a a = false := by
  induction a with
  | nil => rfl
  | cons c r ih =>
    have hc : Nat.blt c.toNat c.toNat = false := by
      rw [Bool.eq_false_iff, ne_eq, Nat.blt_eq]
      exact Nat.lt_irrefl _
    simp [precedes, ih, hc]

theorem precedes_trans {a b c : List Char} (hab : precedes a b = true)
    (hbc : precedes b c = true) : precedes a c = true := by
  induction a generalizing b c with
  | nil =>
    cases b with
    | nil => simp [precedes] at hab
    | cons y ys =>
      cases c with
      | nil => simp [precedes] at hbc
      | cons z zs => rfl
  | cons x xs ih =>
    cases b with
    | nil => simp [precedes] at hab
    | cons y ys =>
      cases c with
      | nil => simp [precedes] at hbc
      | cons z zs =>
        simp only [precedes, Bool.or_eq_true, Bool.and_eq_true, Nat.blt_eq, Nat.beq_eq] at *
        rcases hab with hab | ⟨hxy, hab⟩
        · rcases hbc with hbc | ⟨hyz, _⟩
          · exact Or.inl (Nat.lt_trans hab hbc)
          · exact Or.inl (hyz ▸ hab)
        · rcases hbc with hbc | ⟨hyz, hbc⟩
          · exact Or.inl (hxy ▸ hbc)
          · exact Or.inr ⟨hxy.trans hyz, ih hab hbc⟩

/-- Of two different texts one stands before the other. -/
theorem precedes_or_precedes {a b : List Char} (h : a ≠ b) :
    precedes a b = true ∨ precedes b a = true := by
  induction a generalizing b with
  | nil =>
    cases b with
    | nil => exact absurd rfl h
    | cons y ys => exact Or.inl rfl
  | cons x xs ih =>
    cases b with
    | nil => exact Or.inr rfl
    | cons y ys =>
      simp only [precedes, Bool.or_eq_true, Bool.and_eq_true, Nat.blt_eq, Nat.beq_eq]
      rcases Nat.lt_trichotomy x.toNat y.toNat with hlt | heq | hgt
      · exact Or.inl (Or.inl hlt)
      · have hxy : x = y := Char.toNat_inj.mp heq
        subst hxy
        rcases ih (b := ys) (fun hs => h (hs ▸ rfl)) with hs | hs
        · exact Or.inl (Or.inr ⟨rfl, hs⟩)
        · exact Or.inr (Or.inr ⟨rfl, hs⟩)
      · exact Or.inr (Or.inl hgt)

theorem before_trans {a b c : String} (hab : before a b = true) (hbc : before b c = true) :
    before a c = true :=
  precedes_trans hab hbc

theorem before_irrefl (a : String) : before a a = false :=
  precedes_irrefl a.toList

theorem before_or_before {a b : String} (h : a ≠ b) : before a b = true ∨ before b a = true :=
  precedes_or_precedes fun hs => h (String.toList_inj.mp hs)

end LdapClient.Text
