/-
# LdapClient.Proofs.Text.Decimal -- reading back what was written in decimal

`signed?` reads more texts than `ofInt` writes, but each of those it reads as the number that was
written (`signed?_ofInt`).  A written number holds only digits and perhaps a minus sign, so it can
be found again in front of any other character (`not_mem_ofInt`).  The texts that `signed?` reads are the
`Numeral`s (`signed?_eq_some_iff`).
-/
import LdapClient.Text.Decimal

namespace LdapClient.Text.Decimal

/-! ## Digits -/

theorem isDigit_of_mem_ofNat {n : Nat} {c : Char} (h : c ∈ (ofNat n).toList) :
    isDigit c = true := by
  rw [ofNat, String.toList_ofList] at h
  have hc := Nat.isDigit_of_mem_toDigits (by decide) (by decide) h
  rw [Char.isDigit_iff_toNat] at hc
  simp only [isDigit, Bool.and_eq_true, Nat.ble_eq]
  exact hc

theorem ofNat_ne_nil (n : Nat) : (ofNat n).toList ≠ [] := by
  rw [ofNat, String.toList_ofList]
  exact Nat.toDigits_ne_nil

theorem unsigned?_ofNat (n : Nat) : unsigned? (ofNat n).toList = some n := by
  have hdigits : (ofNat n).toList.all isDigit = true :=
    List.all_eq_true.mpr fun _ h => isDigit_of_mem_ofNat h
  have hvalue : Nat.ofDigitChars 10 (ofNat n).toList 0 = n := by
    rw [ofNat, String.toList_ofList, Nat.ofDigitChars_toDigits (by decide) (by decide)]
  rw [unsigned?, if_neg (by simpa using ofNat_ne_nil n), if_pos hdigits, hvalue]

/-- Digits are no sign, so they are read as they are. -/
theorem signed?_of_digits {text : List Char} (hne : text ≠ [])
    (h : ∀ c ∈ text, isDigit c = true) :
    signed? text = (unsigned? text).map fun n => (n : Int) := by
  cases text with
  | nil => exact absurd rfl hne
  | cons c rest =>
    have hc := h c List.mem_cons_self
    have hminus : c ≠ '-' := fun heq => absurd hc (by rw [heq]; decide)
    have hplus : c ≠ '+' := fun heq => absurd hc (by rw [heq]; decide)
    rw [signed?, if_neg hminus, if_neg hplus]

/-! ## Whole numbers -/

/-- A number is read as it was written. -/
theorem signed?_ofInt (n : Int) : signed? (ofInt n).toList = some n := by
  cases n with
  | ofNat n =>
    rw [ofInt, signed?_of_digits (ofNat_ne_nil n) fun _ h => isDigit_of_mem_ofNat h,
      unsigned?_ofNat]
    rfl
  | negSucc n =>
    have htext : (ofInt (.negSucc n)).toList = '-' :: (ofNat (n + 1)).toList := by
      rw [ofInt, String.toList_append]
      rfl
    rw [htext, signed?, if_pos rfl, unsigned?_ofNat]
    rfl

/-- A written number holds digits, and otherwise only a sign. -/
theorem mem_ofInt {n : Int} {c : Char} (h : c ∈ (ofInt n).toList) :
    c = '-' ∨ isDigit c = true := by
  cases n with
  | ofNat n => exact Or.inr (isDigit_of_mem_ofNat h)
  | negSucc n =>
    rw [ofInt, String.toList_append, List.mem_append] at h
    rcases h with h | h
    · exact Or.inl (List.mem_singleton.mp h)
    · exact Or.inr (isDigit_of_mem_ofNat h)

/-- So any other character can end it. -/
theorem not_mem_ofInt {n : Int} {c : Char} (hsign : c ≠ '-') (hdigit : isDigit c = false) :
    c ∉ (ofInt n).toList := by
  intro h
  rcases mem_ofInt h with heq | hisDigit
  · exact hsign heq
  · exact absurd hisDigit (Bool.eq_false_iff.mp hdigit)

/-! ## Numerals -/

/-- One or more digits with at most one sign in front, and the number that they stand for. -/
inductive Numeral : List Char → Int → Prop
  | plain {digits : List Char} (hne : digits ≠ []) (h : ∀ c ∈ digits, isDigit c = true) :
      Numeral digits (Nat.ofDigitChars 10 digits 0)
  | plus {digits : List Char} (hne : digits ≠ []) (h : ∀ c ∈ digits, isDigit c = true) :
      Numeral ('+' :: digits) (Nat.ofDigitChars 10 digits 0)
  | minus {digits : List Char} (hne : digits ≠ []) (h : ∀ c ∈ digits, isDigit c = true) :
      Numeral ('-' :: digits) (-(Nat.ofDigitChars 10 digits 0 : Nat))

theorem unsigned?_eq_some_iff {text : List Char} {n : Nat} :
    unsigned? text = some n ↔
      text ≠ [] ∧ (∀ c ∈ text, isDigit c = true) ∧ Nat.ofDigitChars 10 text 0 = n := by
  unfold unsigned?
  split
  · rename_i hempty
    simp [List.isEmpty_iff.mp hempty]
  · rename_i hempty
    have hne : text ≠ [] := mt List.isEmpty_iff.mpr hempty
    split
    · rename_i hdigits
      have hall := List.all_eq_true.mp hdigits
      constructor
      · intro h
        exact ⟨hne, hall, Option.some.inj h⟩
      · rintro ⟨-, -, hvalue⟩
        exact congrArg some hvalue
    · rename_i hdigits
      constructor
      · intro h
        cases h
      · rintro ⟨-, hall, -⟩
        exact absurd (List.all_eq_true.mpr hall) hdigits

theorem signed?_cons (c : Char) (rest : List Char) :
    signed? (c :: rest) =
      if c = '-' then (unsigned? rest).map fun n : Nat => -(n : Int)
      else if c = '+' then (unsigned? rest).map fun n : Nat => (n : Int)
      else (unsigned? (c :: rest)).map fun n : Nat => (n : Int) := by
  rw [signed?]
  cases unsigned? rest <;> cases unsigned? (c :: rest) <;> rfl

/-- A number that is read from digits and then given a sign. -/
theorem exists_of_map_unsigned? {text : List Char} {f : Nat → Int} {n : Int}
    (h : (unsigned? text).map f = some n) :
    text ≠ [] ∧ (∀ c ∈ text, isDigit c = true) ∧ n = f (Nat.ofDigitChars 10 text 0) := by
  obtain ⟨value, hvalue, rfl⟩ := Option.map_eq_some_iff.mp h
  obtain ⟨hne, hdigits, rfl⟩ := unsigned?_eq_some_iff.mp hvalue
  exact ⟨hne, hdigits, rfl⟩

/-- Numerals are what is read, as the number that they stand for. -/
theorem signed?_eq_some_iff {text : List Char} {n : Int} :
    signed? text = some n ↔ Numeral text n := by
  constructor
  · intro h
    cases text with
    | nil => cases h
    | cons c rest =>
      rw [signed?_cons] at h
      split at h
      · rename_i hminus
        obtain ⟨hne, hdigits, rfl⟩ := exists_of_map_unsigned? h
        subst hminus
        exact .minus hne hdigits
      · split at h
        · rename_i hplus
          obtain ⟨hne, hdigits, rfl⟩ := exists_of_map_unsigned? h
          subst hplus
          exact .plus hne hdigits
        · obtain ⟨hne, hdigits, rfl⟩ := exists_of_map_unsigned? h
          exact .plain hne hdigits
  · intro h
    cases h with
    | plain hne hdigits =>
      rw [signed?_of_digits hne hdigits, unsigned?_eq_some_iff.mpr ⟨hne, hdigits, rfl⟩]
      rfl
    | plus hne hdigits =>
      rw [signed?, if_neg (by decide), if_pos rfl,
        unsigned?_eq_some_iff.mpr ⟨hne, hdigits, rfl⟩]
      rfl
    | minus hne hdigits =>
      rw [signed?, if_pos rfl, unsigned?_eq_some_iff.mpr ⟨hne, hdigits, rfl⟩]
      rfl

/-- A numeral holds digits, and otherwise only a sign. -/
theorem Numeral.mem {text : List Char} {n : Int} {c : Char} (h : Numeral text n) (hc : c ∈ text) :
    c = '+' ∨ c = '-' ∨ isDigit c = true := by
  cases h with
  | plain hne hdigits => exact Or.inr (Or.inr (hdigits c hc))
  | plus hne hdigits =>
    rcases List.mem_cons.mp hc with rfl | hc
    · exact Or.inl rfl
    · exact Or.inr (Or.inr (hdigits c hc))
  | minus hne hdigits =>
    rcases List.mem_cons.mp hc with rfl | hc
    · exact Or.inr (Or.inl rfl)
    · exact Or.inr (Or.inr (hdigits c hc))

end LdapClient.Text.Decimal
