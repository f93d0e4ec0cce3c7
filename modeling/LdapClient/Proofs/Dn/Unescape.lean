/-
# LdapClient.Proofs.Dn.Unescape -- reading escapes octet by octet

`unescape` looks up to two octets ahead of a backslash.  There is one equation for each thing that
it can find there, and `hexPair` is said in terms of characters, since the octets of ASCII
characters are the characters themselves and no other octet is a digit.
-/
import LdapClient.Dn.Escape
import LdapClient.Proofs.Text.Octets

namespace LdapClient.Dn

open Text

/-! ## Equations -/

theorem unescape_cons {a : UInt8} (ha : a.toNat ≠ 92) (rest : Octets) :
    unescape (a :: rest) = a :: unescape rest := by
  -- how much is left decides which equation of `unescape` applies, though they all say the same
  match rest with
  | [] => simp [unescape, ha]
  | [b] => simp [unescape, ha]
  | b :: c :: rest => rw [unescape, if_neg ha]

/-- Octets that are no backslashes are left as they are. -/
theorem unescape_append {front : Octets} (h : ∀ a ∈ front, a.toNat ≠ 92) (rest : Octets) :
    unescape (front ++ rest) = front ++ unescape rest := by
  induction front with
  | nil => rfl
  | cons a front ih =>
    have hrest := ih fun b hb => h b (List.mem_cons_of_mem a hb)
    rw [List.cons_append, unescape_cons (h a List.mem_cons_self), hrest, List.cons_append]

theorem unescape_pair {a b c octet : UInt8} (ha : a.toNat = 92) (h : hexPair b c = some octet)
    (rest : Octets) : unescape (a :: b :: c :: rest) = octet :: unescape rest := by
  rw [unescape, if_pos ha, h]

/-- A backslash before something that is no pair is dropped. -/
theorem unescape_single {a b : UInt8} (ha : a.toNat = 92) {rest : Octets}
    (h : ∀ c ∈ rest.head?, hexPair b c = none) :
    unescape (a :: b :: rest) = b :: unescape rest := by
  match rest with
  | [] => simp [unescape, ha]
  | c :: rest => rw [unescape, if_pos ha, h c rfl]

/-! ## Octets of characters -/

theorem toNat_ascii {c : Char} (h : c.toNat < 0x80) : (UInt8.ofNat c.toNat).toNat = c.toNat :=
  toNat_ofNat (by omega)

theorem charOf_ascii {c : Char} (h : c.toNat < 0x80) :
    Char.ofNat (UInt8.ofNat c.toNat).toNat = c := by
  rw [toNat_ascii h, Char.ofNat_toNat]

/-- All octets of a character that is not ASCII are outside ASCII. -/
theorem le_of_mem_utf8EncodeChar {c : Char} (h : ¬ c.toNat < 0x80) {a : UInt8}
    (ha : a ∈ String.utf8EncodeChar c) : 0x80 ≤ a.toNat := by
  unfold String.utf8EncodeChar at ha
  rw [show c.val.toNat = c.toNat from rfl] at ha
  generalize c.toNat = n at h ha
  have hone : ¬ n ≤ 0x7F := by omega
  have hbyte : ∀ k : Nat, 0x80 ≤ k → k < 256 → 0x80 ≤ (UInt8.ofNat k).toNat := by
    intro k hk hk'
    rwa [toNat_ofNat hk']
  simp only [if_neg hone] at ha
  split at ha
  · simp only [List.mem_cons, List.not_mem_nil, or_false] at ha
    rcases ha with rfl | rfl <;> exact hbyte _ (by omega) (by omega)
  · split at ha
    · simp only [List.mem_cons, List.not_mem_nil, or_false] at ha
      rcases ha with rfl | rfl | rfl <;> exact hbyte _ (by omega) (by omega)
    · simp only [List.mem_cons, List.not_mem_nil, or_false] at ha
      rcases ha with rfl | rfl | rfl | rfl <;> exact hbyte _ (by omega) (by omega)

theorem utf8EncodeChar_no_backslash {c : Char} (h : c ≠ '\\') :
    ∀ a ∈ String.utf8EncodeChar c, a.toNat ≠ 92 := by
  intro a ha hbackslash
  by_cases hc : c.toNat < 0x80
  · rw [utf8EncodeChar_ascii hc, List.mem_singleton] at ha
    rw [ha, toNat_ascii hc] at hbackslash
    exact h (Char.toNat_inj.mp hbackslash)
  · have hlow := le_of_mem_utf8EncodeChar hc ha
    omega

/-! ## Digits -/

theorem hexValue_bounds {c : Char} {n : Nat} (h : hexValue c = some n) :
    n < 16 ∧ 48 ≤ c.toNat ∧ c.toNat ≤ 102 := by
  simp only [hexValue, Bool.and_eq_true, Nat.ble_eq] at h
  split at h
  · cases h
    omega
  · split at h
    · cases h
      omega
    · split at h
      · cases h
        omega
      · contradiction

/-- The octet that begins a character is a digit just if the character is. -/
theorem hexValue_octet {c : Char} {a : UInt8} (ha : a ∈ (String.utf8EncodeChar c).head?) :
    hexValue (Char.ofNat a.toNat) = hexValue c := by
  by_cases hc : c.toNat < 0x80
  · rw [utf8EncodeChar_ascii hc] at ha
    cases ha
    rw [charOf_ascii hc]
  · have hlow := le_of_mem_utf8EncodeChar hc (List.mem_of_mem_head? ha)
    -- beyond ASCII neither the character nor its first octet is a digit
    have hoctet : hexValue (Char.ofNat a.toNat) = none := by
      apply Option.eq_none_iff_forall_ne_some.mpr
      intro n hn
      obtain ⟨-, -, hhigh⟩ := hexValue_bounds hn
      have hvalid : a.toNat.isValidChar := by
        have := a.toNat_lt
        unfold Nat.isValidChar
        omega
      rw [toNat_charOfNat hvalid] at hhigh
      omega
    have hself : hexValue c = none := by
      apply Option.eq_none_iff_forall_ne_some.mpr
      intro n hn
      obtain ⟨-, -, hhigh⟩ := hexValue_bounds hn
      omega
    rw [hoctet, hself]

theorem hexPair_digits {high low : Char} {h l : Nat} (hhigh : hexValue high = some h)
    (hlow : hexValue low = some l) :
    hexPair (UInt8.ofNat high.toNat) (UInt8.ofNat low.toNat) = some (UInt8.ofNat (h * 16 + l)) := by
  obtain ⟨-, hhigh', hhigh''⟩ := hexValue_bounds hhigh
  obtain ⟨-, -, hlow'⟩ := hexValue_bounds hlow
  rw [hexPair, charOf_ascii (by omega), hlow]
  dsimp only
  rw [if_neg (by rw [toNat_ascii (by omega)]; omega), charOf_ascii (by omega), hhigh]
  rfl

/-- A plus sign in front of a digit counts as its sign. -/
theorem hexPair_plus {low : Char} {l : Nat} (hlow : hexValue low = some l) :
    hexPair (UInt8.ofNat '+'.toNat) (UInt8.ofNat low.toNat) = some (UInt8.ofNat l) := by
  obtain ⟨-, -, hlow'⟩ := hexValue_bounds hlow
  rw [hexPair, charOf_ascii (by omega), hlow]
  rfl

theorem hexPair_eq_none_of_low {a b : UInt8} (h : hexValue (Char.ofNat b.toNat) = none) :
    hexPair a b = none := by
  rw [hexPair, h]

theorem hexPair_eq_none_of_high {a b : UInt8} (hplus : a.toNat ≠ 43)
    (h : hexValue (Char.ofNat a.toNat) = none) : hexPair a b = none := by
  rw [hexPair]
  split
  · rfl
  · rw [if_neg hplus, h]
    rfl

end LdapClient.Dn
