/-
# LdapClient.Proofs.Text.Octets -- reading back what was written as octets

The UTF-8 form of a character takes one to four octets.  `split` finds each form again as one
character, which is shown form by form; `decode_encode` puts the characters of a text together.

The other way round, what `split` takes for a character is the form of that character, so octets
without ill-formed parts are those of a text (`isUtf8_iff`).
-/
import LdapClient.Text.Octets

namespace LdapClient.Text

/-! ## One form each -/

section Forms

variable {a b c d : UInt8} (rest : Octets)

theorem split_one (h : a.toNat < 0x80) :
    split (a :: rest) = some (Char.ofNat a.toNat) :: split rest := by
  rw [split, if_pos h]

theorem split_two {low high : Nat} (ha : ¬ a.toNat < 0x80)
    (htail : tailOf a.toNat = some ⟨low, high, 0⟩) (hlow : low ≤ b.toNat) (hhigh : b.toNat ≤ high) :
    split (a :: b :: rest) =
      some (Char.ofNat (a.toNat % 32 * 64 + payload b)) :: split rest := by
  rw [split, if_neg ha, htail]
  simp [Nat.not_lt.mpr hlow, Nat.not_lt.mpr hhigh]

theorem split_three {low high : Nat} (ha : ¬ a.toNat < 0x80)
    (htail : tailOf a.toNat = some ⟨low, high, 1⟩) (hlow : low ≤ b.toNat) (hhigh : b.toNat ≤ high)
    (hc : isContinuation c = true) :
    split (a :: b :: c :: rest) =
      some (Char.ofNat (a.toNat % 16 * 4096 + payload b * 64 + payload c)) :: split rest := by
  rw [split, if_neg ha, htail]
  simp [Nat.not_lt.mpr hlow, Nat.not_lt.mpr hhigh, hc]

theorem split_four {low high : Nat} (ha : ¬ a.toNat < 0x80)
    (htail : tailOf a.toNat = some ⟨low, high, 2⟩) (hlow : low ≤ b.toNat) (hhigh : b.toNat ≤ high)
    (hc : isContinuation c = true) (hd : isContinuation d = true) :
    split (a :: b :: c :: d :: rest) =
      some (Char.ofNat (a.toNat % 8 * 262144 + payload b * 4096 + payload c * 64 + payload d))
        :: split rest := by
  rw [split, if_neg ha, htail]
  simp [Nat.not_lt.mpr hlow, Nat.not_lt.mpr hhigh, hc, hd]

end Forms

/-! ## Lead octets -/

theorem tailOf_two {a : Nat} (h : 0xC2 ≤ a) (h' : a < 0xE0) :
    tailOf a = some ⟨0x80, 0xBF, 0⟩ := by
  unfold tailOf
  rw [if_neg (by omega), if_pos h']

/-- No octet may follow that would make the form too long or stand for a surrogate. -/
theorem tailOf_three {a b : Nat} (h : 0xE0 ≤ a) (h' : a < 0xF0) (hb : 0x80 ≤ b) (hb' : b ≤ 0xBF)
    (hlong : a = 0xE0 → 0xA0 ≤ b) (hsurrogate : a = 0xED → b ≤ 0x9F) :
    ∃ low high, tailOf a = some ⟨low, high, 1⟩ ∧ low ≤ b ∧ b ≤ high := by
  unfold tailOf
  rw [if_neg (by omega), if_neg (by omega)]
  by_cases hE0 : a = 0xE0
  · exact ⟨0xA0, 0xBF, by rw [if_pos hE0], hlong hE0, hb'⟩
  · by_cases hED : a = 0xED
    · exact ⟨0x80, 0x9F, by rw [if_neg hE0, if_pos hED], hb, hsurrogate hED⟩
    · exact ⟨0x80, 0xBF, by rw [if_neg hE0, if_neg hED, if_pos h'], hb, hb'⟩

/-- No octet may follow that would make the form too long or pass the last character. -/
theorem tailOf_four {a b : Nat} (h : 0xF0 ≤ a) (h' : a ≤ 0xF4) (hb : 0x80 ≤ b) (hb' : b ≤ 0xBF)
    (hlong : a = 0xF0 → 0x90 ≤ b) (hlast : a = 0xF4 → b ≤ 0x8F) :
    ∃ low high, tailOf a = some ⟨low, high, 2⟩ ∧ low ≤ b ∧ b ≤ high := by
  unfold tailOf
  rw [if_neg (by omega), if_neg (by omega), if_neg (by omega), if_neg (by omega), if_neg (by omega)]
  by_cases hF0 : a = 0xF0
  · exact ⟨0x90, 0xBF, by rw [if_pos hF0], hlong hF0, hb'⟩
  · by_cases hF4 : a = 0xF4
    · exact ⟨0x80, 0x8F, by rw [if_neg hF0, if_neg (by omega), if_pos hF4], hb, hlast hF4⟩
    · exact ⟨0x80, 0xBF, by rw [if_neg hF0, if_pos (by omega)], hb, hb'⟩

/-! ## The octets of a number -/

theorem toNat_ofNat {n : Nat} (h : n < 256) : (UInt8.ofNat n).toNat = n := by
  rw [UInt8.toNat_ofNat']
  exact Nat.mod_eq_of_lt h

section Numbers

variable (n : Nat)

/-- The octet that carries the lowest six bits. -/
theorem toNat_continuation : (UInt8.ofNat (n % 64 + 0x80)).toNat = n % 64 + 0x80 :=
  toNat_ofNat (by omega)

theorem payload_continuation : payload (UInt8.ofNat (n % 64 + 0x80)) = n % 64 := by
  rw [payload, toNat_continuation]
  omega

theorem isContinuation_continuation : isContinuation (UInt8.ofNat (n % 64 + 0x80)) = true := by
  simp only [isContinuation, toNat_continuation, Bool.and_eq_true, decide_eq_true_eq]
  omega

variable {n} (rest : Octets)

theorem split_octets_one (h : n ≤ 0x7F) :
    split (UInt8.ofNat n :: rest) = some (Char.ofNat n) :: split rest := by
  have hlead : (UInt8.ofNat n).toNat = n := toNat_ofNat (by omega)
  rw [split_one rest (by omega), hlead]

theorem split_octets_two (hmore : ¬ n ≤ 0x7F) (h : n ≤ 0x7FF) :
    split (UInt8.ofNat (n / 64 % 32 + 0xC0) :: UInt8.ofNat (n % 64 + 0x80) :: rest) =
      some (Char.ofNat n) :: split rest := by
  have hlead : (UInt8.ofNat (n / 64 % 32 + 0xC0)).toNat = n / 64 % 32 + 0xC0 :=
    toNat_ofNat (by omega)
  have hsecond := toNat_continuation n
  rw [split_two rest (by omega) (tailOf_two (by omega) (by omega)) (by omega) (by omega), hlead,
    payload_continuation]
  rw [show (n / 64 % 32 + 0xC0) % 32 * 64 + n % 64 = n by omega]

/-- The numbers of surrogates are not written. -/
theorem split_octets_three (hmore : ¬ n ≤ 0x7FF) (h : n ≤ 0xFFFF)
    (hvalid : n < 0xD800 ∨ 0xDFFF < n) :
    split (UInt8.ofNat (n / 4096 % 16 + 0xE0) :: UInt8.ofNat (n / 64 % 64 + 0x80) ::
        UInt8.ofNat (n % 64 + 0x80) :: rest) = some (Char.ofNat n) :: split rest := by
  have hlead : (UInt8.ofNat (n / 4096 % 16 + 0xE0)).toNat = n / 4096 % 16 + 0xE0 :=
    toNat_ofNat (by omega)
  have hsecond := toNat_continuation (n / 64)
  obtain ⟨low, high, htail, hlow, hhigh⟩ := tailOf_three (a := n / 4096 % 16 + 0xE0)
    (b := n / 64 % 64 + 0x80) (by omega) (by omega) (by omega) (by omega) (by omega) (by omega)
  rw [split_three rest (by omega) (hlead.symm ▸ htail) (by omega) (by omega)
    (isContinuation_continuation n), hlead, payload_continuation, payload_continuation]
  rw [show (n / 4096 % 16 + 0xE0) % 16 * 4096 + n / 64 % 64 * 64 + n % 64 = n by omega]

theorem split_octets_four (hmore : ¬ n ≤ 0xFFFF) (h : n < 0x110000) :
    split (UInt8.ofNat (n / 262144 % 8 + 0xF0) :: UInt8.ofNat (n / 4096 % 64 + 0x80) ::
        UInt8.ofNat (n / 64 % 64 + 0x80) :: UInt8.ofNat (n % 64 + 0x80) :: rest) =
      some (Char.ofNat n) :: split rest := by
  have hlead : (UInt8.ofNat (n / 262144 % 8 + 0xF0)).toNat = n / 262144 % 8 + 0xF0 :=
    toNat_ofNat (by omega)
  have hsecond := toNat_continuation (n / 4096)
  obtain ⟨low, high, htail, hlow, hhigh⟩ := tailOf_four (a := n / 262144 % 8 + 0xF0)
    (b := n / 4096 % 64 + 0x80) (by omega) (by omega) (by omega) (by omega) (by omega) (by omega)
  rw [split_four rest (by omega) (hlead.symm ▸ htail) (by omega) (by omega)
    (isContinuation_continuation (n / 64)) (isContinuation_continuation n), hlead,
    payload_continuation, payload_continuation, payload_continuation]
  rw [show (n / 262144 % 8 + 0xF0) % 8 * 262144 + n / 4096 % 64 * 4096 + n / 64 % 64 * 64 +
    n % 64 = n by omega]

end Numbers

/-! ## Characters -/

theorem toNat_charOfNat {n : Nat} (h : n.isValidChar) : (Char.ofNat n).toNat = n := by
  unfold Char.ofNat
  rw [dif_pos h]
  rfl

theorem utf8EncodeChar_ascii {c : Char} (h : c.toNat < 0x80) :
    String.utf8EncodeChar c = [UInt8.ofNat c.toNat] := by
  unfold String.utf8EncodeChar
  exact if_pos (Nat.le_of_lt_succ h)

theorem encode_singleton (c : Char) : encode [c] = String.utf8EncodeChar c :=
  List.flatMap_singleton String.utf8EncodeChar c

theorem encode_append (front back : List Char) :
    encode (front ++ back) = encode front ++ encode back :=
  List.flatMap_append

theorem encode_cons (c : Char) (rest : List Char) :
    encode (c :: rest) = String.utf8EncodeChar c ++ encode rest :=
  List.flatMap_cons

theorem encode_cons_ascii {c : Char} (h : c.toNat < 0x80) (rest : List Char) :
    encode (c :: rest) = UInt8.ofNat c.toNat :: encode rest := by
  rw [encode_cons, utf8EncodeChar_ascii h, List.singleton_append]

/-- A character is found again at the front of any octets. -/
theorem split_utf8EncodeChar (c : Char) (rest : Octets) :
    split (String.utf8EncodeChar c ++ rest) = some c :: split rest := by
  have hvalid : c.toNat < 0xD800 ∨ 0xDFFF < c.toNat ∧ c.toNat < 0x110000 := c.valid
  have hchar : Char.ofNat c.toNat = c := Char.ofNat_toNat c
  unfold String.utf8EncodeChar
  rw [show c.val.toNat = c.toNat from rfl]
  generalize c.toNat = n at hvalid hchar ⊢
  dsimp only
  split
  · rename_i hone
    rw [List.singleton_append, split_octets_one rest hone, hchar]
  · rename_i hone
    split
    · rename_i htwo
      rw [List.cons_append, List.singleton_append, split_octets_two rest hone htwo, hchar]
    · rename_i htwo
      split
      · rename_i hthree
        rw [List.cons_append, List.cons_append, List.singleton_append,
          split_octets_three rest htwo hthree (by omega), hchar]
      · rename_i hthree
        rw [List.cons_append, List.cons_append, List.cons_append, List.singleton_append,
          split_octets_four rest hthree (by omega), hchar]

theorem split_encode (text : List Char) : split (encode text) = text.map some := by
  induction text with
  | nil => rfl
  | cons c rest ih =>
    rw [encode_cons, split_utf8EncodeChar, ih, List.map_cons]

/-- Reading octets undoes writing them. -/
theorem decode_encode (text : List Char) : decode (encode text) = text := by
  rw [decode, split_encode, List.map_map]
  exact List.map_id text

theorem encode_ne_nil {text : List Char} (h : text ≠ []) : encode text ≠ [] := by
  intro hnil
  have hdecode := congrArg decode hnil
  rw [decode_encode] at hdecode
  exact h hdecode

/-! ## Well-formed octets -/

/-- The octets are the UTF-8 form of a text. -/
def IsUtf8 (bytes : Octets) : Prop :=
  ∃ text, bytes = encode text

/-- What a lead octet announces is one of the forms that are written. -/
inductive Announces (a : Nat) : Tail → Prop
  | two {low high : Nat} (h : 0xC2 ≤ a) (h' : a < 0xE0) (hlow : 0x80 ≤ low) (hhigh : high ≤ 0xBF) :
      Announces a ⟨low, high, 0⟩
  | three {low high : Nat} (h : 0xE0 ≤ a) (h' : a < 0xF0) (hlow : 0x80 ≤ low) (hhigh : high ≤ 0xBF)
      (hlong : a = 0xE0 → 0xA0 ≤ low) (hsurrogate : a = 0xED → high ≤ 0x9F) :
      Announces a ⟨low, high, 1⟩
  | four {low high : Nat} (h : 0xF0 ≤ a) (h' : a ≤ 0xF4) (hlow : 0x80 ≤ low) (hhigh : high ≤ 0xBF)
      (hlong : a = 0xF0 → 0x90 ≤ low) (hlast : a = 0xF4 → high ≤ 0x8F) : Announces a ⟨low, high, 2⟩

theorem announces_tailOf {a : Nat} {tail : Tail} (h : tailOf a = some tail) : Announces a tail := by
  unfold tailOf at h
  split at h
  · cases h
  split at h
  · cases h
    exact .two (by omega) (by omega) (by omega) (by omega)
  split at h
  · cases h
    exact .three (by omega) (by omega) (by omega) (by omega) (by omega) (by omega)
  split at h
  · cases h
    exact .three (by omega) (by omega) (by omega) (by omega) (by omega) (by omega)
  split at h
  · cases h
    exact .three (by omega) (by omega) (by omega) (by omega) (by omega) (by omega)
  split at h
  · cases h
    exact .four (by omega) (by omega) (by omega) (by omega) (by omega) (by omega)
  split at h
  · cases h
    exact .four (by omega) (by omega) (by omega) (by omega) (by omega) (by omega)
  split at h
  · cases h
    exact .four (by omega) (by omega) (by omega) (by omega) (by omega) (by omega)
  · cases h

theorem isContinuation_bounds {a : UInt8} (h : isContinuation a = true) :
    0x80 ≤ a.toNat ∧ a.toNat ≤ 0xBF := by
  simpa [isContinuation] using h

/-- The octets of a character by its number. -/
theorem utf8EncodeChar_ofNat {n : Nat} (h : n.isValidChar) :
    String.utf8EncodeChar (Char.ofNat n) =
      if n ≤ 0x7F then [UInt8.ofNat n]
      else if n ≤ 0x7FF then [UInt8.ofNat (n / 64 % 32 + 0xC0), UInt8.ofNat (n % 64 + 0x80)]
      else if n ≤ 0xFFFF then [UInt8.ofNat (n / 4096 % 16 + 0xE0),
        UInt8.ofNat (n / 64 % 64 + 0x80), UInt8.ofNat (n % 64 + 0x80)]
      else [UInt8.ofNat (n / 262144 % 8 + 0xF0), UInt8.ofNat (n / 4096 % 64 + 0x80),
        UInt8.ofNat (n / 64 % 64 + 0x80), UInt8.ofNat (n % 64 + 0x80)] := by
  unfold String.utf8EncodeChar
  rw [show (Char.ofNat n).val.toNat = n from toNat_charOfNat h]

section Characters

variable {a b c d : UInt8}

theorem utf8EncodeChar_one (h : a.toNat < 0x80) :
    String.utf8EncodeChar (Char.ofNat a.toNat) = [a] := by
  rw [utf8EncodeChar_ofNat (.inl (by omega)), if_pos (by omega), UInt8.ofNat_toNat]

theorem utf8EncodeChar_two (h : 0xC2 ≤ a.toNat) (h' : a.toNat < 0xE0) (hb : 0x80 ≤ b.toNat)
    (hb' : b.toNat ≤ 0xBF) :
    String.utf8EncodeChar (Char.ofNat (a.toNat % 32 * 64 + payload b)) = [a, b] := by
  unfold payload
  generalize hn : a.toNat % 32 * 64 + b.toNat % 64 = n
  have hfirst : n / 64 % 32 + 0xC0 = a.toNat := by omega
  have hsecond : n % 64 + 0x80 = b.toNat := by omega
  rw [utf8EncodeChar_ofNat (.inl (by omega)), if_neg (by omega), if_pos (by omega), hfirst, hsecond,
    UInt8.ofNat_toNat, UInt8.ofNat_toNat]

theorem utf8EncodeChar_three (h : 0xE0 ≤ a.toNat) (h' : a.toNat < 0xF0) (hb : 0x80 ≤ b.toNat)
    (hb' : b.toNat ≤ 0xBF) (hlong : a.toNat = 0xE0 → 0xA0 ≤ b.toNat)
    (hsurrogate : a.toNat = 0xED → b.toNat ≤ 0x9F) (hc : isContinuation c = true) :
    String.utf8EncodeChar (Char.ofNat (a.toNat % 16 * 4096 + payload b * 64 + payload c)) =
      [a, b, c] := by
  obtain ⟨hc, hc'⟩ := isContinuation_bounds hc
  unfold payload
  generalize hn : a.toNat % 16 * 4096 + b.toNat % 64 * 64 + c.toNat % 64 = n
  have hvalid : n.isValidChar := by
    unfold Nat.isValidChar
    omega
  have hfirst : n / 4096 % 16 + 0xE0 = a.toNat := by omega
  have hsecond : n / 64 % 64 + 0x80 = b.toNat := by omega
  have hthird : n % 64 + 0x80 = c.toNat := by omega
  rw [utf8EncodeChar_ofNat hvalid, if_neg (by omega), if_neg (by omega), if_pos (by omega), hfirst,
    hsecond, hthird, UInt8.ofNat_toNat, UInt8.ofNat_toNat, UInt8.ofNat_toNat]

theorem utf8EncodeChar_four (h : 0xF0 ≤ a.toNat) (h' : a.toNat ≤ 0xF4) (hb : 0x80 ≤ b.toNat)
    (hb' : b.toNat ≤ 0xBF) (hlong : a.toNat = 0xF0 → 0x90 ≤ b.toNat)
    (hlast : a.toNat = 0xF4 → b.toNat ≤ 0x8F) (hc : isContinuation c = true)
    (hd : isContinuation d = true) :
    String.utf8EncodeChar (Char.ofNat (a.toNat % 8 * 262144 + payload b * 4096 + payload c * 64 +
      payload d)) = [a, b, c, d] := by
  obtain ⟨hc, hc'⟩ := isContinuation_bounds hc
  obtain ⟨hd, hd'⟩ := isContinuation_bounds hd
  unfold payload
  generalize hn :
    a.toNat % 8 * 262144 + b.toNat % 64 * 4096 + c.toNat % 64 * 64 + d.toNat % 64 = n
  have hvalid : n.isValidChar := by
    unfold Nat.isValidChar
    omega
  have hfirst : n / 262144 % 8 + 0xF0 = a.toNat := by omega
  have hsecond : n / 4096 % 64 + 0x80 = b.toNat := by omega
  have hthird : n / 64 % 64 + 0x80 = c.toNat := by omega
  have hfourth : n % 64 + 0x80 = d.toNat := by omega
  rw [utf8EncodeChar_ofNat hvalid, if_neg (by omega), if_neg (by omega), if_neg (by omega), hfirst,
    hsecond, hthird, hfourth, UInt8.ofNat_toNat, UInt8.ofNat_toNat, UInt8.ofNat_toNat,
    UInt8.ofNat_toNat]

end Characters

/-- Writing octets again undoes reading them if none was ill-formed. -/
theorem encode_decode {bytes : Octets} (h : none ∉ split bytes) :
    encode (decode bytes) = bytes := by
  have hcons (c : Char) (parts : List (Option Char)) :
      encode ((some c :: parts).map fun part => part.getD replacement) =
        String.utf8EncodeChar c ++ encode (parts.map fun part => part.getD replacement) :=
    encode_cons c _
  unfold decode
  -- the forms of one to four octets are the cases 2, 6, 8 and 12; all others but the first are
  -- ill-formed
  fun_induction split bytes with
  | case1 => rfl
  | case2 a rest ha ih =>
    rw [hcons, utf8EncodeChar_one ha, ih (List.not_mem_of_not_mem_cons h)]
    rfl
  | case6 a ha tail htail b rest hb hfurther ih =>
    cases announces_tailOf htail with
    | two hlow hhigh hlow' hhigh' =>
      simp only [Bool.or_eq_true, decide_eq_true_eq, not_or, Nat.not_lt] at hb
      rw [hcons, utf8EncodeChar_two hlow hhigh (by omega) (by omega),
        ih (List.not_mem_of_not_mem_cons h)]
      rfl
    | three => cases hfurther
    | four => cases hfurther
  | case8 a ha tail htail b hb hfurther c rest hc ih =>
    cases announces_tailOf htail with
    | two => cases hfurther
    | three hlow hhigh hlow' hhigh' hlong hsurrogate =>
      simp only [Bool.or_eq_true, decide_eq_true_eq, not_or, Nat.not_lt] at hb
      rw [hcons, utf8EncodeChar_three hlow hhigh (by omega) (by omega) (by omega) (by omega) hc,
        ih (List.not_mem_of_not_mem_cons h)]
      rfl
    | four => cases hfurther
  | case12 a ha tail htail b hb c hc d rest hd hzero hone ih =>
    cases announces_tailOf htail with
    | two => exact absurd rfl hzero
    | three => exact absurd rfl hone
    | four hlow hhigh hlow' hhigh' hlong hlast =>
      simp only [Bool.or_eq_true, decide_eq_true_eq, not_or, Nat.not_lt] at hb
      rw [hcons, utf8EncodeChar_four hlow hhigh (by omega) (by omega) (by omega) (by omega) hc hd,
        ih (List.not_mem_of_not_mem_cons h)]
      rfl
  | _ => exact absurd List.mem_cons_self h

theorem isUtf8_iff {bytes : Octets} : IsUtf8 bytes ↔ none ∉ split bytes := by
  constructor
  · rintro ⟨text, rfl⟩
    rw [split_encode]
    simp
  · intro h
    exact ⟨decode bytes, (encode_decode h).symm⟩

/-- What is read of ill-formed octets shows it. -/
theorem replacement_mem_decode {bytes : Octets} (h : ¬ IsUtf8 bytes) :
    replacement ∈ decode bytes := by
  have hsplit : none ∈ split bytes :=
    Decidable.byContradiction fun hnot => h (isUtf8_iff.mpr hnot)
  exact List.mem_map.mpr ⟨none, hsplit, rfl⟩

theorem decode_ne_nil {bytes : Octets} (h : bytes ≠ []) : decode bytes ≠ [] := by
  intro hnil
  have hsplit : split bytes = [] := List.map_eq_nil_iff.mp hnil
  have hbytes := encode_decode (by rw [hsplit]; exact List.not_mem_nil)
  rw [hnil] at hbytes
  exact h hbytes.symm

end LdapClient.Text
