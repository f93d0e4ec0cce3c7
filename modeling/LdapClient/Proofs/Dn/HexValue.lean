/-
# LdapClient.Proofs.Dn.HexValue -- values written octet by octet

Any octets can be written as a value, each as a backslash with its two hexadecimal digits, and a
name with such a value is read as it is written.  Names are compared by the text that is read of
the octets, in which one and the same character stands for each ill-formed part.  So comparing is
right for well-formed octets, where the text tells which octets there were, and for no others:
ill-formed octets are taken for those of the text that is read of them.  The main statement is
`octet_names_compared`.
-/
import LdapClient.Proofs.Dn.EscapeForm

namespace LdapClient.Dn

open Text

/-! ## Octets as digits -/

/-- The octets are written as a backslash and two hexadecimal digits each. -/
inductive HexWritten : Octets → List Char → Prop
  | nil : HexWritten [] []
  | cons {octet : UInt8} {high low : Char} (hhigh : hexValue high = some (octet.toNat / 16))
      (hlow : hexValue low = some (octet.toNat % 16)) {octets : Octets} {text : List Char}
      (hrest : HexWritten octets text) : HexWritten (octet :: octets) ('\\' :: high :: low :: text)

theorem hexValue_digitChar : ∀ n < 16, hexValue (Nat.digitChar n) = some n := by
  decide

theorem exists_hexWritten (octets : Octets) : ∃ text, HexWritten octets text := by
  induction octets with
  | nil => exact ⟨[], .nil⟩
  | cons a octets ih =>
    obtain ⟨text, htext⟩ := ih
    have hbound := a.toNat_lt
    exact ⟨_, .cons (hexValue_digitChar _ (by omega)) (hexValue_digitChar _ (by omega)) htext⟩

namespace HexWritten

variable {octets : Octets} {text : List Char} (h : HexWritten octets text)

include h

/-- The octets are read again. -/
theorem unescape_eq : unescape (encode text) = octets := by
  induction h with
  | nil => rfl
  | cons hhigh hlow _ ih =>
    have hhigh' := hexValue_bounds hhigh
    have hlow' := hexValue_bounds hlow
    rw [encode_cons_ascii (by decide), encode_cons_ascii (by omega), encode_cons_ascii (by omega),
      unescape_pair (by decide) (hexPair_digits hhigh hlow), ih, Nat.div_add_mod',
      UInt8.ofNat_toNat]

theorem normalValue_eq : Assertion.normalValue text = lowerCase (trim (decode octets)) := by
  rw [Assertion.normalValue, h.unescape_eq]

theorem whole : Whole [',', '+'] text := by
  induction h with
  | nil => exact .nil
  | cons _ hlow _ ih => exact (whole_digits _ hlow).append ih

theorem tight : Tight text where
  front := by
    cases h with
    | nil => simp
    | cons =>
      rintro _ ⟨rfl⟩
      decide
  back := by
    induction h with
    | nil => simp
    | @cons _ _ low _ hlow _ text _ ih =>
      cases text with
      | nil =>
        rintro _ ⟨rfl⟩
        exact isBlank_digit hlow
      | cons c rest => exact ih

theorem clean (hne : octets ≠ []) : IsCleanValue text := by
  refine isCleanValue h.whole h.tight ?_
  cases h with
  | nil => exact absurd rfl hne
  | cons => exact List.cons_ne_nil _ _

end HexWritten

/-! ## Values that are the same -/

/-- The octets are the same value: they are equal, or they are texts that agree without blanks at
the ends and in small letters. -/
def Agree (u w : Octets) : Prop :=
  u = w ∨ ∃ a b, u = encode a ∧ w = encode b ∧ lowerCase (trim a) = lowerCase (trim b)

theorem agree_of_isUtf8 {u w : Octets} (hu : IsUtf8 u) (hw : IsUtf8 w)
    (h : lowerCase (trim (decode u)) = lowerCase (trim (decode w))) : Agree u w := by
  obtain ⟨a, rfl⟩ := hu
  obtain ⟨b, rfl⟩ := hw
  rw [decode_encode, decode_encode] at h
  exact .inr ⟨a, b, rfl, rfl, h⟩

theorem Agree.eq_or_isUtf8 {u w : Octets} (h : Agree u w) : u = w ∨ IsUtf8 u ∧ IsUtf8 w := by
  rcases h with h | ⟨a, b, ha, hb, -⟩
  · exact .inl h
  · exact .inr ⟨⟨a, ha⟩, ⟨b, hb⟩⟩

/-- The character for ill-formed octets is neither dropped nor made by comparing. -/
theorem replacement_mem_normal {text : List Char} :
    replacement ∈ lowerCase (trim text) ↔ replacement ∈ text := by
  have hcaseless : IsCaseless replacement := by decide +kernel
  rw [← List.count_pos_iff, ← List.count_pos_iff, count_lowerCase hcaseless, count_trim (by decide)]

section Names

variable {u w : Octets} {s t : List Char} (hs : HexWritten u s) (ht : HexWritten w t) (hu : u ≠ [])
  (hw : w ≠ [])

include hs ht hu hw

theorem sameText_hexWritten : sameText (commonName s) (commonName t) = true ↔
    lowerCase (trim (decode u)) = lowerCase (trim (decode w)) := by
  rw [sameText_commonName (hs.clean hu) (ht.clean hw), hs.normalValue_eq, ht.normalValue_eq]

/-- However octets are written as digits, they are read as a name, and two such names are the same
just if the texts that are read of the octets agree without blanks at the ends and in small letters.
Names that are the same have the same value if and only if their octets are equal or are both
well-formed.  This is so for all octets of which no replacement character is read; and it is not so
for any ill-formed octets, because what is read of them, written again as octets, makes another
value and the same name. -/
theorem octet_names_compared :
    ((parse (commonName s)).isOk ∧ (parse (commonName t)).isOk) ∧
    (sameText (commonName s) (commonName t) = true ↔
      lowerCase (trim (decode u)) = lowerCase (trim (decode w))) ∧
    (sameText (commonName s) (commonName t) = true → (Agree u w ↔ u = w ∨ IsUtf8 u ∧ IsUtf8 w)) ∧
    (replacement ∉ decode u → sameText (commonName s) (commonName t) = true → Agree u w) ∧
    (¬ IsUtf8 u → ¬ Agree u (encode (decode u)) ∧ (∃ r, HexWritten (encode (decode u)) r) ∧
      ∀ r, HexWritten (encode (decode u)) r →
        sameText (commonName s) (commonName r) = true) := by
  have hsame := sameText_hexWritten hs ht hu hw
  refine ⟨?_, hsame, ?_, ?_, ?_⟩
  · rw [parse_commonName (hs.clean hu), parse_commonName (ht.clean hw)]
    exact ⟨rfl, rfl⟩
  · intro h
    refine ⟨Agree.eq_or_isUtf8, ?_⟩
    rintro (heq | ⟨hu', hw'⟩)
    · exact .inl heq
    · exact agree_of_isUtf8 hu' hw' (hsame.mp h)
  · intro hnot h
    have hnormal := hsame.mp h
    -- the replacement character would be seen on both sides
    have hnot' : replacement ∉ decode w := by
      rwa [← replacement_mem_normal, ← hnormal, replacement_mem_normal]
    exact agree_of_isUtf8 (not_imp_comm.mp replacement_mem_decode hnot)
      (not_imp_comm.mp replacement_mem_decode hnot') hnormal
  · intro hnot
    have hne : encode (decode u) ≠ [] := encode_ne_nil (decode_ne_nil hu)
    refine ⟨?_, exists_hexWritten _, fun r hr => ?_⟩
    · intro hagree
      rcases hagree.eq_or_isUtf8 with heq | ⟨hu', -⟩
      · exact hnot ⟨_, heq⟩
      · exact hnot hu'
    · rw [sameText_hexWritten hs hr hu hne, decode_encode]

end Names

/-- A capital letter, and the small one behind a blank. -/
theorem accented_letters_same :
    HexWritten [0xC3, 0x89] "\\C3\\89".toList ∧
      HexWritten [0x20, 0xC3, 0xA9] "\\20\\c3\\A9".toList ∧
      commonName "\\C3\\89".toList = "cn=\\C3\\89,dc=org" ∧
      commonName "\\20\\c3\\A9".toList = "cn=\\20\\c3\\A9,dc=org" ∧
      sameText "cn=\\C3\\89,dc=org" "cn=\\20\\c3\\A9,dc=org" = true ∧
      Agree [0xC3, 0x89] [0x20, 0xC3, 0xA9] := by
  have hcapital : HexWritten [0xC3, 0x89] ['\\', 'C', '3', '\\', '8', '9'] :=
    .cons (by decide) (by decide) (.cons (by decide) (by decide) .nil)
  have hsmall : HexWritten [0x20, 0xC3, 0xA9]
      ['\\', '2', '0', '\\', 'c', '3', '\\', 'A', '9'] :=
    .cons (by decide) (by decide)
      (.cons (by decide) (by decide) (.cons (by decide) (by decide) .nil))
  obtain ⟨-, hnormal, -, hagree, -⟩ :=
    octet_names_compared hcapital hsmall (List.cons_ne_nil _ _) (List.cons_ne_nil _ _)
  have hsame := hnormal.mpr (by decide +kernel)
  exact ⟨hcapital, hsmall, rfl, rfl, hsame, hagree (by decide) hsame⟩

/-- Octets that begin no character are all read as the same one. -/
theorem ill_formed_values_same :
    HexWritten [0xFF] "\\FF".toList ∧ HexWritten [0xFE] "\\FE".toList ∧
      sameText "cn=\\FF,dc=org" "cn=\\FE,dc=org" = true ∧ ¬ Agree [0xFF] [0xFE] := by
  have hff : HexWritten [0xFF] ['\\', 'F', 'F'] := .cons (by decide) (by decide) .nil
  have hfe : HexWritten [0xFE] ['\\', 'F', 'E'] := .cons (by decide) (by decide) .nil
  refine ⟨hff, hfe, by decide +kernel, fun hagree => ?_⟩
  rcases hagree.eq_or_isUtf8 with heq | ⟨hwell, -⟩
  · contradiction
  · exact isUtf8_iff.mp hwell (by decide)

end LdapClient.Dn
