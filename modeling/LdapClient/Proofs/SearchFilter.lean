/-
# LdapClient.Proofs.SearchFilter -- values in the text of a filter

`Encoded` is the rule for values: a character stands for itself unless it is one of
`( ) * \` and NUL, and a backslash and two hexadecimal digits stand for an octet.  `IsEqualityItem`
is the rule for a filter that asks for one value of one attribute.

Reading follows the first rule as far as the value goes (`cutValue_encoded`, `encoded_of_cutValue`).
A text put into a filter as it is stands for itself if and only if all its characters do
(`encoded_encode_iff`): whatever else can be read there stands for something shorter.
-/
import LdapClient.SearchFilter
import LdapClient.Proofs.Text.Octets

namespace LdapClient.SearchFilter

open Text

variable {text rest : List Char} {value : Octets}

/-! ## Values -/

/-- The characters that do not stand for themselves. -/
def reserved : List Char :=
  ['(', ')', '*', '\\', '\x00']

/-- The text is a written value, and these are the octets that it stands for. -/
inductive Encoded : List Char → Octets → Prop
  | nil : Encoded [] []
  | plain {c : Char} {text : List Char} {value : Octets} (hc : c ∉ reserved)
      (h : Encoded text value) : Encoded (c :: text) (encode [c] ++ value)
  | escape {a b : Char} {high low : Nat} {text : List Char} {value : Octets}
      (ha : hexValue a = some high) (hb : hexValue b = some low) (h : Encoded text value) :
      Encoded ('\\' :: a :: b :: text) (UInt8.ofNat (16 * high + low) :: value)

theorem isPlain_iff {c : Char} : isPlain c = true ↔ c ∉ reserved := by
  simp [isPlain, reserved, and_assoc]

/-- A filter that asks for this value of this attribute: one condition between parentheses. -/
def IsEqualityItem (filter target : String) (value : Octets) : Prop :=
  ∃ written, filter.toList = '(' :: target.toList ++ '=' :: written ++ [')'] ∧
    Encoded written value

/-! ## Texts that stand for themselves -/

theorem encode_escape (a b : Char) (text : List Char) :
    encode ('\\' :: a :: b :: text) = encode ['\\', a, b] ++ encode text :=
  encode_append ['\\', a, b] text

theorem one_lt_length_escape (a b : Char) : 1 < (encode ['\\', a, b]).length := by
  have hdigits : 0 < (encode [a, b]).length :=
    List.length_pos_iff.mpr (encode_ne_nil (List.cons_ne_nil a [b]))
  rw [encode_cons, List.length_append]
  exact Nat.add_lt_add_left hdigits 1

/-- No value is longer than what is written for it. -/
theorem Encoded.length_le (h : Encoded text value) : value.length ≤ (encode text).length := by
  induction h with
  | nil => exact Nat.le_refl 0
  | @plain c text value _ _ ih =>
    rw [show encode (c :: text) = _ from encode_append [c] text, List.length_append,
      List.length_append]
    exact Nat.add_le_add_left ih _
  | @escape a b _ _ text value _ _ _ ih =>
    have hescape := one_lt_length_escape a b
    rw [encode_escape, List.length_append, List.length_cons]
    omega

/-- A text stands for itself if and only if each of its characters does. -/
theorem encoded_encode_iff : Encoded text (encode text) ↔ ∀ c ∈ text, c ∉ reserved := by
  constructor
  · generalize hvalue : encode text = value
    intro h
    induction h with
    | nil => exact List.forall_mem_nil _
    | @plain c text value hc _ ih =>
      rw [show encode (c :: text) = _ from encode_append [c] text] at hvalue
      exact List.forall_mem_cons.mpr ⟨hc, ih (List.append_cancel_left hvalue)⟩
    | @escape a b _ _ text value _ _ h =>
      -- one octet is less than the three characters of the escape
      have hescape := one_lt_length_escape a b
      have hrest := h.length_le
      have hlength := congrArg List.length hvalue
      rw [encode_escape, List.length_append, List.length_cons] at hlength
      omega
  · intro h
    induction text with
    | nil => exact .nil
    | cons c text ih =>
      obtain ⟨hc, htext⟩ := List.forall_mem_cons.mp h
      rw [show encode (c :: text) = _ from encode_append [c] text]
      exact .plain hc (ih htext)

/-! ## Values that are read -/

theorem cutValue_plain {c : Char} (hc : c ∉ reserved) (rest : List Char) :
    cutValue (c :: rest) =
      (glueOctets (encode [c]) (cutValue rest).1, (cutValue rest).2) := by
  rw [cutValue.eq_def]
  exact if_pos (isPlain_iff.mpr hc)

theorem cutValue_escape {a b : Char} {high low : Nat} (ha : hexValue a = some high)
    (hb : hexValue b = some low) (rest : List Char) :
    cutValue ('\\' :: a :: b :: rest) =
      (glueOctets [UInt8.ofNat (16 * high + low)] (cutValue rest).1, (cutValue rest).2) := by
  rw [cutValue.eq_def]
  simp [isPlain, ha, hb]

theorem glueOctets_ne_nil (front : Octets) (pieces : List Octets) :
    glueOctets front pieces ≠ [] := by
  cases pieces with
  | nil => exact List.cons_ne_nil front []
  | cons piece pieces => exact List.cons_ne_nil (front ++ piece) pieces

theorem cutValue_ne_nil (text : List Char) : (cutValue text).1 ≠ [] := by
  fun_cases cutValue text <;> first | exact glueOctets_ne_nil _ _ | exact List.cons_ne_nil _ _

theorem cutValue_paren (rest : List Char) : cutValue (')' :: rest) = ([[]], ')' :: rest) := by
  rw [cutValue.eq_def]
  rfl

theorem cutValue_star (rest : List Char) :
    cutValue ('*' :: rest) = ([] :: (cutValue rest).1, (cutValue rest).2) := by
  rw [cutValue.eq_def]
  rfl

theorem glueOctets_glueOctets (front more : Octets) (pieces : List Octets) :
    glueOctets front (glueOctets more pieces) = glueOctets (front ++ more) pieces := by
  cases pieces with
  | nil => rfl
  | cons piece pieces => simp only [glueOctets, List.append_assoc]

/-- A written value in front goes to the first piece. -/
theorem cutValue_append (h : Encoded text value) (rest : List Char) :
    cutValue (text ++ rest) = (glueOctets value (cutValue rest).1, (cutValue rest).2) := by
  induction h with
  | nil =>
    -- there is always a first piece
    obtain ⟨piece, pieces, hpieces⟩ := List.exists_cons_of_ne_nil (cutValue_ne_nil rest)
    rw [List.nil_append, hpieces]
    exact Prod.ext hpieces rfl
  | @plain c text value hc _ ih =>
    rw [List.cons_append, cutValue_plain hc, ih, glueOctets_glueOctets]
  | @escape a b high low text value ha hb _ ih =>
    rw [List.cons_append, List.cons_append, List.cons_append, cutValue_escape ha hb, ih,
      glueOctets_glueOctets]
    rfl

/-- A written value is read up to the parenthesis behind it. -/
theorem cutValue_encoded (h : Encoded text value) (rest : List Char) :
    cutValue (text ++ ')' :: rest) = ([value], ')' :: rest) := by
  rw [cutValue_append h, cutValue_paren]
  simp only [glueOctets, List.append_nil]

/-- With octets in front it is one piece if there is one piece behind them. -/
theorem glued_eq_singleton {front : Octets} {text : List Char}
    (h : (glueOctets front (cutValue text).1, (cutValue text).2) = ([value], rest)) :
    ∃ piece, cutValue text = ([piece], rest) ∧ front ++ piece = value := by
  obtain ⟨piece, pieces, hpieces⟩ := List.exists_cons_of_ne_nil (cutValue_ne_nil text)
  obtain ⟨hvalue, hrest⟩ := Prod.mk.inj h
  rw [hpieces] at hvalue
  obtain ⟨hfront, rfl⟩ := List.cons.inj hvalue
  exact ⟨piece, Prod.ext hpieces hrest, hfront⟩

/-- What is read as one value is written as one. -/
theorem encoded_of_cutValue (h : cutValue text = ([value], rest)) :
    ∃ written, text = written ++ rest ∧ Encoded written value := by
  fun_induction cutValue text generalizing value rest with
  | case1 =>
    cases h
    exact ⟨[], rfl, .nil⟩
  | case2 c text hc =>
    rename_i ih
    obtain ⟨piece, hcut, rfl⟩ := glued_eq_singleton h
    obtain ⟨written, rfl, hwritten⟩ := ih hcut
    exact ⟨c :: written, rfl, .plain (isPlain_iff.mp hc) hwritten⟩
  | case3 text =>
    -- an asterisk begins another piece
    exact absurd (List.cons.inj (Prod.mk.inj h).1).2 (cutValue_ne_nil text)
  | case4 a b text high low hb ha =>
    rename_i ih
    obtain ⟨piece, hcut, rfl⟩ := glued_eq_singleton h
    obtain ⟨written, rfl, hwritten⟩ := ih hcut
    exact ⟨'\\' :: a :: b :: written, rfl, .escape ha hb hwritten⟩
  | case5 | case6 | case7 =>
    cases h
    exact ⟨[], rfl, .nil⟩

/-- Only a single piece makes an equality. -/
theorem ofPieces_eq_equality {target : String} {pieces : List Octets} :
    ofPieces target pieces = some (equality target value) ↔ pieces = [value] := by
  unfold ofPieces
  split
  · simp
  · simp
  · simp
  · split <;> simp_all

end LdapClient.SearchFilter
