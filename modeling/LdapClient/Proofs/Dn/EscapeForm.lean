/-
# LdapClient.Proofs.Dn.EscapeForm -- one value written with different escapes

A character that means something in a name is written behind a backslash or as a backslash with its
two hexadecimal digits.  A `Written` character carries the form that is chosen for it, and
`writtenText` is the value as it is written.

Reading octets looks ahead, so what is read of one character could depend on the next.  It does in
just one place: the sign of a number may stand before its digits, so a plus sign behind a backslash
and a digit after it are read as one octet.  `heard` is the text with such pairs put together, and
`unescape_writtenText` says that it is what is read.  Where there is no such pair (`signsDigit`),
the form that is chosen makes no difference; where there is one, the value has fewer plus signs than
it should.  The main statement is `written_value_read`.
-/
import LdapClient.Proofs.Dn.Reading
import LdapClient.Proofs.Dn.Unescape
import LdapClient.Proofs.Text.LowerCase
import LdapClient.Wire.Message

namespace LdapClient.Dn

open Text

/-! ## Written characters -/

/-- The characters that mean something in a name. -/
def specials : List Char :=
  [',', '+', '"', '\\', '<', '>', ';', '=', '#']

/-- The forms that a character is written in. -/
inductive Form where
  | bare
  | backslash
  | hex (high low : Char)
deriving DecidableEq

/-- The form can be chosen for the character: those that mean something are escaped, and two digits
stand for the one octet of the character. -/
def Form.Suits (c : Char) : Form → Prop
  | bare => c ∉ specials
  | backslash => c ∈ specials
  | hex high low => c ∈ specials ∧ ∃ h l, hexValue high = some h ∧ hexValue low = some l ∧
      encode [c] = [UInt8.ofNat (h * 16 + l)]

/-- A character with the form that it is written in. -/
structure Written where
  char : Char
  form : Form
  suits : form.Suits char

/-- A character as it is written. -/
def Written.text (w : Written) : List Char :=
  match w.form with
  | .bare => [w.char]
  | .backslash => ['\\', w.char]
  | .hex high low => ['\\', high, low]

/-- A value as it is meant. -/
def meant (ws : List Written) : List Char :=
  ws.map Written.char

/-- A value as it is written. -/
def writtenText (ws : List Written) : List Char :=
  ws.flatMap Written.text

/-- A plus sign behind a backslash. -/
def Written.isSign (w : Written) : Bool :=
  w.char = '+' && w.form = .backslash

/-- A plus sign behind a backslash stands right before a hexadecimal digit. -/
def signsDigit : List Written → Bool
  | [] => false
  | [_] => false
  | w :: x :: rest => (w.isSign && (hexValue x.char).isSome) || signsDigit (x :: rest)

/-- What is read of a value: a plus sign behind a backslash and a digit after it are one
character. -/
def heard : List Written → List Char
  | [] => []
  | [w] => [w.char]
  | w :: x :: rest =>
    match if w.isSign then hexValue x.char else none with
    | some digit => Char.ofNat digit :: heard rest
    | none => w.char :: heard (x :: rest)

/-- The name of the entry below `dc=org` that has this value as its common name. -/
def entryText (ws : List Written) : String :=
  "cn=" ++ String.ofList (writtenText ws) ++ ",dc=org"

/-- The assertions in the name of the entry. -/
def entryAssertions (ws : List Written) : List Assertion :=
  [⟨['c', 'n'], writtenText ws⟩, ⟨['d', 'c'], ['o', 'r', 'g']⟩]

/-- The name of the entry as it is read: each assertion is a relative name. -/
def entryName (ws : List Written) : Dn :=
  ⟨(entryAssertions ws).map fun assertion => ⟨assertion.text, [assertion]⟩⟩

/-! ## The octets of a written character -/

theorem specials_bounds :
    ∀ c ∈ specials, c.toNat < 0x80 ∧ isBlank c = false ∧ hexValue c = none := by
  simp [specials, isBlank, hexValue]

theorem not_special_of_hexValue {c : Char} {n : Nat} (h : hexValue c = some n) : c ∉ specials := by
  intro hmem
  rw [(specials_bounds c hmem).2.2] at h
  contradiction

/-- The octet of a special character is no digit of a pair, and only a plus sign can be its sign. -/
theorem hexPair_special {c : Char} (hc : c ∈ specials) (hplus : c ≠ '+') (b : UInt8) :
    hexPair (UInt8.ofNat c.toNat) b = none := by
  obtain ⟨hascii, -, hdigit⟩ := specials_bounds c hc
  apply hexPair_eq_none_of_high
  · rw [toNat_ascii hascii]
    exact fun h => hplus (Char.toNat_inj.mp h)
  · rwa [charOf_ascii hascii]

/-- What is read of one character, unless it is a sign and a digit follows. -/
theorem unescape_written (w : Written) {rest : Octets}
    (h : w.isSign = true → ∀ a ∈ rest.head?, hexValue (Char.ofNat a.toNat) = none) :
    unescape (encode w.text ++ rest) = String.utf8EncodeChar w.char ++ unescape rest := by
  have hbackslash : (UInt8.ofNat '\\'.toNat).toNat = 92 := by decide
  obtain ⟨c, form, hsuits⟩ := w
  cases form with
  | bare =>
    have hc : c ≠ '\\' := fun heq => hsuits (heq ▸ by decide)
    show unescape (encode [c] ++ rest) = _
    rw [encode_singleton]
    exact unescape_append (utf8EncodeChar_no_backslash hc) rest
  | backslash =>
    obtain ⟨hascii, -, -⟩ := specials_bounds c hsuits
    show unescape (encode ['\\', c] ++ rest) = _
    rw [encode_cons_ascii (by decide), encode_cons_ascii hascii, utf8EncodeChar_ascii hascii]
    apply unescape_single hbackslash
    intro a ha
    -- what follows matters only to a plus sign
    by_cases hplus : c = '+'
    · exact hexPair_eq_none_of_low (h (by simp [Written.isSign, hplus]) a ha)
    · exact hexPair_special hsuits hplus a
  | hex high low =>
    obtain ⟨hc, n, m, hhigh, hlow, hoctet⟩ := hsuits
    have hhigh' := hexValue_bounds hhigh
    have hlow' := hexValue_bounds hlow
    show unescape (encode ['\\', high, low] ++ rest) = _
    rw [encode_cons_ascii (by decide), encode_cons_ascii (by omega), encode_cons_ascii (by omega)]
    rw [encode_singleton] at hoctet
    rw [hoctet]
    exact unescape_pair hbackslash (hexPair_digits hhigh hlow) rest

/-- A character that is no digit does not begin with one when it is written. -/
theorem written_head {w : Written} (h : hexValue w.char = none) (rest : Octets) :
    ∀ a ∈ (encode w.text ++ rest).head?, hexValue (Char.ofNat a.toNat) = none := by
  have hbackslash : hexValue (Char.ofNat (UInt8.ofNat '\\'.toNat).toNat) = none := by decide
  obtain ⟨c, form, hsuits⟩ := w
  intro a ha
  cases form with
  | bare =>
    have ha' : a ∈ (String.utf8EncodeChar c).head? := by
      change a ∈ (encode [c] ++ rest).head? at ha
      rw [encode_singleton] at ha
      rwa [List.head?_append_of_ne_nil _ String.utf8EncodeChar_ne_nil] at ha
    rw [hexValue_octet ha', h]
  | backslash =>
    cases ha
    exact hbackslash
  | hex high low =>
    cases ha
    exact hbackslash

/-! ## What is read of a value -/

theorem toNat_digit {c : Char} {digit : Nat} (h : hexValue c = some digit) :
    (Char.ofNat digit).toNat = digit := by
  obtain ⟨hlt, -, -⟩ := hexValue_bounds h
  refine toNat_charOfNat ?_
  unfold Nat.isValidChar
  omega

/-- A digit is not escaped, so a sign and a digit after it make a pair. -/
theorem unescape_signed {w x : Written} {digit : Nat} (hw : w.isSign = true)
    (hx : hexValue x.char = some digit) (rest : Octets) :
    unescape (encode w.text ++ (encode x.text ++ rest)) =
      String.utf8EncodeChar (Char.ofNat digit) ++ unescape rest := by
  obtain ⟨hdigit, hlow, hhigh⟩ := hexValue_bounds hx
  have hbare : x.text = [x.char] := by
    have hnot := not_special_of_hexValue hx
    obtain ⟨c, form, hsuits⟩ := x
    cases form with
    | bare => rfl
    | backslash => exact absurd hsuits hnot
    | hex high low => exact absurd hsuits.1 hnot
  have hsign : w.text = ['\\', '+'] := by
    simp only [Written.isSign, Bool.and_eq_true, decide_eq_true_eq] at hw
    rw [Written.text, hw.2, hw.1]
  have hchar := toNat_digit hx
  rw [hsign, hbare, encode_cons_ascii (by decide), encode_cons_ascii (by decide),
    encode_cons_ascii (by omega), utf8EncodeChar_ascii (by omega), hchar]
  exact unescape_pair (by decide) (hexPair_plus hx) rest

/-- The octets that are read are those of `heard`. -/
theorem unescape_writtenText (ws : List Written) :
    unescape (encode (writtenText ws)) = encode (heard ws) := by
  fun_induction heard ws with
  | case1 => rfl
  | case2 w =>
    have hone := @unescape_written w [] (by simp)
    rw [List.append_nil, unescape, List.append_nil] at hone
    rw [writtenText, List.flatMap_singleton, encode_singleton]
    exact hone
  | case3 w x rest digit hdigit ih =>
    -- the sign and its digit are one octet, and reading goes on behind both
    have hsign : w.isSign = true := by
      by_contra hnot
      rw [if_neg hnot] at hdigit
      contradiction
    rw [if_pos hsign] at hdigit
    rw [writtenText, List.flatMap_cons, List.flatMap_cons, encode_append, encode_append,
      unescape_signed hsign hdigit, encode_cons]
    exact congrArg _ ih
  | case4 w x rest hnone ih =>
    have hnext : w.isSign = true → ∀ a ∈ (encode (writtenText (x :: rest))).head?,
        hexValue (Char.ofNat a.toNat) = none := by
      intro hsign
      rw [if_pos hsign] at hnone
      rw [writtenText, List.flatMap_cons, encode_append]
      exact written_head hnone _
    rw [writtenText, List.flatMap_cons, encode_append, encode_cons]
    show unescape (encode w.text ++ encode (writtenText (x :: rest))) = _
    rw [unescape_written w hnext, ih]

/-- The normal value is that of the characters that are read. -/
theorem normalValue_writtenText (ws : List Written) :
    Assertion.normalValue (writtenText ws) = lowerCase (trim (heard ws)) := by
  rw [Assertion.normalValue, unescape_writtenText, decode_encode]

theorem heard_eq_meant {ws : List Written} (h : signsDigit ws = false) : heard ws = meant ws := by
  fun_induction heard ws with
  | case1 => rfl
  | case2 => rfl
  | case3 w x rest digit hdigit ih =>
    split at hdigit
    · rename_i hsign
      simp [signsDigit, hsign, hdigit] at h
    · contradiction
  | case4 w x rest hnone ih =>
    simp only [signsDigit, Bool.or_eq_false_iff] at h
    rw [ih h.2]
    rfl

/-- Each pair costs a plus sign: it takes in its sign, and the octet that it stands for is none. -/
theorem count_heard (ws : List Written) :
    (heard ws).count '+' ≤ (meant ws).count '+' ∧
      (signsDigit ws = true → (heard ws).count '+' < (meant ws).count '+') := by
  fun_induction heard ws with
  | case1 => simp [meant, signsDigit]
  | case2 w => simp [meant, signsDigit]
  | case3 w x rest digit hdigit ih =>
    split at hdigit
    · rename_i hsign
      have hchar : w.char = '+' := by
        simp only [Written.isSign, Bool.and_eq_true, decide_eq_true_eq] at hsign
        exact hsign.1
      have hne : Char.ofNat digit ≠ '+' := by
        obtain ⟨hlt, -, -⟩ := hexValue_bounds hdigit
        have hchar := toNat_digit hdigit
        intro heq
        rw [heq, show '+'.toNat = 43 from rfl] at hchar
        omega
      have hrest : (meant rest).count '+' ≤ (meant (x :: rest)).count '+' :=
        (List.sublist_cons_self x.char (meant rest)).count_le '+'
      have hmeant : (meant (w :: x :: rest)).count '+' = (meant (x :: rest)).count '+' + 1 := by
        rw [meant, List.map_cons, hchar, List.count_cons_self]
        rfl
      rw [List.count_cons_of_ne hne, hmeant]
      exact ⟨by omega, fun _ => by omega⟩
    · contradiction
  | case4 w x rest hnone ih =>
    have hmeant : meant (w :: x :: rest) = w.char :: meant (x :: rest) := rfl
    have hsigns : signsDigit (w :: x :: rest) = signsDigit (x :: rest) := by
      cases hsign : w.isSign with
      | false => simp [signsDigit, hsign]
      | true =>
        rw [if_pos hsign] at hnone
        simp [signsDigit, hnone]
    rw [hmeant, List.count_cons, List.count_cons, hsigns]
    exact ⟨by omega, fun h => by have := ih.2 h; omega⟩

/-- The normal value is the one that is meant unless a digit has a sign. -/
theorem normalValue_eq_iff {ws : List Written} (htrim : trim (meant ws) = meant ws) :
    Assertion.normalValue (writtenText ws) = lowerCase (meant ws) ↔ signsDigit ws = false := by
  rw [normalValue_writtenText]
  constructor
  · intro heq
    -- neither trimming nor making letters small brings a lost plus sign back
    have hplus : IsCaseless '+' := by decide +kernel
    by_contra hsigns
    have hlt := (count_heard ws).2 (by simpa using hsigns)
    have hcount := congrArg (List.count '+') heq
    rw [count_lowerCase hplus, count_lowerCase hplus, count_trim (by decide)] at hcount
    omega
  · intro h
    rw [heard_eq_meant h, htrim]

/-! ## Written values in a name -/

/-- A backslash and two digits are a finished escape without a mark. -/
theorem whole_digits (high : Char) {low : Char} {n : Nat} (h : hexValue low = some n) :
    Whole [',', '+'] ['\\', high, low] := by
  have hdigit : ∀ d ∈ ['\\', ',', '+'], low ≠ d := by
    rintro d hd rfl
    exact not_special_of_hexValue h ((by decide : ['\\', ',', '+'] ⊆ specials) hd)
  exact .escape high (.char (hdigit _ (by simp)) (by simp [hdigit]) .nil)

theorem Written.text_whole (w : Written) : Whole [',', '+'] w.text := by
  obtain ⟨c, form, hsuits⟩ := w
  cases form with
  | bare =>
    have hspecial : ∀ d ∈ ['\\', ',', '+'], c ≠ d := by
      rintro d hd rfl
      exact hsuits ((by decide : ['\\', ',', '+'] ⊆ specials) hd)
    exact .char (hspecial _ (by simp)) (by simp [hspecial]) .nil
  | backslash => exact .escape c .nil
  | hex high low =>
    obtain ⟨-, h, l, -, hlow, -⟩ := hsuits
    exact whole_digits high hlow

theorem writtenText_whole (ws : List Written) : Whole [',', '+'] (writtenText ws) := by
  induction ws with
  | nil => exact .nil
  | cons w ws ih =>
    rw [writtenText, List.flatMap_cons]
    exact w.text_whole.append ih

theorem isBlank_digit {c : Char} {n : Nat} (h : hexValue c = some n) : isBlank c = false := by
  obtain ⟨-, hlow, hhigh⟩ := hexValue_bounds h
  simp [isBlank]
  omega

/-- The forms of a character that is not blank do not begin or end with a blank. -/
theorem Written.text_tight {w : Written} (h : isBlank w.char = false) : Tight w.text := by
  have hbackslash : isBlank '\\' = false := by decide
  obtain ⟨c, form, hsuits⟩ := w
  cases form with
  | bare => exact ⟨by rintro _ ⟨rfl⟩; exact h, by rintro _ ⟨rfl⟩; exact h⟩
  | backslash => exact ⟨by rintro _ ⟨rfl⟩; exact hbackslash, by rintro _ ⟨rfl⟩; exact h⟩
  | hex high low =>
    obtain ⟨-, _, _, -, hlow, -⟩ := hsuits
    exact ⟨by rintro _ ⟨rfl⟩; exact hbackslash, by rintro _ ⟨rfl⟩; exact isBlank_digit hlow⟩

theorem Written.text_ne_nil (w : Written) : w.text ≠ [] := by
  unfold text
  split <;> simp

theorem writtenText_ne_nil {ws : List Written} (h : ws ≠ []) : writtenText ws ≠ [] := by
  cases ws with
  | nil => contradiction
  | cons w ws => simp [writtenText, w.text_ne_nil]

theorem writtenText_tight {ws : List Written} (h : Tight (meant ws)) : Tight (writtenText ws) where
  front := by
    cases ws with
    | nil => simp [writtenText]
    | cons w ws =>
      rw [writtenText, List.flatMap_cons, List.head?_append_of_ne_nil _ w.text_ne_nil]
      exact (Written.text_tight (h.front w.char rfl)).front
  back := by
    rcases List.eq_nil_or_concat ws with rfl | ⟨init, w, rfl⟩
    · simp [writtenText]
    · have hw : isBlank w.char = false := h.back w.char (by simp [meant])
      rw [writtenText, List.concat_eq_append, List.flatMap_append, List.flatMap_singleton,
        List.getLast?_append_of_ne_nil _ w.text_ne_nil]
      exact (Written.text_tight hw).back

theorem writtenText_clean {ws : List Written} (hne : ws ≠ []) (htight : Tight (meant ws)) :
    IsCleanValue (writtenText ws) :=
  isCleanValue (writtenText_whole ws) (writtenText_tight htight) (writtenText_ne_nil hne)

/-- The name is read as the written value below its parent. -/
theorem entryText_parse {ws : List Written} (hne : ws ≠ []) (htight : Tight (meant ws)) :
    Dn.parse (entryText ws) = .ok (entryName ws) :=
  parse_commonName (writtenText_clean hne htight)

/-- Names of such entries are the same just if their values have the same normal value. -/
theorem sameText_entryText {ws xs : List Written} (hws : ws ≠ []) (hxs : xs ≠ [])
    (hwt : Tight (meant ws)) (hxt : Tight (meant xs)) :
    sameText (entryText ws) (entryText xs) = true ↔
      Assertion.normalValue (writtenText ws) = Assertion.normalValue (writtenText xs) :=
  sameText_commonName (writtenText_clean hws hwt) (writtenText_clean hxs hxt)

/-- However a value without blanks at its ends is written, the name of its entry is read as written.
The normal value is the value that is meant, made small, unless a plus sign behind a backslash
stands right before a hexadecimal digit.  Two ways to write the value name the same entry if the
same is read of them.  So they do if neither has such a pair, and then the base is taken out of a subtree
however its name is written; a way with such a pair and one without name different entries. -/
theorem written_value_read (ws : List Written) (hne : ws ≠ [])
    (htrim : trim (meant ws) = meant ws) :
    Dn.parse (entryText ws) = .ok (entryName ws) ∧
    (Assertion.normalValue (writtenText ws) = lowerCase (meant ws) ↔ signsDigit ws = false) ∧
    ∀ xs, meant xs = meant ws →
      (sameText (entryText ws) (entryText xs) = true ↔
        lowerCase (trim (heard ws)) = lowerCase (trim (heard xs))) ∧
      (signsDigit ws = false → signsDigit xs = false →
        sameText (entryText ws) (entryText xs) = true ∧
        ∀ entries : List RawEntry, ∀ entry ∈ Wire.withoutBase (entryText ws) entries,
          entry.dn ≠ entryText xs) ∧
      (signsDigit ws ≠ signsDigit xs → sameText (entryText ws) (entryText xs) = false) := by
  have hwt := tight_iff_trim_eq.mpr htrim
  refine ⟨entryText_parse hne hwt, normalValue_eq_iff htrim, fun xs hmeant => ?_⟩
  have hxs : xs ≠ [] := by
    rintro rfl
    exact hne (List.map_eq_nil_iff.mp hmeant.symm)
  have hxt : Tight (meant xs) := hmeant ▸ hwt
  have hws := normalValue_eq_iff htrim
  have hxs' := normalValue_eq_iff hxt.trim_eq
  rw [hmeant] at hxs'
  refine ⟨?_, ?_, ?_⟩
  · rw [sameText_entryText hne hxs hwt hxt, normalValue_writtenText, normalValue_writtenText]
  · intro h h'
    have heq := (hws.mpr h).trans (hxs'.mpr h').symm
    refine ⟨(sameText_entryText hne hxs hwt hxt).mpr heq, ?_⟩
    intro entries entry hentry hdn
    have hkept := (List.mem_filter.mp hentry).2
    rw [hdn, (sameText_entryText hxs hne hxt hwt).mpr heq.symm] at hkept
    contradiction
  · intro hne'
    refine Bool.eq_false_iff.mpr fun hsame => ?_
    -- equal normal values are both the value that is meant, or neither
    have heq := (sameText_entryText hne hxs hwt hxt).mp hsame
    rw [heq] at hws
    have hsigns : signsDigit ws = false ↔ signsDigit xs = false := hws.symm.trans hxs'
    exact hne' (Bool.eq_iff_iff.mpr (by simpa using not_congr hsigns))

/-- `a+b,ß` with a comma behind a backslash and two digits for the plus sign. -/
def mixedForms : List Written :=
  [⟨'a', .bare, show 'a' ∉ specials by decide⟩,
    ⟨'+', .hex '2' 'b', by decide, 2, 11, rfl, rfl, rfl⟩,
    ⟨'b', .bare, show 'b' ∉ specials by decide⟩,
    ⟨',', .backslash, show ',' ∈ specials by decide⟩,
    ⟨'ß', .bare, show 'ß' ∉ specials by decide⟩]

/-- The same value with digits throughout. -/
def hexForms : List Written :=
  [⟨'a', .bare, show 'a' ∉ specials by decide⟩,
    ⟨'+', .hex '2' 'B', by decide, 2, 11, rfl, rfl, rfl⟩,
    ⟨'b', .bare, show 'b' ∉ specials by decide⟩,
    ⟨',', .hex '2' 'C', by decide, 2, 12, rfl, rfl, rfl⟩,
    ⟨'ß', .bare, show 'ß' ∉ specials by decide⟩]

theorem mixedForms_same :
    mixedForms ≠ [] ∧ trim (meant mixedForms) = meant mixedForms ∧
      Dn.parse "cn=a\\2bb\\,ß,dc=org" = .ok (entryName mixedForms) ∧
      sameText "cn=a\\2bb\\,ß,dc=org" "cn=a\\2Bb\\2Cß,dc=org" = true := by
  have hne : mixedForms ≠ [] := List.cons_ne_nil _ _
  have htrim : trim (meant mixedForms) = meant mixedForms := by decide
  have hmeant : meant hexForms = meant mixedForms := by decide
  obtain ⟨hparse, -, hsame⟩ := written_value_read mixedForms hne htrim
  exact ⟨hne, htrim, hparse, ((hsame hexForms hmeant).2.1 (by decide) (by decide)).1⟩

/-- `+b` with a backslash before the plus sign. -/
def signedDigit : List Written :=
  [⟨'+', .backslash, show '+' ∈ specials by decide⟩, ⟨'b', .bare, show 'b' ∉ specials by decide⟩]

/-- `+b` with two digits for the plus sign. -/
def hexSign : List Written :=
  [⟨'+', .hex '2' 'B', by decide, 2, 11, rfl, rfl, rfl⟩,
    ⟨'b', .bare, show 'b' ∉ specials by decide⟩]

/-- The form of a plus sign makes a difference before a digit. -/
theorem signed_digit_differs :
    meant signedDigit = ['+', 'b'] ∧ meant hexSign = ['+', 'b'] ∧
      entryText signedDigit = "cn=\\+b,dc=org" ∧ entryText hexSign = "cn=\\2Bb,dc=org" ∧
      Assertion.normalValue (writtenText signedDigit) ≠ lowerCase (meant signedDigit) ∧
      sameText "cn=\\+b,dc=org" "cn=\\2Bb,dc=org" = false := by
  have hmeant : meant hexSign = meant signedDigit := by decide
  have htight : Tight (meant signedDigit) := tight_iff_trim_eq.mpr (by decide)
  have hsigned : Assertion.normalValue (writtenText signedDigit) ≠ lowerCase (meant signedDigit) :=
    fun h => absurd ((normalValue_eq_iff htight.trim_eq).mp h) (by decide)
  have hhex : Assertion.normalValue (writtenText hexSign) = lowerCase (meant hexSign) :=
    (normalValue_eq_iff (by decide)).mpr (by decide)
  have htext : entryText signedDigit = "cn=\\+b,dc=org" := by rfl
  have htext' : entryText hexSign = "cn=\\2Bb,dc=org" := by rfl
  refine ⟨by decide, by decide, htext, htext', hsigned, ?_⟩
  rw [← htext, ← htext', Bool.eq_false_iff]
  intro hsame
  have hne : signedDigit ≠ [] := List.cons_ne_nil _ _
  have hne' : hexSign ≠ [] := List.cons_ne_nil _ _
  have heq := (sameText_entryText hne hne' htight (hmeant ▸ htight)).mp hsame
  exact hsigned (heq.trans (hhex.trans (congrArg lowerCase hmeant)))

end LdapClient.Dn
