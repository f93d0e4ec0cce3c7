/-
# LdapClient.Text.Octets -- text as octets and back

Directory values travel as octet strings.  `encode` is the UTF-8 form of a text; `decode` reads any
octet string back, putting one U+FFFD where the octets are not well formed.  Each ill-formed stretch
counts once for every *maximal* part of it that could still have become a character, so
`E2 82 41` reads as one replacement followed by `A`, while `FF FF` reads as two replacements.

`split` is the reader underneath: it says for each character or ill-formed part which one it is, and
`decode` and `decode?` are its lenient and its strict view.
-/
namespace LdapClient

/-- An octet string. -/
abbrev Octets := List UInt8

namespace Text

/-- The UTF-8 form of a text. -/
def encode (text : List Char) : Octets :=
  text.flatMap String.utf8EncodeChar

/-- The UTF-8 form of a string. -/
def octets (text : String) : Octets :=
  encode text.toList

/-! ## Reading octets -/

/-- What may follow a lead octet: the range of the second octet and how many continuation octets
come after it. -/
structure Tail where
  low : Nat
  high : Nat
  further : Nat

/-- The tail that a lead octet announces; `none` for an octet that leads nothing.  The second
octet is narrowed where a wider one would write a character in too many octets, a surrogate, or a
number beyond U+10FFFF. -/
def tailOf (lead : Nat) : Option Tail :=
  if lead < 0xC2 then none
  else if lead < 0xE0 then some ⟨0x80, 0xBF, 0⟩
  else if lead = 0xE0 then some ⟨0xA0, 0xBF, 1⟩
  else if lead = 0xED then some ⟨0x80, 0x9F, 1⟩
  else if lead < 0xF0 then some ⟨0x80, 0xBF, 1⟩
  else if lead = 0xF0 then some ⟨0x90, 0xBF, 2⟩
  else if lead < 0xF4 then some ⟨0x80, 0xBF, 2⟩
  else if lead = 0xF4 then some ⟨0x80, 0x8F, 2⟩
  else none

/-- An octet of the form `10xxxxxx`. -/
def isContinuation (octet : UInt8) : Bool :=
  0x80 ≤ octet.toNat && octet.toNat ≤ 0xBF

/-- The bits that a continuation octet carries. -/
def payload (octet : UInt8) : Nat :=
  octet.toNat % 64

/-- Cuts octets into characters and, as `none`, ill-formed parts. -/
def split : Octets → List (Option Char)
  | [] => []
  | a :: rest =>
    if a.toNat < 0x80 then
      some (Char.ofNat a.toNat) :: split rest
    else
      match tailOf a.toNat with
      | none => none :: split rest
      | some tail =>
        match rest with
        | [] => [none]
        | b :: rest₁ =>
          if b.toNat < tail.low || tail.high < b.toNat then
            none :: split (b :: rest₁)
          else
            match tail.further with
            | 0 => some (Char.ofNat (a.toNat % 32 * 64 + payload b)) :: split rest₁
            | 1 =>
              match rest₁ with
              | [] => [none]
              | c :: rest₂ =>
                if isContinuation c then
                  some (Char.ofNat (a.toNat % 16 * 4096 + payload b * 64 + payload c))
                    :: split rest₂
                else
                  none :: split (c :: rest₂)
            | _ =>
              match rest₁ with
              | [] => [none]
              | c :: rest₂ =>
                if isContinuation c then
                  match rest₂ with
                  | [] => [none]
                  | d :: rest₃ =>
                    if isContinuation d then
                      some (Char.ofNat (a.toNat % 8 * 262144 + payload b * 4096 + payload c * 64
                        + payload d)) :: split rest₃
                    else
                      none :: split (d :: rest₃)
                else
                  none :: split (c :: rest₂)

/-- The character that stands for an ill-formed part. -/
def replacement : Char := '\uFFFD'

/-- The text of any octets, with a replacement character for each ill-formed part. -/
def decode (bytes : Octets) : List Char :=
  (split bytes).map fun part => part.getD replacement

/-- The text of well-formed octets. -/
def decode? (bytes : Octets) : Option (List Char) :=
  (split bytes).mapM id

/-- The string of any octets, with a replacement character for each ill-formed part. -/
def lossy (bytes : Octets) : String :=
  String.ofList (decode bytes)

end Text

end LdapClient
