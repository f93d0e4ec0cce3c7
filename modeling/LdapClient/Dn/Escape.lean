/-
# LdapClient.Dn.Escape -- backslashes in distinguished names

In a distinguished name a backslash takes away the meaning of the character after it, and two
hexadecimal digits after a backslash stand for one octet.  `splitUnescaped` cuts a text at the
places where a delimiter still has its meaning; `unescape` reads the octets that a written value
stands for.
-/
import LdapClient.Text.Cut
import LdapClient.Text.Hex
import LdapClient.Text.Octets

namespace LdapClient.Dn

open Text

/-- The pieces between the unescaped occurrences of `delimiter`, as written; `none` when the text
ends right after a backslash that escapes nothing. -/
def splitUnescaped (delimiter : Char) : List Char → Option (List (List Char))
  | [] => some [[]]
  | [c] =>
    if c = '\\' then none
    else if c = delimiter then some [[], []]
    else some [[c]]
  | c :: d :: rest =>
    if c = '\\' then (splitUnescaped delimiter rest).map (glue [c, d])
    else if c = delimiter then (splitUnescaped delimiter (d :: rest)).map ([] :: ·)
    else (splitUnescaped delimiter (d :: rest)).map (glue [c])

/-- The octet that two characters after a backslash stand for: two hexadecimal digits, or one
digit after a plus sign. -/
def hexPair (high low : UInt8) : Option UInt8 :=
  match hexValue (Char.ofNat low.toNat) with
  | none => none
  | some l =>
    if high.toNat = 43 then some (UInt8.ofNat l)
    else (hexValue (Char.ofNat high.toNat)).map fun h => UInt8.ofNat (h * 16 + l)

/-- The octets that a written value stands for: a backslash and a hexadecimal pair are one octet,
a backslash before any other octet is dropped, and so is one at the very end. -/
def unescape : Octets → Octets
  | [] => []
  | [a] => if a.toNat = 92 then [] else [a]
  | [a, b] => if a.toNat = 92 then [b] else a :: unescape [b]
  | a :: b :: c :: rest =>
    if a.toNat = 92 then
      match hexPair b c with
      | some octet => octet :: unescape rest
      | none => b :: unescape (c :: rest)
    else a :: unescape (b :: c :: rest)

end LdapClient.Dn
