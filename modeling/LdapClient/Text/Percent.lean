/-
# LdapClient.Text.Percent -- octets behind percent signs

In a URL an octet may be written as a percent sign and two hexadecimal digits.  `percentDecode`
reads these and takes every other character, a lone percent sign among them, for its own octets.
-/
import LdapClient.Text.Hex
import LdapClient.Text.Octets

namespace LdapClient.Text

/-- One octet as a percent sign and two capital hexadecimal digits. -/
def percent (octet : UInt8) : List Char :=
  let digit (n : Nat) : Char := (Nat.digitChar n).toUpper
  ['%', digit (octet.toNat / 16), digit (octet.toNat % 16)]

/-- The octets of a text with percent signs. -/
def percentDecode : List Char → Octets
  | [] => []
  | [a] => encode [a]
  | [a, b] => encode [a, b]
  | a :: b :: c :: rest =>
    if a = '%' then
      match hexValue b, hexValue c with
      | some h, some l => UInt8.ofNat (h * 16 + l) :: percentDecode rest
      | _, _ => encode [a] ++ percentDecode (b :: c :: rest)
    else encode [a] ++ percentDecode (b :: c :: rest)

end LdapClient.Text
