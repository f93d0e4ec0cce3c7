/-
# LdapClient.Text.Hex -- hexadecimal digits
-/
namespace LdapClient.Text

/-- The value of a hexadecimal digit, in capitals or small letters. -/
def hexValue (c : Char) : Option Nat :=
  let n := c.toNat
  if Nat.ble 48 n && Nat.ble n 57 then some (n - 48)
  else if Nat.ble 65 n && Nat.ble n 70 then some (n - 55)
  else if Nat.ble 97 n && Nat.ble n 102 then some (n - 87)
  else none

end LdapClient.Text
