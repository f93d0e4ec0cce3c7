/-
# LdapClient.Text.Range -- classes of characters given by ranges

A character class of the Unicode standard is kept as an ascending table of ranges of code points,
both ends included.
-/
namespace LdapClient.Text

/-- A code point lies in one of the ranges. -/
def inRanges (ranges : Array (Nat × Nat)) (n : Nat) : Bool :=
  ranges.any fun r => Nat.ble r.1 n && Nat.ble n r.2

end LdapClient.Text
