/-
# LdapClient.Text.Decimal -- whole numbers in decimal digits

`ofInt` writes a number without leading zeros, with a minus sign below zero.  `signed?` reads more
than that: one sign of either kind may stand in front, and leading zeros are allowed; nothing else
is, not even a blank.
-/
namespace LdapClient.Text.Decimal

/-- The digits of a number, without leading zeros. -/
def ofNat (n : Nat) : String :=
  String.ofList (Nat.toDigits 10 n)

/-- The decimal text of a number. -/
def ofInt : Int → String
  | .ofNat n => ofNat n
  | .negSucc n => "-" ++ ofNat (n + 1)

/-- An ASCII digit. -/
def isDigit (c : Char) : Bool :=
  Nat.ble 48 c.toNat && Nat.ble c.toNat 57

/-- Reads one or more digits. -/
def unsigned? (text : List Char) : Option Nat :=
  if text.isEmpty then none
  else if text.all isDigit then some (Nat.ofDigitChars 10 text 0)
  else none

/-- Reads digits with at most one sign in front. -/
def signed? : List Char → Option Int
  | [] => none
  | c :: rest =>
    if c = '-' then (unsigned? rest).map fun n => -(n : Int)
    else if c = '+' then (unsigned? rest).map fun n => (n : Int)
    else (unsigned? (c :: rest)).map fun n => (n : Int)

end LdapClient.Text.Decimal
