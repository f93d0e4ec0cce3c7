/-
# LdapClient.Text.Quoted -- diagnostic quoting

Descriptions of values put texts between double quotes and write every character that would not
show up as itself as an escape: the short ones for tab, line ends and NUL, a backslash before a
quote or a backslash, and the code point in braces for all others.
-/
import LdapClient.Text.Printable

namespace LdapClient.Text

/-- The hexadecimal digits of a number, in small letters. -/
def hexDigits (n : Nat) : List Char :=
  Nat.toDigits 16 n

/-- The form of one character between quotes. -/
def escapeChar (c : Char) : List Char :=
  if c = '\x00' then ['\\', '0']
  else if c = '\t' then ['\\', 't']
  else if c = '\r' then ['\\', 'r']
  else if c = '\n' then ['\\', 'n']
  else if c = '\\' then ['\\', '\\']
  else if c = '"' then ['\\', '"']
  else if c.toNat < 0x7F && 0x20 ≤ c.toNat then [c]
  else if isCombining c || isHidden c then
    ['\\', 'u', '\x7b'] ++ hexDigits c.toNat ++ ['\x7d']
  else [c]

/-- A text between quotes. -/
def quoted (text : String) : String :=
  String.ofList (['"'] ++ text.toList.flatMap escapeChar ++ ['"'])

end LdapClient.Text
