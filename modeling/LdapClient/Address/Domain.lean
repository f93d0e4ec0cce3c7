/-
# LdapClient.Address.Domain -- domain names of any script

A domain name is read as the text that its characters stand for, in composed form, and cut into
labels at its dots.  A label that begins with `xn--` is the Punycode of another one.  `labels?` is
the list of the labels, or nothing if one of them breaks a rule:

* no label has a control, a blank or a sign of the URL syntax;
* a label behind `xn--` reads as itself and is not plain ASCII;
* no label begins with a mark, joiners stand where they change something, and a label beyond ASCII
  is not longer than a thousand characters;
* all labels stay together where directions of writing meet.
-/
import LdapClient.Address.Domain.Reading
import LdapClient.Text.Composed
import LdapClient.Text.Direction
import LdapClient.Text.Joining
import LdapClient.Text.Punycode

namespace LdapClient.Url.Domain

open Text

/-- An ASCII character. -/
def isAscii (c : Char) : Bool :=
  Nat.blt c.toNat 0x80

/-- ASCII characters that no domain has. -/
def isForbidden (c : Char) : Bool :=
  Nat.ble c.toNat 0x20 || c.toNat = 0x7F ||
    ['%', '#', '/', ':', '<', '>', '?', '@', '[', '\\', ']', '^', '|'].contains c

/-- A label behind `xn--`: neither ASCII nor another writing of some other label. -/
def ofPunycode? (code : List Char) : Option (List Char) :=
  if Nat.blt 2000 code.length then none
  else
    match Punycode.decode? code with
    | none => none
    | some label =>
      if label.all isAscii || !label.all isPlain || composed label ≠ label then none
      else some label

/-- The characters of a label as it is written. -/
def label? : List Char → Option (List Char)
  | 'x' :: 'n' :: '-' :: '-' :: code => ofPunycode? code
  | label => some label

/-- The rules for a label by itself. -/
def isSound (label : List Char) : Bool :=
  !label.head?.any isMark && joinersFit label &&
    (label.all isAscii || Nat.ble label.length 1000)

/-- The labels of a domain name. -/
def labels? (text : List Char) : Option (List (List Char)) := do
  let readings ← text.mapM reading?
  let plain := composed readings.flatten
  let labels ← (cutAll '.' plain).mapM label?
  if !plain.any isForbidden && labels.all isSound && keepTogether labels then some labels else none

end LdapClient.Url.Domain
