/-
# LdapClient.Dn.Basic -- distinguished names

A distinguished name is a list of relative names, each a list of assertions `type=value`.  Reading
one keeps every relative name as it was written, so that it can be sent back unchanged, and keeps
its assertions beside it, so that two names can be compared.

Two names are the same when they have the same relative names in the same order; two relative
names are the same when they have the same assertions in any order; two assertions are the same
when the types agree up to ASCII case and the values agree after `Assertion.normalValue`: escapes
read, blanks at the ends dropped, all letters made small.
-/
import LdapClient.Dn.Escape
import LdapClient.Failure
import LdapClient.Text.Blank
import LdapClient.Text.Fold
import LdapClient.Text.LowerCase

namespace LdapClient

open Text

namespace Dn

/-! ## Why a name is refused -/

/-- The reasons to refuse a name. -/
inductive Fault where
  /-- There is nothing but blanks. -/
  | empty
  /-- This part is not of the form `type=value`. -/
  | component (part : String)
  /-- The name, or one of its relative names, ends inside an escape. -/
  | unterminatedEscape
deriving DecidableEq

/-- The words for a refused name. -/
def Fault.message : Fault → String
  | .empty => "distinguished name cannot be empty"
  | .component part => "invalid distinguished name component: " ++ part
  | .unterminatedEscape => "distinguished name contains an unterminated escape sequence"

/-- A refused name as a failure. -/
def Fault.toFailure (fault : Fault) : Failure :=
  ⟨.invalidDnSyntax, fault.message⟩

/-! ## Assertions -/

/-- One `type=value` of a name, both without blanks at the ends. -/
structure Assertion where
  type : List Char
  value : List Char
deriving DecidableEq

namespace Assertion

/-- Reads `type=value`.  The type ends at the first equals sign, neither side may be blank, and a
type has no backslash. -/
def parse (part : List Char) : Except Fault Assertion :=
  match cutOnce '=' part with
  | none => .error (.component (String.ofList (trim part)))
  | some (front, back) =>
    if (trim front).isEmpty || (trim back).isEmpty || (trim front).contains '\\' then
      .error (.component (String.ofList (trim part)))
    else .ok ⟨trim front, trim back⟩

/-- What a value stands for, as far as comparing goes. -/
def normalValue (value : List Char) : List Char :=
  lowerCase (trim (decode (unescape (encode value))))

/-- What is compared of an assertion: the type in small ASCII letters and the normal value. -/
def key (assertion : Assertion) : List Char × List Char :=
  (fold assertion.type, normalValue assertion.value)

end Assertion

/-! ## Relative names -/

/-- A relative name: its text as written and the assertions in it. -/
structure Rdn where
  text : List Char
  assertions : List Assertion
deriving DecidableEq

namespace Rdn

/-- Splits at `delimiter`, or says that an escape is not finished. -/
def pieces (delimiter : Char) (text : List Char) : Except Fault (List (List Char)) :=
  match splitUnescaped delimiter text with
  | some parts => .ok parts
  | none => .error .unterminatedEscape

/-- Reads the assertions of every part, up to the first part that is not one. -/
def assertionsOf : List (List Char) → Except Fault (List Assertion)
  | [] => .ok []
  | part :: parts =>
    match Assertion.parse part with
    | .error fault => .error fault
    | .ok assertion =>
      match assertionsOf parts with
      | .error fault => .error fault
      | .ok assertions => .ok (assertion :: assertions)

/-- Reads a relative name, whose assertions stand between unescaped plus signs. -/
def parse (text : List Char) : Except Fault Rdn :=
  match pieces '+' text with
  | .error fault => .error fault
  | .ok parts =>
    match assertionsOf parts with
    | .error fault => .error fault
    | .ok assertions => .ok ⟨text, assertions⟩

/-- The assertions are the same, in any order. -/
def same (a b : Rdn) : Bool :=
  (a.assertions.map Assertion.key).isPerm (b.assertions.map Assertion.key)

/-- Reads relative names in turn, each without blanks at its ends. -/
def parseAll : List (List Char) → Except Fault (List Rdn)
  | [] => .ok []
  | text :: texts =>
    match parse (trim text) with
    | .error fault => .error fault
    | .ok rdn =>
      match parseAll texts with
      | .error fault => .error fault
      | .ok rdns => .ok (rdn :: rdns)

/-- Relative names that are the same one by one. -/
def sameAll : List Rdn → List Rdn → Bool
  | [], [] => true
  | a :: as, b :: bs => same a b && sameAll as bs
  | _, _ => false

end Rdn

end Dn

/-! ## Distinguished names -/

/-- A distinguished name. -/
structure Dn where
  rdns : List Dn.Rdn
deriving DecidableEq

namespace Dn

/-- Reads the relative names between unescaped commas. -/
def parseChars (text : List Char) : Except Fault Dn :=
  if (trim text).isEmpty then .error .empty
  else
    match Rdn.pieces ',' (trim text) with
    | .error fault => .error fault
    | .ok parts =>
      match Rdn.parseAll parts with
      | .error fault => .error fault
      | .ok rdns => .ok ⟨rdns⟩

/-- Reads a distinguished name. -/
def parse (text : String) : Except Fault Dn :=
  parseChars text.toList

/-- The texts of the relative names. -/
def texts (dn : Dn) : List String :=
  dn.rdns.map fun rdn => String.ofList rdn.text

/-- The leading relative name, exactly as written. -/
def firstRdn (dn : Dn) : String :=
  match dn.texts with
  | [] => ""
  | text :: _ => text

/-- The name as text. -/
def display (dn : Dn) : String :=
  join "," dn.texts

/-- Names of the same entry. -/
def same (a b : Dn) : Bool :=
  Rdn.sameAll a.rdns b.rdns

/-- Texts that name the same entry.  Where one of them is no distinguished name, they are compared
up to blanks at the ends and ASCII case. -/
def sameText (a b : String) : Bool :=
  match parse a, parse b with
  | .ok x, .ok y => same x y
  | _, _ => decide (fold (trim a.toList) = fold (trim b.toList))

/-! ## Domains -/

/-- The labels of a domain that are not blank, without blanks at their ends. -/
def labels (domain : String) : List (List Char) :=
  ((cutAll '.' domain.toList).map trim).filter fun label => !label.isEmpty

/-- The name of a domain's root entry: one `DC` for each label. -/
def ofDomain (domain : String) : String :=
  join "," ((labels domain).map fun label => "DC=" ++ String.ofList label)

end Dn

end LdapClient
