/-
# LdapClient.SearchFilter -- the text form of search filters

A filter stands between parentheses and is a conjunction, a disjunction, a negation or a condition
on one attribute.  A condition may also stand alone, without parentheses.  In its value the
characters `( ) * \` and NUL are written as a backslash and two hexadecimal digits, and so may be
any other octet; an asterisk that is not written like this stands for any text.
-/
import LdapClient.Text.Cut
import LdapClient.Text.Decimal
import LdapClient.Text.Hex
import LdapClient.Text.Octets

namespace LdapClient

open Text

/-- A search filter. -/
inductive SearchFilter where
  | all (parts : List SearchFilter)
  | any (parts : List SearchFilter)
  | negation (part : SearchFilter)
  | equality (target : String) (value : Octets)
  | present (target : String)
  /-- The pieces of a value between asterisks; the first and the last may be empty. -/
  | substrings (target : String) (pieces : List Octets)
  | atLeast (target : String) (value : Octets)
  | atMost (target : String) (value : Octets)
  | approximately (target : String) (value : Octets)
  | matching (target : Option String) (inName : Bool) (rule : Option String) (value : Octets)

namespace SearchFilter

/-! ## Values -/

/-- A character that stands for itself in a value. -/
def isPlain (c : Char) : Bool :=
  !(c = '(' || c = ')' || c = '*' || c = '\\' || c = '\x00')

/-- Puts octets in front of the first piece. -/
def glueOctets (front : Octets) : List Octets → List Octets
  | [] => [front]
  | piece :: pieces => (front ++ piece) :: pieces

/-- Cuts a value into the pieces between its asterisks, up to a character that ends it.  A backslash
that is not followed by two hexadecimal digits ends it too. -/
def cutValue : List Char → List Octets × List Char
  | [] => ([[]], [])
  | c :: rest =>
    if isPlain c then
      let cut := cutValue rest
      (glueOctets (encode [c]) cut.1, cut.2)
    else if c = '*' then
      let cut := cutValue rest
      ([] :: cut.1, cut.2)
    else if c = '\\' then
      match rest with
      | a :: b :: more =>
        match hexValue a, hexValue b with
        | some high, some low =>
          let cut := cutValue more
          (glueOctets [UInt8.ofNat (16 * high + low)] cut.1, cut.2)
        | _, _ => ([[]], c :: rest)
      | _ => ([[]], c :: rest)
    else ([[]], c :: rest)

/-- No piece but the first and the last is empty. -/
def isSubstrings : List Octets → Bool
  | [] => false
  | _ :: pieces => pieces.dropLast.all fun piece => !piece.isEmpty

/-- The condition that an attribute equals what is written behind its equals sign. -/
def ofPieces (target : String) : List Octets → Option SearchFilter
  | [] => none
  | [value] => some (equality target value)
  | [[], []] => some (present target)
  | pieces => if isSubstrings pieces then some (substrings target pieces) else none

/-- The condition that a whole value makes, if there is no asterisk in it. -/
def ofWhole (make : Octets → SearchFilter) : List Octets → Option SearchFilter
  | [value] => some (make value)
  | _ => none

/-! ## Attributes -/

/-- A letter, a digit or a hyphen. -/
def isNameChar (c : Char) : Bool :=
  Char.isAlphanum c || c = '-'

/-- A number without leading zeros. -/
def isArc : List Char → Bool
  | [] => false
  | ['0'] => true
  | c :: rest => Decimal.isDigit c && !(c = '0') && rest.all Decimal.isDigit

/-- The name of an attribute type: a word, or numbers between points. -/
def isType : List Char → Bool
  | [] => false
  | c :: rest =>
    if Char.isAlpha c then rest.all isNameChar else (cutAll '.' (c :: rest)).all isArc

/-- An attribute type with options, each behind a semicolon. -/
def isDescription (text : List Char) : Bool :=
  match cutAll ';' text with
  | [] => false
  | type :: options =>
    isType type && options.all fun option => !option.isEmpty && option.all isNameChar

/-- The attribute that a text describes. -/
def target? (text : List Char) : Option String :=
  if isDescription text then some (String.ofList text) else none

/-! ## Conditions -/

/-- What follows a colon begins with the mark for attributes in names.  A rule that begins with the
letters of the mark is read as the mark. -/
def cutMark : List Char → Option (List Char)
  | 'd' :: 'n' :: rest => some rest
  | _ => none

/-- A colon and the matching rule behind it. -/
def rule? : List Char → Option String
  | ':' :: rule => if isType rule then some (String.ofList rule) else none
  | _ => none

/-- The mark and the rule of a condition on an attribute, both of which may be missing. -/
def markAndRule? (text : List Char) : Option (Bool × Option String) :=
  match cutMark text with
  | some [] => some (true, none)
  | some rest => (rule? rest).map fun rule => (true, some rule)
  | none => (rule? (':' :: text)).map fun rule => (false, some rule)

/-- The attribute, the mark and the matching rule in front of `:=`.  Without an attribute there must
be a rule. -/
def matchingParts (text : List Char) : Option (Option String × Bool × Option String) :=
  match cutOnce ':' text with
  | none => (target? text).map fun target => (some target, false, none)
  | some ([], rest) =>
    match markAndRule? rest with
    | some (inName, some rule) => some (none, inName, some rule)
    | _ => none
  | some (target, rest) =>
    match target? target, markAndRule? rest with
    | some target, some (inName, rule) => some (some target, inName, rule)
    | _, _ => none

/-- Reads a condition whose value is given by its pieces. -/
def condition? (front : List Char) (pieces : List Octets) : Option SearchFilter :=
  match front.reverse with
  | '>' :: more => (target? more.reverse).bind fun target => ofWhole (atLeast target) pieces
  | '<' :: more => (target? more.reverse).bind fun target => ofWhole (atMost target) pieces
  | '~' :: more => (target? more.reverse).bind fun target => ofWhole (approximately target) pieces
  | ':' :: more =>
    (matchingParts more.reverse).bind fun parts =>
      ofWhole (matching parts.1 parts.2.1 parts.2.2) pieces
  | _ => (target? front).bind fun target => ofPieces target pieces

/-- Reads a condition from the front of a text. -/
def readCondition (text : List Char) : Option (SearchFilter × List Char) :=
  match cutOnce '=' text with
  | none => none
  | some (front, rest) =>
    let cut := cutValue rest
    (condition? front cut.1).map (·, cut.2)

/-! ## Filters -/

mutual

/-- Reads what stands between parentheses, at most `fuel` levels deep. -/
def readInner : Nat → List Char → Option (SearchFilter × List Char)
  | 0, _ => none
  | fuel + 1, text =>
    match text with
    | '&' :: rest => (readParts fuel rest).map fun read => (all read.1, read.2)
    | '|' :: rest => (readParts fuel rest).map fun read => (any read.1, read.2)
    | '!' :: '(' :: rest =>
      match readInner fuel rest with
      | some (part, ')' :: rest) => some (negation part, rest)
      | _ => none
    | _ => readCondition text

/-- Reads filters between parentheses as long as there are any. -/
def readParts : Nat → List Char → Option (List SearchFilter × List Char)
  | 0, _ => none
  | fuel + 1, text =>
    match text with
    | '(' :: rest =>
      match readInner fuel rest with
      | some (part, ')' :: rest) => (readParts fuel rest).map fun read => (part :: read.1, read.2)
      | _ => none
    | _ => some ([], text)

end

/-- Reads a filter. -/
def parse? (text : String) : Option SearchFilter :=
  match text.toList with
  | '(' :: rest =>
    match readInner (rest.length + 1) rest with
    | some (filter, [')']) => some filter
    | _ => none
  | text =>
    match readCondition text with
    | some (filter, []) => some filter
    | _ => none

end SearchFilter

end LdapClient
