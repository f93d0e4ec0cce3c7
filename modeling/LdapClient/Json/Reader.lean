/-
# LdapClient.Json.Reader -- reading wanted values from the tokens of a document

Each reader takes the tokens of one value from the front and leaves the others.  It knows what it
wants, so a value of another kind is refused where it begins, whatever comes later.

`skip` passes over a value that nobody wants.  It only looks at the shape: a number may be out of
range and a text may hold half a surrogate pair.
-/
import LdapClient.Json.Token

namespace LdapClient.Json

/-- A value and the tokens that follow it, or why there is none. -/
abbrev Read (α : Type) := Except Fault (α × List Token)

/-! ## Texts -/

/-- The fault of a text that is not finished. -/
def TextFault.toFault : TextFault → Fault
  | .unterminated => .endOfText
  | .controlCharacter => .controlCharacter
  | .unknownEscape => .escape
  | .malformedHex => .escape

/-- The fault where the second half of a surrogate pair was wanted and the text is not finished. -/
def TextFault.afterSurrogate : TextFault → Fault
  | .unterminated => .endOfText
  | .malformedHex => .escape
  | .controlCharacter => .unfinishedSurrogate
  | .unknownEscape => .unfinishedSurrogate

/-- The number of the first half of a surrogate pair. -/
def isLeading (n : Nat) : Bool :=
  Nat.ble 0xD800 n && Nat.ble n 0xDBFF

/-- The number of the second half of a surrogate pair. -/
def isTrailing (n : Nat) : Bool :=
  Nat.ble 0xDC00 n && Nat.ble n 0xDFFF

/-- The character of a surrogate pair. -/
def paired (leading trailing : Nat) : Char :=
  Char.ofNat ((leading - 0xD800) * 1024 + (trailing - 0xDC00) + 0x10000)

/-- The characters of a text. -/
def decodeText (fault : Option TextFault) : List Piece → Except Fault (List Char)
  | [] =>
    match fault with
    | none => .ok []
    | some fault => .error fault.toFault
  | .char c :: rest => (decodeText fault rest).map (c :: ·)
  | [.unit n] =>
    if isTrailing n then .error .loneSurrogate
    else if isLeading n then
      match fault with
      | none => .error .unfinishedSurrogate
      | some fault => .error fault.afterSurrogate
    else (decodeText fault []).map (Char.ofNat n :: ·)
  | .unit n :: .char c :: rest =>
    if isTrailing n then .error .loneSurrogate
    else if isLeading n then .error .unfinishedSurrogate
    else (decodeText fault (.char c :: rest)).map (Char.ofNat n :: ·)
  | .unit n :: .unit m :: rest =>
    if isTrailing n then .error .loneSurrogate
    else if isLeading n then
      if isTrailing m then (decodeText fault rest).map (paired n m :: ·)
      else .error .loneSurrogate
    else (decodeText fault (.unit m :: rest)).map (Char.ofNat n :: ·)

/-- The string of a text. -/
def decodeString (pieces : List Piece) (fault : Option TextFault) : Except Fault String :=
  (decodeText fault pieces).map String.ofList

/-! ## Values of one kind -/

/-- The fault of a value that begins with this token where another kind was wanted. -/
def mismatch (wanted : Wanted) : Token → Fault
  | .word .null => .wrongType .null wanted
  | .word .true => .wrongType (.boolean true) wanted
  | .word .false => .wrongType (.boolean false) wanted
  | .number written =>
    match written.value with
    | some number => .wrongType number.found wanted
    | none => .numberRange
  | .text pieces fault =>
    match decodeString pieces fault with
    | .ok value => .wrongType (.text value) wanted
    | .error fault => fault
  | .openList => .wrongType .list wanted
  | .openObject => .wrongType .object wanted
  | .brokenWord atEnd => if atEnd then .endOfValue else .wantsWord
  | .brokenNumber atEnd => if atEnd then .endOfValue else .number
  | .closeObject | .closeList | .colon | .comma | .stray _ => .wantsValue

/-- Reads a text. -/
def readText (wanted : Wanted) : List Token → Read String
  | [] => .error .endOfValue
  | .text pieces fault :: rest => (decodeString pieces fault).map (·, rest)
  | token :: _ => .error (mismatch wanted token)

/-- Reads `true` or `false`. -/
def readBool : List Token → Read Bool
  | [] => .error .endOfValue
  | .word .true :: rest => .ok (true, rest)
  | .word .false :: rest => .ok (false, rest)
  | token :: _ => .error (mismatch .boolean token)

/-- Reads a whole number between two limits. -/
def readInt (wanted : Wanted) (low high : Int) : List Token → Read Int
  | [] => .error .endOfValue
  | .number written :: rest =>
    match written.value with
    | some (.integer n) =>
      if low ≤ n ∧ n ≤ high then .ok (n, rest) else .error (.wrongValue n wanted)
    | _ => .error (mismatch wanted (.number written))
  | token :: _ => .error (mismatch wanted token)

/-- Reads a 32-bit number. -/
def readInt32 : List Token → Read Int :=
  readInt .int32 (-2147483648) 2147483647

/-- Reads a 64-bit number. -/
def readInt64 : List Token → Read Int :=
  readInt .int64 (-9223372036854775808) 9223372036854775807

/-- Reads a file path or `null`. -/
def readPath? : List Token → Read (Option String)
  | .word .null :: rest => .ok (none, rest)
  | tokens => (readText .path tokens).map fun read => (some read.1, read.2)

/-! ## Lists of texts -/

/-- Reads the texts that follow the first one. -/
def readMoreTexts : List Token → Read (List String)
  | [] => .error .endOfList
  | .closeList :: rest => .ok ([], rest)
  | [.comma] => .error .endOfValue
  | .comma :: .closeList :: _ => .error .trailingComma
  | .comma :: .text pieces fault :: rest =>
    match decodeString pieces fault with
    | .error fault => .error fault
    | .ok value => (readMoreTexts rest).map fun read => (value :: read.1, read.2)
  | .comma :: token :: _ => .error (mismatch .text token)
  | _ :: _ => .error .wantsListEnd

/-- Reads a list of texts. -/
def readTexts : List Token → Read (List String)
  | [] => .error .endOfValue
  | [.openList] => .error .endOfList
  | .openList :: .closeList :: rest => .ok ([], rest)
  | .openList :: tokens =>
    match readText .text tokens with
    | .error fault => .error fault
    | .ok (value, rest) => (readMoreTexts rest).map fun read => (value :: read.1, read.2)
  | token :: _ => .error (mismatch .list token)

/-! ## Values that nobody wants -/

/-- What encloses a place. -/
inductive Frame where
  | list
  | object
deriving DecidableEq

/-- What is expected next within the innermost frame. -/
inductive Place where
  /-- A value. -/
  | value
  /-- The first item, or the end. -/
  | opened
  /-- A separator, or the end. -/
  | after
  /-- The name of a member. -/
  | key
  /-- The colon behind a name. -/
  | colon
deriving DecidableEq

/-- The next place after a complete value within these frames; `none` if that was the whole. -/
def completed : List Frame → Option (List Frame × Place)
  | [] => none
  | frame :: frames => some (frame :: frames, .after)

/-- A value begins with this token. -/
def stepValue (frames : List Frame) : Token → Except Fault (Option (List Frame × Place))
  | .word _ | .number _ | .text _ none => .ok (completed frames)
  | .text _ (some fault) => .error fault.toFault
  | .openList => .ok (some (.list :: frames, .opened))
  | .openObject => .ok (some (.object :: frames, .opened))
  | .brokenWord atEnd => .error (if atEnd then .endOfValue else .wantsWord)
  | .brokenNumber _ => .error .number
  | .closeObject | .closeList | .colon | .comma | .stray _ => .error .wantsValue

/-- The name of a member is this token. -/
def stepKey (frames : List Frame) : Token → Except Fault (Option (List Frame × Place))
  | .text _ none => .ok (some (frames, .colon))
  | .text _ (some fault) => .error fault.toFault
  | _ => .error .key

/-- The next place after a token. -/
def step : List Frame → Place → Token → Except Fault (Option (List Frame × Place))
  | frames, .value, token => stepValue frames token
  | .list :: frames, .opened, .closeList => .ok (completed frames)
  | .object :: frames, .opened, .closeObject => .ok (completed frames)
  | .object :: frames, .opened, token => stepKey (.object :: frames) token
  | frames, .opened, token => stepValue frames token
  | .list :: frames, .after, token =>
    match token with
    | .comma => .ok (some (.list :: frames, .value))
    | .closeList => .ok (completed frames)
    | _ => .error .wantsListEnd
  | .object :: frames, .after, token =>
    match token with
    | .comma => .ok (some (.object :: frames, .key))
    | .closeObject => .ok (completed frames)
    | _ => .error .wantsObjectEnd
  | [], .after, _ => .error .trailingCharacters
  | frames, .key, token => stepKey frames token
  | frames, .colon, token =>
    match token with
    | .colon => .ok (some (frames, .value))
    | _ => .error .wantsColon

/-- The fault of a document that ends at a place. -/
def endAt : List Frame → Place → Fault
  | _, .value => .endOfValue
  | .list :: _, _ => .endOfList
  | _, _ => .endOfObject

/-- Passes over tokens up to the end of the value that was begun. -/
def skipFrom (frames : List Frame) (place : Place) : List Token → Except Fault (List Token)
  | [] => .error (endAt frames place)
  | token :: rest =>
    match step frames place token with
    | .error fault => .error fault
    | .ok none => .ok rest
    | .ok (some (frames, place)) => skipFrom frames place rest

/-- Passes over one value. -/
def skip (tokens : List Token) : Except Fault (List Token) :=
  skipFrom [] .value tokens

/-! ## Whole documents -/

/-- A document that holds one value and nothing else. -/
def readWhole {α : Type} (reader : List Token → Read α) (text : String) : Except Fault α :=
  match reader (tokens text.toList) with
  | .error fault => .error fault
  | .ok (value, []) => .ok value
  | .ok (_, _ :: _) => .error .trailingCharacters

end LdapClient.Json
