/-
# LdapClient.Json.Fault -- why a JSON document is refused

A document is refused because its text is no JSON, or because a value in it is not of the kind that
was wanted at its place.  The first thing that is wrong, in the order of the text, decides.
-/
import LdapClient.Text.Decimal
import LdapClient.Text.Quoted

namespace LdapClient.Json

open Text

/-- What stands at a place where something else was wanted. -/
inductive Found where
  | null
  | boolean (value : Bool)
  | integer (value : Int)
  | float (digits : String)
  | text (value : String)
  | list
  | object
deriving DecidableEq

/-- The words for what was found. -/
def Found.describe : Found → String
  | .null => "null"
  | .boolean value => "boolean `" ++ (if value then "true" else "false") ++ "`"
  | .integer value => "integer `" ++ Decimal.ofInt value ++ "`"
  | .float digits => "floating point `" ++ digits ++ "`"
  | .text value => "string " ++ quoted value
  | .list => "sequence"
  | .object => "map"

/-- What is wanted at a place. -/
inductive Wanted where
  | text
  | path
  | boolean
  | int32
  | int64
  | list
  /-- All parameters of a login. -/
  | params
deriving DecidableEq

/-- The words for what is wanted. -/
def Wanted.describe : Wanted → String
  | .text => "a string"
  | .path => "path string"
  | .boolean => "a boolean"
  | .int32 => "i32"
  | .int64 => "i64"
  | .list => "a sequence"
  | .params => "struct ConnectionParams"

/-- Why a document is refused. -/
inductive Fault where
  | endOfValue
  | endOfList
  | endOfObject
  | endOfText
  | wantsColon
  | wantsListEnd
  | wantsObjectEnd
  | wantsWord
  | wantsValue
  | escape
  | number
  | numberRange
  | controlCharacter
  | key
  | loneSurrogate
  | unfinishedSurrogate
  | trailingComma
  | trailingCharacters
  | wrongType (found : Found) (wanted : Wanted)
  | wrongValue (value : Int) (wanted : Wanted)
  | duplicate (field : String)
deriving DecidableEq

/-- The words for a refused document. -/
def Fault.message : Fault → String
  | .endOfValue => "EOF while parsing a value"
  | .endOfList => "EOF while parsing a list"
  | .endOfObject => "EOF while parsing an object"
  | .endOfText => "EOF while parsing a string"
  | .wantsColon => "expected `:`"
  | .wantsListEnd => "expected `,` or `]`"
  | .wantsObjectEnd => "expected `,` or `\x7d`"
  | .wantsWord => "expected ident"
  | .wantsValue => "expected value"
  | .escape => "invalid escape"
  | .number => "invalid number"
  | .numberRange => "number out of range"
  | .controlCharacter => "control character (\\u0000-\\u001F) found while parsing a string"
  | .key => "key must be a string"
  | .loneSurrogate => "lone leading surrogate in hex escape"
  | .unfinishedSurrogate => "unexpected end of hex escape"
  | .trailingComma => "trailing comma"
  | .trailingCharacters => "trailing characters"
  | .wrongType found wanted =>
    "invalid type: " ++ found.describe ++ ", expected " ++ wanted.describe
  | .wrongValue value wanted =>
    "invalid value: " ++ (Found.integer value).describe ++ ", expected " ++ wanted.describe
  | .duplicate field => "duplicate field `" ++ field ++ "`"

end LdapClient.Json
