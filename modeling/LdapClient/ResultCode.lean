/-
# LdapClient.ResultCode -- numbers that say how an operation ended

Result codes are signed 32-bit numbers.  Those from 0 to 123 and 4096 are the ones of the protocol
and of the common client interface; 200 to 206 are raised by this client alone and never cross the
wire; -1 stands for a failure that carries no code.  The registry lists the codes that have a name
and a description; every other number is a code too, with an empty description.
-/
import LdapClient.Text.Decimal

namespace LdapClient

/-- A signed 32-bit result code. -/
structure ResultCode where
  value : Int
  lower : -2147483648 ≤ value := by decide
  upper : value ≤ 2147483647 := by decide
deriving DecidableEq

namespace ResultCode

/-- The code with this number, if it fits. -/
def ofInt? (n : Int) : Option ResultCode :=
  if h : -2147483648 ≤ n ∧ n ≤ 2147483647 then some ⟨n, h.1, h.2⟩ else none

/-! ## The registry -/

/-- A registered code: its name, its number and what it means. -/
structure Registered where
  name : String
  value : Int
  description : String

/-- The codes that have a name. -/
def registry : List Registered :=
  [ ⟨"UNKNOWN", -1, ""⟩,
    ⟨"SUCCESS", 0, "Success"⟩,
    ⟨"OPERATIONS_ERROR", 1, "Operations Error"⟩,
    ⟨"PROTOCOL_ERROR", 2, "Protocol Error"⟩,
    ⟨"TIME_LIMIT_EXCEEDED", 3, "Time Limit Exceeded"⟩,
    ⟨"SIZE_LIMIT_EXCEEDED", 4, "Size Limit Exceeded"⟩,
    ⟨"COMPARE_FALSE", 5, "Compare False"⟩,
    ⟨"COMPARE_TRUE", 6, "Compare True"⟩,
    ⟨"AUTH_METHOD_NOT_SUPPORTED", 7, "Auth Method Not Supported"⟩,
    ⟨"STRONG_AUTH_REQUIRED", 8, "Strong Auth Required"⟩,
    ⟨"REFERRAL", 10, "Referral"⟩,
    ⟨"ADMIN_LIMIT_EXCEEDED", 11, "Admin Limit Exceeded"⟩,
    ⟨"UNAVAILABLE_CRITICAL_EXTENSION", 12, "Unavailable Critical Extension"⟩,
    ⟨"CONFIDENTIALITY_REQUIRED", 13, "Confidentiality Required"⟩,
    ⟨"SASL_BIND_IN_PROGRESS", 14, "Sasl Bind In Progress"⟩,
    ⟨"NO_SUCH_ATTRIBUTE", 16, "No Such Attribute"⟩,
    ⟨"UNDEFINED_ATTRIBUTE_TYPE", 17, "Undefined Attribute Type"⟩,
    ⟨"INAPPROPRIATE_MATCHING", 18, "Inappropriate Matching"⟩,
    ⟨"CONSTRAINT_VIOLATION", 19, "Constraint Violation"⟩,
    ⟨"ATTRIBUTE_OR_VALUE_EXISTS", 20, "Attribute Or Value Exists"⟩,
    ⟨"INVALID_ATTRIBUTE_SYNTAX", 21, "Invalid Attribute Syntax"⟩,
    ⟨"NO_SUCH_OBJECT", 32, "No Such Object"⟩,
    ⟨"ALIAS_PROBLEM", 33, "Alias Problem"⟩,
    ⟨"INVALID_DN_SYNTAX", 34, "Invalid DN Syntax"⟩,
    ⟨"IS_LEAF", 35, "Is Leaf"⟩,
    ⟨"ALIAS_DEREFERENCING_PROBLEM", 36, "Alias Dereferencing Problem"⟩,
    ⟨"INAPPROPRIATE_AUTHENTICATION", 48, "Inappropriate Authentication"⟩,
    ⟨"INVALID_CREDENTIALS", 49, "Invalid Credentials"⟩,
    ⟨"INSUFFICIENT_ACCESS_RIGHTS", 50, "Insufficient Access Rights"⟩,
    ⟨"BUSY", 51, "Busy"⟩,
    ⟨"UNAVAILABLE", 52, "Unavailable"⟩,
    ⟨"UNWILLING_TO_PERFORM", 53, "Unwilling To Perform"⟩,
    ⟨"LOOP_DETECT", 54, "Loop Detect"⟩,
    ⟨"SORT_CONTROL_MISSING", 60, "Sort Control Missing"⟩,
    ⟨"OFFSET_RANGE_ERROR", 61, "Result Offset Range Error"⟩,
    ⟨"NAMING_VIOLATION", 64, "Naming Violation"⟩,
    ⟨"OBJECT_CLASS_VIOLATION", 65, "Object Class Violation"⟩,
    ⟨"NOT_ALLOWED_ON_NON_LEAF", 66, "Not Allowed On Non Leaf"⟩,
    ⟨"NOT_ALLOWED_ON_RDN", 67, "Not Allowed On RDN"⟩,
    ⟨"ENTRY_ALREADY_EXISTS", 68, "Entry Already Exists"⟩,
    ⟨"OBJECT_CLASS_MODS_PROHIBITED", 69, "Object Class Mods Prohibited"⟩,
    ⟨"RESULTS_TOO_LARGE", 70, "Results Too Large"⟩,
    ⟨"AFFECTS_MULTIPLE_DSAS", 71, "Affects Multiple DSAs"⟩,
    ⟨"VIRTUAL_LIST_VIEW_ERROR", 76,
      "Failed because of a problem related to the virtual list view"⟩,
    ⟨"OTHER", 80, "Other"⟩,
    ⟨"SERVER_DOWN", 81, "Cannot establish a connection"⟩,
    ⟨"LOCAL_ERROR", 82, "An error occurred"⟩,
    ⟨"ENCODING_ERROR", 83, "LDAP encountered an error while encoding"⟩,
    ⟨"DECODING_ERROR", 84, "LDAP encountered an error while decoding"⟩,
    ⟨"TIMEOUT", 85, "LDAP timeout while waiting for a response from the server"⟩,
    ⟨"AUTH_UNKNOWN", 86, "The auth method requested in a bind request is unknown"⟩,
    ⟨"FILTER_ERROR", 87, "An error occurred while encoding the given search filter"⟩,
    ⟨"USER_CANCELED", 88, "The user canceled the operation"⟩,
    ⟨"PARAM_ERROR", 89, "An invalid parameter was specified"⟩,
    ⟨"NO_MEMORY", 90, "Out of memory error"⟩,
    ⟨"CONNECT_ERROR", 91, "A connection to the server could not be established"⟩,
    ⟨"NOT_SUPPORTED", 92, "An attempt has been made to use a feature not supported LDAP"⟩,
    ⟨"CONTROL_NOT_FOUND", 93,
      "The controls required to perform the requested operation were not found"⟩,
    ⟨"NO_RESULTS_RETURNED", 94, "No results were returned from the server"⟩,
    ⟨"MORE_RESULTS_TO_RETURN", 95, "There are more results in the chain of results"⟩,
    ⟨"CLIENT_LOOP", 96, "A loop has been detected. For example when following referrals"⟩,
    ⟨"REFERRAL_LIMIT_EXCEEDED", 97, "The referral hop limit has been exceeded"⟩,
    ⟨"INVALID_RESPONSE", 100, "Invalid Response"⟩,
    ⟨"AMBIGUOUS_RESPONSE", 101, "Ambiguous Response"⟩,
    ⟨"TLS_NOT_SUPPORTED", 112, "Tls Not Supported"⟩,
    ⟨"INTERMEDIATE_RESPONSE", 113, "Intermediate Response"⟩,
    ⟨"UNKNOWN_TYPE", 114, "Unknown Type"⟩,
    ⟨"CANCELED", 118, "Operation was canceled"⟩,
    ⟨"NO_SUCH_OPERATION", 119,
      "Server has no knowledge of the operation requested for cancellation"⟩,
    ⟨"TOO_LATE", 120, "Too late to cancel the outstanding operation"⟩,
    ⟨"CANNOT_CANCEL", 121,
      "The identified operation does not support cancellation or the cancel operation cannot be performed"⟩,
    ⟨"ASSERTION_FAILED", 122,
      "An assertion control given in the LDAP operation evaluated to false causing the operation to not be performed"⟩,
    ⟨"AUTHORIZATION_DENIED", 123, "Authorization Denied"⟩,
    ⟨"SYNC_REFRESH_REQUIRED", 4096, "Refresh Required"⟩,
    ⟨"NETWORK", 200, "Network Error"⟩,
    ⟨"FILTER_COMPILE", 201, "Filter Compile Error"⟩,
    ⟨"FILTER_DECOMPILE", 202, "Filter Decompile Error"⟩,
    ⟨"DEBUGGING", 203, "Debugging Error"⟩,
    ⟨"UNEXPECTED_MESSAGE", 204, "Unexpected Message"⟩,
    ⟨"UNEXPECTED_RESPONSE", 205, "Unexpected Response"⟩,
    ⟨"EMPTY_PASSWORD", 206, "Empty password not allowed by the client"⟩ ]

/-- The registered code of this name. -/
def named? (name : String) : Option ResultCode :=
  (registry.find? fun r => r.name == name).bind fun r => ofInt? r.value

/-- What the code means; empty for a code without a registered meaning. -/
def description (code : ResultCode) : String :=
  match registry.find? fun r => decide (r.value = code.value) with
  | some r => r.description
  | none => ""

/-- The decimal text of the code. -/
def display (code : ResultCode) : String :=
  Text.Decimal.ofInt code.value

/-- Codes raised by this client rather than by a server. -/
def isClientLocal (code : ResultCode) : Bool :=
  decide (200 ≤ code.value) && decide (code.value ≤ 206)

/-! ## Codes that the client itself uses -/

/-- A failure that carries no code. -/
def unknown : ResultCode where
  value := -1

def operationsError : ResultCode where
  value := 1

def authMethodNotSupported : ResultCode where
  value := 7

def noSuchAttribute : ResultCode where
  value := 16

def noSuchObject : ResultCode where
  value := 32

def invalidDnSyntax : ResultCode where
  value := 34

def localError : ResultCode where
  value := 82

def timeout : ResultCode where
  value := 85

/-- An argument or a state that the client refuses. -/
def paramError : ResultCode where
  value := 89

def notSupported : ResultCode where
  value := 92

/-- No usable address or transport. -/
def network : ResultCode where
  value := 200

/-- A simple bind without a password. -/
def emptyPassword : ResultCode where
  value := 206

end ResultCode

end LdapClient
