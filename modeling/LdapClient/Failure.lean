/-
# LdapClient.Failure -- how an operation failed

A failure is a result code and a message.  Below the client, failures arrive as a `Signal`: one
text, either a message alone or a code, a colon and a message.  `Signal.toFailure` reads it once:
what stands before the first colon is the code if it is a 32-bit number, and otherwise the whole
text is the message of a failure without a code.

The four kinds are decided by the code alone.
-/
import LdapClient.ResultCode
import LdapClient.Text.Cut
import LdapClient.Text.Quoted

namespace LdapClient

open Text

/-- A result code and a message. -/
structure Failure where
  code : ResultCode
  message : String
deriving DecidableEq

namespace Failure

/-- Where a failure comes from. -/
inductive Kind where
  /-- Reported by the server. -/
  | protocol
  /-- Noticed by the client itself. -/
  | clientLocal
  /-- An argument or a state that the client refuses. -/
  | precondition
  /-- A signal without a code. -/
  | unknown
deriving DecidableEq

/-- A refused argument or state. -/
def param (message : String) : Failure :=
  ⟨.paramError, message⟩

/-- A failure to reach a server. -/
def network (message : String) : Failure :=
  ⟨.network, message⟩

/-- A simple bind without a password. -/
def emptyPassword : Failure :=
  ⟨.emptyPassword, "empty password not allowed by the client"⟩

/-- The kind that the code stands for. -/
def kind (failure : Failure) : Kind :=
  if failure.code = .paramError then .precondition
  else if failure.code.isClientLocal then .clientLocal
  else if failure.code = .unknown then .unknown
  else .protocol

/-- Failures that deserve the attention of whoever reads the log. -/
def isSerious (failure : Failure) : Bool :=
  match failure.kind with
  | .clientLocal | .unknown => true
  | .protocol | .precondition => false

/-- The line that reports a failure: code, quoted description, message. -/
def display (failure : Failure) : String :=
  "LDAP Result Code " ++ failure.code.display ++ " " ++ quoted failure.code.description ++ ": " ++
    failure.message

end Failure

/-! ## Signals -/

/-- A failure as text, from below the client. -/
structure Signal where
  text : String
deriving DecidableEq

namespace Signal

/-- A signal that carries a code. -/
def withCode (code : Int) (message : String) : Signal :=
  ⟨Decimal.ofInt code ++ ":" ++ message⟩

/-- Reads a code: a decimal number with at most one sign that fits in 32 bits. -/
def code? (text : List Char) : Option ResultCode :=
  (Decimal.signed? text).bind ResultCode.ofInt?

/-- The failure that a signal reports. -/
def toFailure (signal : Signal) : Failure :=
  match cutOnce ':' signal.text.toList with
  | none => ⟨.unknown, signal.text⟩
  | some (front, message) =>
    match code? front with
    | some code => ⟨code, String.ofList message⟩
    | none => ⟨.unknown, signal.text⟩

end Signal

end LdapClient
