/-
# LdapClient.Log -- lines for whoever watches a client

A client tells its logger what it does, at one of two levels.  Every line goes to the logger that
was set when its connection was dialed.  What becomes of the line is for the logger: the null logger
keeps none.
-/
namespace LdapClient

/-- Where the lines of a connection go. -/
inductive Logger where
  /-- To the tracing facility of the process. -/
  | tracing
  /-- To a logger that the caller supplies. -/
  | custom
  /-- Nowhere. -/
  | null
deriving DecidableEq

/-- The description of every logger. -/
def Logger.describe (_ : Logger) : String :=
  "Logger"

/-- How much a line matters. -/
inductive Level where
  | debug
  | error
deriving DecidableEq

/-- A line for a logger. -/
structure Line where
  logger : Logger
  level : Level
  text : String
deriving DecidableEq

/-- The logger does something with the line. -/
def Line.isKept (line : Line) : Bool :=
  line.logger ≠ .null

end LdapClient
