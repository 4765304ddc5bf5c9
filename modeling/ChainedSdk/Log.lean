/-
# Log records

What the library reports while it works: records with a level, the name of
the part that speaks, and a message. The records of a computation are part of
its result, in order.

Key definitions: `LogRecord`, `LogRecord.line`.
-/
namespace ChainedSdk

/-- How much a record matters. -/
inductive LogLevel where
  | debug
  | warning
  | error
deriving DecidableEq, Repr

/-- The word for a level. -/
def LogLevel.word : LogLevel → String
  | .debug => "DEBUG"
  | .warning => "WARNING"
  | .error => "ERROR"

/-- A record of a log. -/
structure LogRecord where
  level : LogLevel
  logger : String
  message : String
deriving DecidableEq, Repr

namespace LogRecord

/-- The record as a line. -/
def line (r : LogRecord) : String :=
  r.level.word ++ " " ++ r.logger ++ ": " ++ r.message

/-- A record of the part of the core with the given name. -/
def core (level : LogLevel) (part message : String) : LogRecord :=
  ⟨level, "gql_sdkgen.core." ++ part, message⟩

end LogRecord
end ChainedSdk
