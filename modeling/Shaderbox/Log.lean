/-!
# Log records

Programs write records of one of five levels. What becomes of a record is for the receiver to
decide: the logger filters and prints them, a test collects them.
-/

namespace Shaderbox

/-- How serious a log record is. -/
inductive LogLevel where
  | error
  | warn
  | info
  | debug
  | trace
deriving DecidableEq, Repr

namespace LogLevel

/-- The level's name in capitals. -/
def name : LogLevel → String
  | .error => "ERROR"
  | .warn => "WARN"
  | .info => "INFO"
  | .debug => "DEBUG"
  | .trace => "TRACE"

/-- How much is let through when this is the last level shown. -/
def verbosity : LogLevel → Nat
  | .error => 1
  | .warn => 2
  | .info => 3
  | .debug => 4
  | .trace => 5

/-- All levels, the most serious first. -/
def all : List LogLevel := [.error, .warn, .info, .debug, .trace]

end LogLevel

/-- One log record. -/
structure LogRecord where
  level : LogLevel
  message : String
deriving DecidableEq, Repr

end Shaderbox
