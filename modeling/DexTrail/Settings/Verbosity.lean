-- SUMMARY: How much is logged, by how often verbosity is asked for.

/-!
# Verbosity
-/

namespace DexTrail

inductive LogLevel where
  | error
  | warn
  | info
  | debug
  | trace
  deriving DecidableEq, Inhabited, Repr

namespace LogLevel

/-- Warnings by default, and one level more each time it is asked for. -/
def ofVerbosity : Nat → LogLevel
  | 0 => .warn
  | 1 => .info
  | 2 => .debug
  | _ => .trace

def name : LogLevel → String
  | .error => "Error"
  | .warn => "Warn"
  | .info => "Info"
  | .debug => "Debug"
  | .trace => "Trace"

/-- The parts of the tracker that log. -/
def components : List String := ["INDEX", "LEDGER", "PERSIST", "MANAGER", "CLI"]

end LogLevel

end DexTrail
