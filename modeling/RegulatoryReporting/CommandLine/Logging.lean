/-!
# Log Levels

Which log events are wanted is told to the logging system by directives: warnings of all
parts of a program, and the chosen level for the parts of this one.
-/

namespace RegulatoryReporting

/-- How much is logged. -/
inductive LogLevel
  | off
  | error
  | warn
  | info
  | debug
  | trace
  deriving DecidableEq, Repr

namespace LogLevel

/-- The name of a level. -/
def name : LogLevel → String
  | off => "off"
  | error => "error"
  | warn => "warn"
  | info => "info"
  | debug => "debug"
  | trace => "trace"

/-- Every level. -/
def all : List LogLevel := [off, error, warn, info, debug, trace]

/-- The level of a name. -/
def ofName? (s : String) : Option LogLevel := all.find? fun level => level.name == s

/-- The parts of the program whose events follow the chosen level. -/
def targets : List String :=
  ["regrep", "regrep_cli", "regrep_model", "regrep_standards", "regrep_validate"]

/-- The directives of a level. -/
def directives (level : LogLevel) : String :=
  String.intercalate ","
    (warn.name :: targets.map fun target => target ++ "=" ++ level.name)

end LogLevel

end RegulatoryReporting
