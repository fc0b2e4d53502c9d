import RegulatoryReporting.CommandLine.Arguments
import RegulatoryReporting.CommandLine.Logging
import RegulatoryReporting.Condition.Evaluation
import RegulatoryReporting.Path.Syntax

/-!
# Invocations

What the program is asked to do: to list packages, or to validate a file of records. The
options about logging may stand before the command or after it.
-/

namespace RegulatoryReporting

/-- How a batch report is shown. -/
inductive OutputFormat
  | table
  | json
  deriving DecidableEq, Repr

/-- What to validate, and how. -/
structure ValidateOptions where
  /-- The file of records. -/
  records : String
  /-- The key of the package. -/
  package : String
  /-- The code of the report type. -/
  reportType : Option String
  /-- The directory of packages, unless the bundled ones are wanted. -/
  directory : Option String
  /-- The file of the catalogue. -/
  catalog : Option String
  /-- The file of reference data. -/
  referenceData : Option String
  /-- How deep conditions may be nested. -/
  maxDepth : Nat
  /-- How the report is shown. -/
  output : OutputFormat
  deriving DecidableEq, Repr

/-- A command. -/
inductive Command
  /-- List the packages of a directory, or the bundled ones. -/
  | packages (directory : Option String)
  | validate (options : ValidateOptions)
  deriving DecidableEq, Repr

/-- A command with the options about logging. -/
structure Invocation where
  /-- The command. -/
  command : Command
  /-- How much is logged. -/
  logLevel : LogLevel
  /-- The file for the log. -/
  logFile : Option String
  deriving DecidableEq, Repr

/-! ### Grammars -/

/-- A value that is not empty. -/
def isPath (value : String) : Bool := !value.isEmpty

/-- The value of an option for a path. -/
def pathOption (long : String) : OptionSpec := ⟨long, none, .valued isPath⟩

/-- The value of an option for any text. -/
def textOption (long : String) : OptionSpec := ⟨long, none, .valued fun _ => true⟩

/-- The value of an option for one of some names. -/
def namedOption (long : String) (names : List String) : OptionSpec :=
  ⟨long, none, .valued fun value => names.contains value⟩

/-- The option that asks for help. -/
def helpOption : OptionSpec := ⟨"help", some 'h', .help⟩

/-- The options that may stand before a command or after it. -/
def sharedOptions : List OptionSpec :=
  [⟨"verbose", some 'v', .counted⟩, ⟨"quiet", some 'q', .counted⟩,
    namedOption "color" ["auto", "always", "never"],
    namedOption "log-level" ["error", "warn", "info", "debug", "trace"],
    namedOption "log-format" ["pretty", "compact", "json"], pathOption "log-file", helpOption]

/-- What may stand before a command. -/
def programGrammar : ArgumentGrammar where
  options := sharedOptions ++ [⟨"version", some 'V', .version⟩]
  positionals := []
  commands := ["packages", "validate", "help"]

/-- What may follow `packages`. -/
def packagesGrammar : ArgumentGrammar where
  options := sharedOptions ++ [pathOption "packages-dir"]
  positionals := []
  commands := []

/-- What may follow `validate`. -/
def validateGrammar : ArgumentGrammar where
  options := sharedOptions ++
    [textOption "package", textOption "report-type", pathOption "packages-dir",
      pathOption "catalog", pathOption "reference-data",
      ⟨"max-depth", none, .valued fun value => (readIndex? value.toList).isSome⟩,
      namedOption "output" ["table", "json"]]
  positionals := [isPath]
  commands := []

/-! ### Reading -/

/-- Whether arguments ask for more and for less log output at once. -/
def Arguments.contradicts (a : Arguments) : Bool :=
  0 < a.count "verbose" && 0 < a.count "quiet"

/-- The level at a number of steps above warnings, or below. -/
def LogLevel.atStep (step : Int) : LogLevel :=
  if step ≤ -2 then .off
  else if step = -1 then .error
  else if step = 0 then .warn
  else if step = 1 then .info
  else if step = 2 then .debug
  else .trace

/-- How much is logged: as the level says, else by the counted options. What stands after
the command comes before what stands in front of it. -/
def logLevelOf (before after : Arguments) : LogLevel :=
  let named := (after.value? "log-level").or (before.value? "log-level")
  match named.bind LogLevel.ofName? with
  | some level => level
  | none =>
    let counted (name : String) : Nat :=
      if 0 < after.count name then after.count name else before.count name
    .atStep (counted "verbose" - counted "quiet")

/-- The command `validate` of its arguments, if nothing is missing. -/
def validateCommand? (a : Arguments) : Option Command := do
  let records ← a.positionals.head?
  let package ← a.value? "package"
  return .validate {
    records, package
    reportType := a.value? "report-type"
    directory := a.value? "packages-dir"
    catalog := a.value? "catalog"
    referenceData := a.value? "reference-data"
    maxDepth :=
      ((a.value? "max-depth").bind fun value => readIndex? value.toList).getD
        Evaluator.defaultLimit
    output := if a.value? "output" == some "json" then .json else .table }

/-- The invocation of a command whose arguments were read. -/
def Invocation.assemble (before after : Arguments) (command : Option Command) :
    Except ArgumentStop Invocation :=
  if before.contradicts || after.contradicts then .error .misuse
  else match command with
    | none => .error .misuse
    | some command => .ok {
        command
        logLevel := logLevelOf before after
        logFile := (after.value? "log-file").or (before.value? "log-file") }

/-- Whether the arguments of `help` name a command. -/
def helpStop : List String → ArgumentStop
  | [] => .help
  | [name] => if programGrammar.commands.contains name then .help else .misuse
  | _ => .misuse

/-- The invocation of the arguments of the program. -/
def Invocation.ofArguments (args : List String) : Except ArgumentStop Invocation := do
  let before ← Arguments.ofList programGrammar args
  match before.command with
  | some ("packages", rest) =>
    let after ← Arguments.ofList packagesGrammar rest
    Invocation.assemble before after (some (.packages (after.value? "packages-dir")))
  | some ("validate", rest) =>
    let after ← Arguments.ofList validateGrammar rest
    Invocation.assemble before after (validateCommand? after)
  | some ("help", rest) => .error (helpStop rest)
  | _ => .error .misuse

end RegulatoryReporting
