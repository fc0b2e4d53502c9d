import RegulatoryReporting.CommandLine.Invocation
import RegulatoryReporting.CommandLine.Summary
import RegulatoryReporting.Registry.Loading
import RegulatoryReporting.Validation.RecordFile

/-!
# Execution of Commands

A command reads its files one after the other, and the first that is wrong ends it. What
went wrong is told from the outside in: what was being done, what failed, and why. The
exit code is zero when every record passed or warned, one when a record failed or the
command could not be carried out, and two when the arguments were wrong.
-/

namespace RegulatoryReporting

/-- What is shown. -/
inductive Shown
  | blocks (parts : List Block)
  /-- A value as indented JSON. -/
  | json (value : Json)

/-- What a program run leaves behind. -/
structure Outcome where
  /-- The exit code. -/
  exitCode : Nat
  /-- What is shown on standard output. -/
  shown : Shown := .blocks []
  /-- The error message, if there is one. -/
  error : Option String := none

/-! ### Failures -/

/-- What went wrong, from the outside in. -/
abbrev FailureChain := List String

/-- The text of a chain. -/
def FailureChain.text (chain : FailureChain) : String := String.intercalate ": " chain

/-- What failed to decode, for readers. -/
def DecodeError.description (e : DecodeError) : String := e.message?.getD "malformed JSON"

/-- The chain of a file that cannot be read. -/
def unreadableChain (path : String) (fault : FileFault) : FailureChain :=
  [s!"Failed to read {path}: {fault.message}", fault.message]

/-- The chain of a text that does not decode. -/
def undecodableChain (subject : String) (e : DecodeError) : FailureChain :=
  [s!"Failed to decode {subject}: {e.description}", e.description]

/-- The chain of packages that cannot be loaded. -/
def LoadError.chain : LoadError → FailureChain
  | unreadable path fault => unreadableChain path fault
  | undecodable origin e => undecodableChain s!"package {origin}" e
  | rejected e => [e.message]

/-- What a record file error says. -/
def RecordFileError.description (e : RecordFileError) : String :=
  e.message?.getD "malformed JSON"

/-- A result, or a chain under what was being done. -/
def within (activity : String) (r : Except FailureChain α) : Except FailureChain α :=
  r.mapError fun chain => activity :: chain

/-! ### Files -/

variable {m : Type → Type} [Monad m]

/-- The registry of a directory, or the bundled one. -/
def openRegistry (files : FileAccess m) (directory : Option String) :
    m (Except FailureChain Registry) := do
  match directory with
  | some directory =>
    let r ← Registry.ofDirectory files directory
    return within s!"load packages from {directory}" (r.mapError (·.chain))
  | none =>
    return within "load bundled packages" (Registry.bundled.mapError fun e => [e.message])

/-- The value that a decoder reads from a file. -/
def readDecoded (files : FileAccess m) (decode : String → Except DecodeError α)
    (path : String) : m (Except FailureChain α) := do
  match ← files.read path with
  | .error fault => return .error (unreadableChain path fault)
  | .ok text => return (decode text).mapError (undecodableChain path)

/-- The catalogue of a file, or the empty one. -/
def openCatalog (files : FileAccess m) (path : Option String) :
    m (Except FailureChain Catalog) := do
  match path with
  | none => return .ok {}
  | some path =>
    return within s!"load rule catalog {path}" (← readDecoded files Catalog.ofText path)

/-- The reference data of a file, if there is one. -/
def openReferenceData (files : FileAccess m) (path : Option String) :
    m (Except FailureChain (Option ReferenceCodes)) := do
  match path with
  | none => return .ok none
  | some path =>
    let codes ← readDecoded files ReferenceCodes.ofText path
    return within s!"load reference data {path}" (codes.map some)

/-- The records of a file. -/
def openRecords (files : FileAccess m) (path : String) :
    m (Except FailureChain (List Json)) := do
  match ← files.read path with
  | .error fault => return .error [s!"read records from {path}", fault.message]
  | .ok text =>
    return within s!"parse records in {path}"
      ((readRecords text).mapError fun e => [e.description])

/-! ### Commands -/

/-- The report on the records of a file. -/
def validateFile (files : FileAccess m) (o : ValidateOptions) :
    m (Except FailureChain BatchReport) := ExceptT.run do
  let registry ← ExceptT.mk (openRegistry files o.directory)
  let package ← ExceptT.mk (pure
    (within s!"select package '{o.package}'"
      ((registry.find o.package).mapError fun e => [e.message])))
  let catalog ← ExceptT.mk (openCatalog files o.catalog)
  let codes ← ExceptT.mk (openReferenceData files o.referenceData)
  let records ← ExceptT.mk (openRecords files o.records)
  let engine : Engine :=
    { catalog, reference := codes.map (·.lookup), evaluator := .ofLimit o.maxDepth }
  ExceptT.mk (pure
    ((engine.validateAll package o.reportType records).mapError fun e => [e.message]))

/-- The outcome of a command that could not be carried out. -/
def Outcome.failed (chain : FailureChain) : Outcome :=
  { exitCode := 1, error := some chain.text }

/-- The outcome of a batch report. -/
def BatchReport.outcome (r : BatchReport) (format : OutputFormat) : Outcome where
  exitCode := if r.hasFailures then 1 else 0
  shown := match format with
    | .table => .blocks r.summary
    | .json => .json r.toJson

/-- Carry out a command. -/
def Command.run (files : FileAccess m) : Command → m Outcome
  | packages directory => do
    match ← openRegistry files directory with
    | .error chain => return .failed chain
    | .ok registry => return { exitCode := 0, shown := .blocks registry.summary }
  | validate options => do
    match ← validateFile files options with
    | .error chain => return .failed chain
    | .ok report => return report.outcome options.output

/-- Open the log, if one is wanted, and carry out the command. -/
def Invocation.run (files : FileAccess m) (i : Invocation) : m Outcome := do
  let opened ← match i.logFile with
    | none => pure (.ok ())
    | some path => files.openLog path
  match opened with
  | .error fault => return .failed ["failed to initialize logging", fault.message]
  | .ok () => i.command.run files

/-! ### The program -/

/-- The name and version of the program. -/
def programVersion : String := "regrep 0.1.0"

/-- How the program is used. -/
def usage : List String :=
  ["Validate regulatory report records against regulation packages", "",
    "Usage: regrep [OPTIONS] packages [--packages-dir DIR]",
    "       regrep [OPTIONS] validate RECORDS --package ID [--report-type CODE]",
    "              [--packages-dir DIR] [--catalog PATH] [--reference-data PATH]",
    "              [--max-depth N] [--output table|json]", "",
    "Options: [-v]... [-q]... [--color auto|always|never] [--log-level LEVEL]",
    "         [--log-format pretty|compact|json] [--log-file PATH] [-h] [-V]"]

/-- Run the program on its arguments. -/
def runProgram (files : FileAccess m) (args : List String) : m Outcome := do
  match Invocation.ofArguments args with
  | .ok i => i.run files
  | .error .help => return { exitCode := 0, shown := .blocks (usage.map .line) }
  | .error .version => return { exitCode := 0, shown := .blocks [.line programVersion] }
  | .error .misuse => return { exitCode := 2, error := some "invalid arguments; try --help" }

end RegulatoryReporting
