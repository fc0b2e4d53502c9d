import RegulatoryReporting.CommandLine.Layout

/-!
# The Program

Runs the program on the arguments of the process, with the files of the system.
-/

namespace RegulatoryReporting

/-- What an error of the system says about a file. -/
def faultOf : IO.Error → FileFault
  | .noFileOrDirectory .. => .notFound
  | .noSuchThing .. => .notFound
  | .inappropriateType .. => .notDirectory
  | .invalidArgument (some _) 36 _ => .nameTooLong
  | e => .other (toString e)

/-- Do something with a file, or say why that is impossible. -/
def attempt (action : IO α) : IO (Except FileFault α) := do
  match ← action.toBaseIO with
  | .ok a => return .ok a
  | .error e => return .error (faultOf e)

/-- The text of a file of the system. -/
def readSystemFile (path : String) : IO (Except FileFault String) := do
  if ← (System.mkFilePath [path]).isDir then return .error .isDirectory
  match ← attempt (IO.FS.readBinFile path) with
  | .error fault => return .error fault
  | .ok bytes =>
    match String.fromUTF8? bytes with
    | some text => return .ok text
    | none => return .error .notText

/-- The names of the files in a directory of the system. -/
def systemFileNames (path : String) : IO (Except FileFault (List String)) :=
  attempt do
    let entries ← (System.mkFilePath [path]).readDir
    let files ← entries.toList.filterM fun entry => return !(← entry.path.isDir)
    return files.map (·.fileName)

/-- Open a file of the system for appending. -/
def openSystemLog (path : String) : IO (Except FileFault Unit) := do
  if ← (System.mkFilePath [path]).isDir then return .error .isDirectory
  attempt (IO.FS.withFile path .append fun _ => return ())

/-- Access to the files of the system. -/
def systemFiles : FileAccess IO where
  read := readSystemFile
  fileNames := systemFileNames
  openLog := openSystemLog

end RegulatoryReporting

open RegulatoryReporting in
/-- Run the program on the arguments of the process. -/
def main (args : List String) : IO UInt32 := do
  let outcome ← runProgram systemFiles args
  for line in outcome.shown.lines do
    IO.println line
  if let some message := outcome.error then
    IO.eprintln s!"error: {message}"
  return UInt32.ofNat outcome.exitCode
