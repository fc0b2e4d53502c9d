/-!
# Access to Files

Files are reached through a small set of operations in some monad, so what a program does
with files is defined for real ones and for a tree in memory alike.
-/

namespace RegulatoryReporting

/-- Why a file or directory cannot be used. -/
inductive FileFault
  | notFound
  | isDirectory
  | notDirectory
  /-- A name in the path, or the whole path, is too long for the system. -/
  | nameTooLong
  /-- The bytes of the file are not UTF-8. -/
  | notText
  /-- Another cause, described by the system. -/
  | other (message : String)
  deriving DecidableEq, Repr

/-- The message for a file that cannot be used. -/
def FileFault.message : FileFault → String
  | notFound => "No such file or directory (os error 2)"
  | isDirectory => "Is a directory (os error 21)"
  | notDirectory => "Not a directory (os error 20)"
  | nameTooLong => "File name too long (os error 36)"
  | notText => "stream did not contain valid UTF-8"
  | other message => message

/-- What can be done with files. -/
structure FileAccess (m : Type → Type) where
  /-- The text of a file. -/
  read : String → m (Except FileFault String)
  /-- The names of the files, not the directories, in a directory. -/
  fileNames : String → m (Except FileFault (List String))
  /-- Open a file for appending, which creates it if it is missing. -/
  openLog : String → m (Except FileFault Unit)

/-- The path of an entry of a directory. -/
def entryPath (directory name : String) : String :=
  if directory.toList.getLast? == some '/' then directory ++ name
  else directory ++ "/" ++ name

/-- What follows the last dot of a file name; a name whose only dot is the first character
has no extension. -/
def extension? (name : String) : Option String :=
  let reversed := name.toList.reverse
  match reversed.dropWhile (· != '.') with
  | [] | [_] => none
  | _ => some (String.ofList (reversed.takeWhile (· != '.')).reverse)

end RegulatoryReporting
