import RegulatoryReporting.Files.Access

/-!
# Files in Memory

A tree of files, each at the place to which names lead. A directory exists because it was
made, or because a file is in it. A path is followed name by name from the directory in
which the program works, and every place at which it goes on has to be a directory; so
reading goes wrong in the way in which it does on disk.

Two dots at the beginning of a place lead out of the working directory, and a stroke as its
first name stands for the root of all files. Nothing is known to be there but directories.
-/

namespace RegulatoryReporting

/-- Files and directories in memory. -/
structure FileTree where
  /-- Files with the names that lead to them. -/
  files : List (List String × ByteArray) := []
  /-- Directories that were made. -/
  directories : List (List String) := []

namespace FileTree

/-! ### Places -/

/-- The names in a path, some of which may be empty. -/
def names (path : String) : List String := path.splitOn "/"

/-- Whether nothing but the working directory and those around it is at a place. -/
def leadsOut (place : List String) : Bool := place.all (· == "..")

/-- The root of all files. -/
def root : List String := ["/"]

/-- Where a path begins. -/
def origin (path : String) : List String :=
  if path.toList.head? == some '/' then root else []

/-- The directory around a directory; the root is around itself. -/
def around (place : List String) : List String :=
  if leadsOut place then place ++ [".."]
  else if place == root then root
  else place.dropLast

/-- Whether there is a directory at a place. -/
def isDirectory (t : FileTree) (place : List String) : Bool :=
  leadsOut place || place == root || t.directories.any (place.isPrefixOf ·) ||
    t.files.any fun f => f.1 != place && place.isPrefixOf f.1

/-- The bytes of the file at a place. -/
def file? (t : FileTree) (place : List String) : Option ByteArray := t.files.lookup place

/-- The greatest number of bytes in a name. -/
def maxNameLength : Nat := 255

/-- The greatest number of bytes in a path. -/
def maxPathLength : Nat := 4095

/-- Why a place is no directory: there is a file, or nothing. -/
def obstacle (t : FileTree) (place : List String) : FileFault :=
  if (t.file? place).isSome then .notDirectory else .notFound

/-- Go on from a place by one name. An empty name and a single dot stay there. -/
def step (t : FileTree) (place : List String) (name : String) :
    Except FileFault (List String) :=
  if !t.isDirectory place then .error (t.obstacle place)
  else if name == "" || name == "." then .ok place
  else if name == ".." then .ok (around place)
  else if maxNameLength < name.utf8ByteSize then .error .nameTooLong
  else .ok (place ++ [name])

/-- The place to which names lead from a place. Nothing needs to be there. -/
def follow (t : FileTree) (place : List String) : List String → Except FileFault (List String)
  | [] => .ok place
  | name :: rest =>
    match t.step place name with
    | .error fault => .error fault
    | .ok place => t.follow place rest

/-- The place to which a path leads. The empty path leads nowhere. -/
def locate (t : FileTree) (path : String) : Except FileFault (List String) :=
  if path.isEmpty then .error .notFound
  else if maxPathLength < path.utf8ByteSize then .error .nameTooLong
  else t.follow (origin path) (names path)

/-! ### Building a tree -/

/-- The place that a path names without leading back. -/
def placeOf (path : String) : List String :=
  origin path ++ (names path).filter fun name => name != "" && name != "."

/-- The tree with one more file. -/
def withFile (t : FileTree) (path : String) (bytes : ByteArray) : FileTree :=
  { t with files := t.files ++ [(placeOf path, bytes)] }

/-- The tree with one more directory. -/
def withDirectory (t : FileTree) (path : String) : FileTree :=
  { t with directories := t.directories ++ [placeOf path] }

/-! ### Use -/

/-- The text of a file. -/
def read (t : FileTree) (path : String) : Except FileFault String := do
  let place ← t.locate path
  match t.file? place with
  | some bytes =>
    match String.fromUTF8? bytes with
    | some text => .ok text
    | none => .error .notText
  | none => .error (if t.isDirectory place then .isDirectory else .notFound)

/-- The names of the files in a directory. -/
def fileNames (t : FileTree) (path : String) : Except FileFault (List String) := do
  let place ← t.locate path
  if t.isDirectory place then
    return t.files.filterMap fun f =>
      if f.1.dropLast == place then f.1.getLast? else none
  else .error (t.obstacle place)

/-- The path to the directory that holds what a path names. Strokes at the end belong to the
last name. -/
def parentNames (path : String) : List String :=
  ((names path).reverse.dropWhile (·.isEmpty)).tail.reverse

/-- Open a file for appending: the tree afterwards, or why that is impossible. A path that
ends in a stroke can only be that of a directory, even if nothing is there. -/
def openLog (t : FileTree) (path : String) : Except FileFault FileTree := do
  if path.toList.getLast? == some '/' && path.utf8ByteSize ≤ maxPathLength then
    let _ ← t.follow (origin path) (parentNames path ++ [""])
    throw .isDirectory
  let place ← t.locate path
  if t.isDirectory place then .error .isDirectory
  else if (t.file? place).isSome then return t
  else return { t with files := t.files ++ [(place, ByteArray.empty)] }

/-- Access to the files of a tree. -/
def access : FileAccess (StateM FileTree) where
  read path t := (t.read path, t)
  fileNames path t := (t.fileNames path, t)
  openLog path t :=
    match t.openLog path with
    | .ok t' => (.ok (), t')
    | .error fault => (.error fault, t)

end FileTree

end RegulatoryReporting
