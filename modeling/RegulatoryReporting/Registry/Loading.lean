import RegulatoryReporting.Files.Access
import RegulatoryReporting.Registry.Basic
import RegulatoryReporting.Registry.Bundled.Emir
import RegulatoryReporting.Registry.Bundled.Mifir

/-!
# Loading Packages

A package is read from a text that has an origin, and is verified at once. A directory is
loaded file by file in the order of the names of its package files, which have the
extension `json` in any case; the first file that cannot be loaded ends the loading. The
bundled packages are there without being loaded.
-/

namespace RegulatoryReporting

/-- Why packages cannot be loaded. -/
inductive LoadError
  /-- A file or directory cannot be read. -/
  | unreadable (path : String) (cause : FileFault)
  /-- A text is no package. -/
  | undecodable (origin : String) (cause : DecodeError)
  /-- A package is not accepted, or cannot be added to the others. -/
  | rejected (cause : RegistryError)
  deriving DecidableEq, Repr

/-- The package of a text. -/
def Package.load (text origin : String) : Except LoadError Package :=
  match Package.decoder.ofText text with
  | .error e => .error (.undecodable origin e)
  | .ok p =>
    match p.verify with
    | .error e => .error (.rejected (.invalid e))
    | .ok () => .ok p

/-- Whether the name of a file is that of a package file. -/
def isPackageFile (name : String) : Bool :=
  (extension? name).any fun extension => Text.asciiCaseEq extension "json"

/-- The names of package files among others, in the order in which they are loaded. -/
def packageFiles (names : List String) : List String :=
  (names.filter isPackageFile).mergeSort fun a b => a ≤ b

/-! ### Bundled packages -/

/-- The bundled packages in order. -/
def Bundled.packages : List Package := [Bundled.Emir.package, Bundled.Mifir.package]

/-- The registry of the bundled packages. -/
def Registry.bundled : Except RegistryError Registry :=
  Registry.ofPackages Bundled.packages

/-! ### Directories -/

variable {m : Type → Type} [Monad m]

/-- The packages of the given files of a directory. -/
def loadFiles (files : FileAccess m) (directory : String) :
    List String → m (Except LoadError (List Package))
  | [] => return .ok []
  | name :: rest => do
    let path := entryPath directory name
    match ← files.read path with
    | .error fault => return .error (.unreadable path fault)
    | .ok text =>
      match Package.load text path with
      | .error e => return .error e
      | .ok p => return (← loadFiles files directory rest).map (p :: ·)

/-- The packages of a directory. -/
def loadDirectory (files : FileAccess m) (directory : String) :
    m (Except LoadError (List Package)) := do
  match ← files.fileNames directory with
  | .error fault => return .error (.unreadable directory fault)
  | .ok names => loadFiles files directory (packageFiles names)

/-- The registry of the packages of a directory. -/
def Registry.ofDirectory (files : FileAccess m) (directory : String) :
    m (Except LoadError Registry) := do
  match ← loadDirectory files directory with
  | .error e => return .error e
  | .ok packages => return (Registry.ofPackages packages).mapError .rejected

end RegulatoryReporting
