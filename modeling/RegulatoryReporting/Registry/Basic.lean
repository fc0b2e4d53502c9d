import RegulatoryReporting.Package.Verification

/-!
# Registries of Packages

A registry holds verified packages with different ids. Ids and regulation codes are
compared without the blanks around them and without case. A key names a package by its id,
or by its regulation code if exactly one package has that.

The packages are kept in the order in which they were loaded, next to an index that tells
at which places of the list an id or a regulation code stands. The index grows package by
package; each package is verified before it is entered.
-/

namespace RegulatoryReporting

/-- Why packages do not make a registry. -/
inductive RegistryError
  /-- A package is not accepted. -/
  | invalid (cause : VerificationError)
  /-- Two packages have the same id. -/
  | duplicate (packageId : String)
  deriving DecidableEq, Repr

/-- The message for packages that do not make a registry. -/
def RegistryError.message : RegistryError → String
  | invalid cause => cause.message
  | duplicate packageId => s!"Duplicate package id '{packageId}'"

/-- A key that names no package. -/
structure PackageNotFound where
  /-- The key. -/
  key : String
  deriving DecidableEq, Repr

/-- The message for a key that names no package. -/
def PackageNotFound.message (e : PackageNotFound) : String := s!"Package not found: {e.key}"

/-- The id of a package as registries compare it. -/
def Package.idKey (p : Package) : String := Text.normalizeCode p.id

/-- The regulation code of a package as registries compare it. -/
def Package.codeKey (p : Package) : String := Text.normalizeCode p.regulationCode

/-! ### The index -/

/-- Where packages stand in a list. -/
structure PackageIndex where
  /-- The place of the package of each id. -/
  ids : List (String × Nat) := []
  /-- The places of the packages of each regulation code, in ascending order. -/
  codes : List (String × List Nat) := []
  deriving Repr

namespace PackageIndex

/-- The place of the package of a normalised id. -/
def placeOf? (index : PackageIndex) (id : String) : Option Nat := index.ids.lookup id

/-- The places of the packages of a normalised regulation code. -/
def placesOf (index : PackageIndex) (code : String) : List Nat :=
  (index.codes.lookup code).getD []

/-- The index with one more package, which stands at the given place. -/
def insert (index : PackageIndex) (place : Nat) (p : Package) : PackageIndex where
  ids := Ordered.insertEntry p.idKey place index.ids
  codes := Ordered.insertEntry p.codeKey (index.placesOf p.codeKey ++ [place]) index.codes

/-- Verify a package and enter it into the index, unless its id is there already. -/
def add (index : PackageIndex) (place : Nat) (p : Package) :
    Except RegistryError PackageIndex :=
  match p.verify with
  | .error e => .error (.invalid e)
  | .ok () =>
    if (index.placeOf? p.idKey).isSome then .error (.duplicate p.id)
    else .ok (index.insert place p)

/-- Enter packages one after the other, the first at the given place. The first that cannot
be entered ends it. -/
def addAll (index : PackageIndex) : Nat → List Package → Except RegistryError PackageIndex
  | _, [] => .ok index
  | place, p :: rest => do
    let index ← index.add place p
    index.addAll (place + 1) rest

end PackageIndex

/-! ### Registries -/

/-- Packages that can be looked up. -/
structure Registry where
  /-- The packages in the order in which they were loaded. -/
  packages : List Package
  /-- Where they stand. -/
  index : PackageIndex
  deriving Repr

namespace Registry

/-- The registry of packages, or what is wrong with the first that cannot be added. -/
def ofPackages (packages : List Package) : Except RegistryError Registry :=
  (PackageIndex.addAll {} 0 packages).map fun index => ⟨packages, index⟩

/-- The number of packages. -/
def size (r : Registry) : Nat := r.packages.length

/-- Whether there is no package. -/
def isEmpty (r : Registry) : Bool := r.packages.isEmpty

/-- The ids of the packages in order. -/
def ids (r : Registry) : List String := r.packages.map (·.id)

/-- The package of an id. -/
def get? (r : Registry) (id : String) : Option Package :=
  (r.index.placeOf? (Text.normalizeCode id)).bind fun place => r.packages[place]?

/-- The packages of a regulation in order. -/
def ofRegulation (r : Registry) (code : String) : List Package :=
  (r.index.placesOf (Text.normalizeCode code)).filterMap fun place => r.packages[place]?

/-- The package that a key names: the one of this id, else the only one of this
regulation. -/
def find (r : Registry) (key : String) : Except PackageNotFound Package :=
  match r.get? key with
  | some p => .ok p
  | none =>
    match r.ofRegulation key with
    | [only] => .ok only
    | _ => .error ⟨key⟩

end Registry

end RegulatoryReporting
