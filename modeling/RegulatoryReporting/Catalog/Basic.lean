import RegulatoryReporting.Catalog.Keyword
import RegulatoryReporting.Package.Rule

/-!
# Rule Catalogues

A package describes its rules mostly in prose. A catalogue adds what is needed to check
them: the validators of a format rule, the allowed values of a value list rule, the
register of a reference rule, and code for an assertion. Where the catalogue has no entry
for a format or reference rule, the keywords in the prose of the rule decide.
-/

namespace RegulatoryReporting

/-- What code that checks an assertion answers. -/
structure RuleOutcome where
  /-- Whether the assertion holds. -/
  passed : Bool
  /-- What was found. -/
  message : String
  /-- The path of the record that the outcome points at. -/
  path : Option String := none
  deriving DecidableEq, Repr

/-- Code that checks the assertion of a rule on a record. -/
abbrev RuleHandler := Rule → Json → RuleOutcome

/-- What is known about rules beside their package, by the id of the rule. -/
structure Catalog where
  /-- The validators of format rules. -/
  validators : List (String × List Validator) := []
  /-- The allowed values of value list rules. -/
  valueLists : List (String × List String) := []
  /-- The registers of reference rules. -/
  registers : List (String × ReferenceKind) := []
  /-- Code for assertions. -/
  handlers : List (String × RuleHandler) := []

namespace Catalog

instance : Inhabited Catalog := ⟨{}⟩

/-! ### Entries -/

/-- Set the validators of a format rule. -/
def withValidators (c : Catalog) (id : String) (vs : List Validator) : Catalog :=
  { c with validators := Ordered.insertEntry id vs c.validators }

/-- Set the allowed values of a value list rule. -/
def withValueList (c : Catalog) (id : String) (values : List String) : Catalog :=
  { c with valueLists := Ordered.insertEntry id values c.valueLists }

/-- Set the register of a reference rule. -/
def withRegister (c : Catalog) (id : String) (kind : ReferenceKind) : Catalog :=
  { c with registers := Ordered.insertEntry id kind c.registers }

/-- Set the code for an assertion. -/
def withHandler (c : Catalog) (id : String) (handler : RuleHandler) : Catalog :=
  { c with handlers := Ordered.insertEntry id handler c.handlers }

/-! ### Questions -/

/-- The validators of a format rule: those of its entry, else that of the first keyword in
its prose. -/
def validatorsFor (c : Catalog) (r : Rule) : List Validator :=
  match c.validators.lookup r.id with
  | some vs => vs
  | none => (keywordValidator? r.descriptiveText).toList

/-- The allowed values of a value list rule, if it has an entry. -/
def valueList? (c : Catalog) (id : String) : Option (List String) := c.valueLists.lookup id

/-- The register of a reference rule: that of its entry, else that of the first keyword in
its prose that has one. -/
def registerFor? (c : Catalog) (r : Rule) : Option ReferenceKind :=
  (c.registers.lookup r.id).or (keywordReference? r.descriptiveText)

/-- The code for an assertion, if there is any. -/
def handler? (c : Catalog) (id : String) : Option RuleHandler := c.handlers.lookup id

/-! ### Wire form -/

/-- What was read of a catalogue. -/
structure Draft where
  /-- Validators. -/
  validators : Option (List (String × List Validator)) := none
  /-- Allowed values. -/
  valueLists : Option (List (String × List String)) := none
  /-- Registers. -/
  registers : Option (List (String × ReferenceKind)) := none

open Decoder in
/-- The members of a catalogue. -/
def slots : List (Slot Draft) :=
  [slot "format_validators" false (table (list (name Validator.wireNames))) (·.validators)
     fun s a => { s with validators := some a },
   slot "enum_values" false (table (list string)) (·.valueLists)
     fun s a => { s with valueLists := some a },
   slot "referential_kinds" false (table (name ReferenceKind.wireNames)) (·.registers)
     fun s a => { s with registers := some a }]

/-- The catalogue once its members were read. -/
def Draft.finish (s : Draft) : Except DecodeError Catalog :=
  .ok {
    validators := s.validators.getD []
    valueLists := s.valueLists.getD []
    registers := s.registers.getD [] }

/-- The decoder of catalogues. -/
def decoder : Decoder Catalog := Decoder.structured "RuleCatalog" slots {} Draft.finish

/-- Read a catalogue from a text. -/
def ofText (s : String) : Except DecodeError Catalog := decoder.ofText s

/-- The wire form of a catalogue, without its code. -/
def toJson (c : Catalog) : Json :=
  .obj [("enum_values", .obj (c.valueLists.map fun e => (e.1, .ofStrings e.2))),
    ("format_validators",
      .obj (c.validators.map fun e => (e.1, .ofStrings (e.2.map (·.key))))),
    ("referential_kinds", .obj (c.registers.map fun e => (e.1, .str e.2.name)))]

end Catalog

end RegulatoryReporting
