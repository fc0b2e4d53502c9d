import RegulatoryReporting.Unicode.AgeTable
import RegulatoryReporting.Unicode.Break
import RegulatoryReporting.Unicode.ScriptExtensionTable

/-!
# Asking for Characters by Property

A set of characters is asked for by one name, which may be that of a property, of a
general category or of a script, or by the name of a property and that of a value.

A character belongs to one script, and it may be used in others: one with an entry among the
extensions is used in the scripts named there and in no other, any other character in the
script it belongs to.
-/

namespace RegulatoryReporting.Unicode

open Text

/-! ### Scripts -/

/-- The characters that belong to a script. -/
def script? (loose : String) : Option CharSet := (find? scripts loose).map Entry.members

/-- The characters that have an entry among the extensions. -/
def extendedCharacters : CharSet := .unionAll (scriptExtensions.map Entry.members)

/-- The characters that are used in a script. -/
def usedInScript? (loose : String) : Option CharSet :=
  (find? scripts loose).map fun e =>
    let used := scriptExtensions.filter fun x => e.names.head?.any x.names.contains
    (e.members.diff extendedCharacters).union (.unionAll (used.map Entry.members))

/-! ### Queries -/

/-- What was designated in a version or before it; the table has the oldest first. -/
def designatedBy? (loose : String) : Option CharSet :=
  match find? ages loose with
  | none => none
  | some e =>
    let older := ages.takeWhile fun a => a.names != e.names
    some (.unionAll ((older ++ [e]).map Entry.members))

/-- The three names that are those of a category although a property has them as well. -/
def categoryFirst (loose : String) : Bool := ["cf", "sc", "lc"].contains loose

/-- The characters that one name asks for. -/
def named? (name : String) : Option CharSet :=
  let loose := looseName name
  (if categoryFirst loose then none else property? loose)
    <|> category? loose
    <|> script? loose

/-- The characters that have a value of a property. -/
def valued? (property value : String) : Option CharSet :=
  let loose := looseName value
  match looseName property with
  | "gc" | "generalcategory" => category? loose
  | "sc" | "script" => script? loose
  | "scx" | "scriptextensions" => usedInScript? loose
  | "age" => designatedBy? loose
  | "gcb" | "graphemeclusterbreak" => graphemeBreak? loose
  | "wb" | "wordbreak" => wordBreak? loose
  | "sb" | "sentencebreak" => sentenceBreak? loose
  | _ => none

end RegulatoryReporting.Unicode
