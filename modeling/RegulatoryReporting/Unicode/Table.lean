import RegulatoryReporting.Text.CharSet

/-!
# Tables of Sets

A table lists sets of characters under the names that they have. A listing is read only
when its set is asked for.

Names of properties and of their values are compared loosely: capitals and small letters
are the same, spaces, hyphens and underscores are not looked at, and the two letters `is`
at the beginning may be left out. Characters beyond ASCII are not looked at either.
-/

namespace RegulatoryReporting.Unicode

open Text

/-- A set of characters under its names. -/
structure Entry where
  /-- The names, the short one first. -/
  names : List String
  /-- The listing of the set. -/
  listing : List String

/-- The members of the set. -/
def Entry.members (e : Entry) : CharSet := listed e.listing

/-- The members of the entries that have one of the given short names. -/
def membersOf (table : List Entry) (shortNames : List String) : CharSet :=
  .unionAll ((table.filter fun e => e.names.head?.any shortNames.contains).map
    Entry.members)

/-! ### Loose names -/

/-- Whether a character of a name is looked at. -/
def isSignificant (c : Char) : Bool :=
  c.toNat < 0x80 && c != ' ' && c != '_' && c != '-'

/-- The letters by which a name is found. A name that consists of the prefix `is` and the
letter `c` keeps the prefix: it abbreviates ISO comments and not the category of controls
and other characters. -/
def looseLetters (name : List Char) : List Char :=
  let letters (cs : List Char) := (cs.filter isSignificant).map Char.toLower
  match name with
  | i :: s :: rest =>
    if i.toLower == 'i' && s.toLower == 's' then
      if letters rest == ['c'] then ['i', 's', 'c'] else letters rest
    else letters name
  | _ => letters name

/-- The text by which a name is found. -/
def looseName (name : String) : String := String.ofList (looseLetters name.toList)

/-- The entry that has a name, the name being loose already. -/
def find? (table : List Entry) (loose : String) : Option Entry :=
  table.find? fun e => e.names.any fun name => looseName name == loose

end RegulatoryReporting.Unicode
