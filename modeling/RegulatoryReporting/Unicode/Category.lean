import RegulatoryReporting.Unicode.CategoryTable
import RegulatoryReporting.Unicode.Table

/-!
# General Categories

The categories that the table lists, the unassigned characters, and the groups of
categories that have a name of their own.
-/

namespace RegulatoryReporting.Unicode

open Text

/-- The characters of the categories with the given short names. -/
def inCategories (shortNames : List String) : CharSet := membersOf categories shortNames

/-- The characters that no category of the table has. -/
def unassigned : CharSet := (CharSet.unionAll (categories.map Entry.members)).compl

/-- The groups of categories: their names, and the short names of their members. -/
def categoryGroups : List (List String × List String) :=
  [(["L", "Letter"], ["Lu", "Ll", "Lt", "Lm", "Lo"]),
   (["LC", "Cased_Letter"], ["Lu", "Ll", "Lt"]),
   (["M", "Mark", "Combining_Mark"], ["Mn", "Mc", "Me"]),
   (["N", "Number"], ["Nd", "Nl", "No"]),
   (["P", "Punctuation", "punct"], ["Pc", "Pd", "Ps", "Pe", "Pi", "Pf", "Po"]),
   (["S", "Symbol"], ["Sm", "Sc", "Sk", "So"]),
   (["Z", "Separator"], ["Zs", "Zl", "Zp"])]

/-- The characters of a category, of a group of them, or of one of the three sets that
are asked for like a category. -/
def category? (loose : String) : Option CharSet :=
  match loose with
  | "any" => some .all
  | "ascii" => some (.interval 0 0x7F)
  | "assigned" => some unassigned.compl
  | "cn" | "unassigned" => some unassigned
  | "c" | "other" => some (unassigned.union (inCategories ["Cc", "Cf", "Co"]))
  | _ =>
    match find? categories loose with
    | some e => some e.members
    | none =>
      (categoryGroups.find? fun g => g.1.any fun name => looseName name == loose).map
        fun g => inCategories g.2

end RegulatoryReporting.Unicode
