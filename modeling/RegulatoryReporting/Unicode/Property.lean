import RegulatoryReporting.Unicode.Category
import RegulatoryReporting.Unicode.PropertyTable

/-!
# Properties

The properties that a character has or lacks: those of the table, and those that are
derived from them and from the general category.
-/

namespace RegulatoryReporting.Unicode

open Text

/-- The characters with a listed property, given by its short name. -/
def withProperty (shortName : String) : CharSet := membersOf listedProperties [shortName]

/-! ### Derived properties -/

/-- Small letters and what is used like them. -/
def lowercase : CharSet := (inCategories ["Ll"]).union (withProperty "OLower")

/-- Capital letters and what is used like them. -/
def uppercase : CharSet := (inCategories ["Lu"]).union (withProperty "OUpper")

/-- What has case. -/
def cased : CharSet := (lowercase.union uppercase).union (inCategories ["Lt"])

/-- What is passed over when one looks for the letter before or after. -/
def caseIgnorable : CharSet :=
  (inCategories ["Mn", "Me", "Cf", "Lm", "Sk"]).union
    (listed ["27 2E 3A B7 387 55F 5F4 2018-2019 2024 2027 FE13 FE52 FE55 FF07 FF0E FF1A"])

/-- Letters and what is used like them. -/
def alphabetic : CharSet :=
  ((lowercase.union uppercase).union (inCategories ["Lt", "Lm", "Lo", "Nl"])).union
    (withProperty "OAlpha")

/-- Symbols of mathematics and what is used like them. -/
def math : CharSet := (inCategories ["Sm"]).union (withProperty "OMath")

/-- What changes with one of the three mappings of case. -/
def changesWhenCasemapped : CharSet :=
  ((withProperty "CWL").union (withProperty "CWU")).union (withProperty "CWT")

/-- What extends the character before it. -/
def graphemeExtend : CharSet :=
  (inCategories ["Mn", "Me"]).union (withProperty "OGr_Ext")

/-- What can stand alone: all that is assigned and visible and extends nothing. -/
def graphemeBase : CharSet :=
  (unassigned.union (inCategories ["Cc", "Cf", "Co", "Zl", "Zp"])).compl.diff
    graphemeExtend

/-- What is part of the syntax of patterns, as punctuation or as white space. -/
def patternSyntax : CharSet := (withProperty "Pat_Syn").union (withProperty "Pat_WS")

/-- What may begin an identifier. -/
def idStart : CharSet :=
  ((inCategories ["Lu", "Ll", "Lt", "Lm", "Lo", "Nl"]).union
    (withProperty "OIDS")).diff patternSyntax

/-- What may stand in an identifier. -/
def idContinue : CharSet :=
  ((idStart.union (inCategories ["Mn", "Mc", "Nd", "Pc"])).union
    (withProperty "OIDC")).diff patternSyntax

/-- What may not stand in an identifier because its compatibility form may not. -/
def compatibilityExceptions : CharSet :=
  listed ["37A 309B-309C FC5E-FC63 FDFA-FDFB FE70-FE7E:2"]

/-- What may stand in an identifier whose compatibility form is one. -/
def xidContinue : CharSet := idContinue.diff compatibilityExceptions

/-- What may begin an identifier whose compatibility form is one. -/
def xidStart : CharSet :=
  (idStart.diff compatibilityExceptions).diff (listed ["E33 EB3 FF9E-FF9F"])

/-- The derived properties under their short and long names. -/
def derivedProperties : List (List String × (Unit → CharSet)) :=
  [(["Alpha", "Alphabetic"], fun _ => alphabetic),
   (["Cased"], fun _ => cased),
   (["CI", "Case_Ignorable"], fun _ => caseIgnorable),
   (["CWCM", "Changes_When_Casemapped"], fun _ => changesWhenCasemapped),
   (["Gr_Base", "Grapheme_Base"], fun _ => graphemeBase),
   (["Gr_Ext", "Grapheme_Extend"], fun _ => graphemeExtend),
   (["IDC", "ID_Continue"], fun _ => idContinue),
   (["IDS", "ID_Start"], fun _ => idStart),
   (["Lower", "Lowercase"], fun _ => lowercase),
   (["Math"], fun _ => math),
   (["Upper", "Uppercase"], fun _ => uppercase),
   (["XIDC", "XID_Continue"], fun _ => xidContinue),
   (["XIDS", "XID_Start"], fun _ => xidStart)]

/-- The characters that have a property. -/
def property? (loose : String) : Option CharSet :=
  match find? listedProperties loose with
  | some e => some e.members
  | none =>
    (derivedProperties.find? fun p => p.1.any fun name => looseName name == loose).map
      fun p => p.2 ()

/-! ### The sets that have letters of their own in patterns -/

/-- Decimal digits. -/
def decimalDigits : CharSet := inCategories ["Nd"]

/-- White space. -/
def whiteSpace : CharSet := withProperty "WSpace"

/-- Characters of words: letters, marks, digits, what connects words, what joins letters. -/
def wordCharacters : CharSet :=
  (alphabetic.union (inCategories ["Mn", "Mc", "Me", "Nd", "Pc"])).union
    (withProperty "Join_C")

end RegulatoryReporting.Unicode
