import RegulatoryReporting.Unicode.Property
import RegulatoryReporting.Unicode.ScriptTable

/-!
# Break Properties

The part that a character plays when text is cut into what a reader takes for one
character, into words, or into sentences. The values follow from other properties, up to
short lists. Characters that play no part have the value Other, which cannot be asked for.
-/

namespace RegulatoryReporting.Unicode

open Text

/-- What combines with the character before it, spacing or not. -/
def combining : CharSet := graphemeExtend.union (inCategories ["Mc"])

/-- Hangul syllables without a final consonant. -/
def openSyllables : CharSet :=
  .ofBoundaries ((List.range 399).flatMap fun i => [0xAC00 + 28 * i, 0xAC01 + 28 * i])

/-- Marks that take a place of their own and are not read as part of the character before
them. -/
def detachedMarks : CharSet :=
  listed ["102B-102C 1038 1062-1064 1067-106D 1083 1087-108C 108F 109A-109C 1A61",
    "1A63-1A64 AA7B AA7D 11720-11721"]

/-- What a character does where a text is cut into characters as a reader sees them. -/
def graphemeBreak? (loose : String) : Option CharSet :=
  match loose with
  | "cr" => some (listed ["D"])
  | "lf" => some (listed ["A"])
  | "cn" | "control" =>
    some ((((inCategories ["Zl", "Zp", "Cc", "Cf"]).union
      (unassigned.inter (withProperty "DI"))).diff graphemeExtend).diff
        ((withProperty "PCM").union (listed ["A D 200D"])))
  | "ex" | "extend" => some (graphemeExtend.union (withProperty "EMod"))
  | "zwj" => some (listed ["200D"])
  | "ri" | "regionalindicator" => some (withProperty "RI")
  | "pp" | "prepend" =>
    some ((withProperty "PCM").union
      (listed ["D4E 111C2-111C3 113D1 1193F 11941 11A3A 11A84-11A89 11D46 11F02"]))
  | "sm" | "spacingmark" =>
    some (((inCategories ["Mc"]).diff graphemeExtend).diff detachedMarks |>.union
      (listed ["E33 EB3"]))
  | "l" => some (listed ["1100-115F A960-A97C"])
  | "v" => some (listed ["1160-11A7 D7B0-D7C6 16D63 16D67-16D6A"])
  | "t" => some (listed ["11A8-11FF D7CB-D7FB"])
  | "lv" => some openSyllables
  | "lvt" => some ((listed ["AC00-D7A3"]).diff openSyllables)
  | _ => none

/-- Letters of Katakana and what is written with them. -/
def katakanaWords : CharSet :=
  (membersOf scripts ["Kana"]).union (listed ["3031-3035 309B-309C 30A0 30FC FF70"])

/-- Letters of Hebrew. -/
def hebrewLetters : CharSet := (membersOf scripts ["Hebr"]).inter (inCategories ["Lo"])

/-- Letters of scripts that do not separate words by spaces. -/
def unspacedLetters : CharSet :=
  (membersOf scripts ["Hira"]).union
    (listed ["E01-E30 E32-E33 E40-E46 E81-E82 E84 E86-E8A E8C-EA3 EA5 EA7-EB0 EB2-EB3",
      "EBD EC0-EC4 EC6 EDC-EDF 1000-102A 103F 1050-1055 105A-105D 1061 1065-1066",
      "106E-1070 1075-1081 108E 1780-17B3 17D7 17DC 1950-196D 1970-1974 1980-19AB",
      "19B0-19C9 1A20-1A54 1AA7 A9E0-A9E4 A9E6-A9EF A9FA-A9FE AA60-AA76 AA7A AA7E-AAAF",
      "AAB1 AAB5-AAB6 AAB9-AABD AAC0 AAC2 AADB-AADD 11700-1171A 11740-11746"])

/-- Letters that words are made of. -/
def wordLetters : CharSet :=
  let excluded := [withProperty "Ideo", katakanaWords, hebrewLetters, combining,
    unspacedLetters]
  (alphabetic.diff (.unionAll excluded)).union
    (listed ["2C2-2C5 2D2-2D7 2DE-2DF 2E5-2EB 2ED 2EF-2FF 55A-55C 55E 58A 5F3 A708-A716",
      "A720-A721 A789-A78A AB5B"])

/-- What a character does where a text is cut into words. -/
def wordBreak? (loose : String) : Option CharSet :=
  match loose with
  | "cr" => some (listed ["D"])
  | "lf" => some (listed ["A"])
  | "nl" | "newline" => some (listed ["B-C 85 2028-2029"])
  | "dq" | "doublequote" => some (listed ["22"])
  | "sq" | "singlequote" => some (listed ["27"])
  | "extend" => some (combining.union (withProperty "EMod"))
  | "fo" | "format" => some (((inCategories ["Cf"]).diff combining).diff
      (listed ["200B-200D"]))
  | "hl" | "hebrewletter" => some hebrewLetters
  | "ka" | "katakana" => some katakanaWords
  | "le" | "aletter" => some wordLetters
  | "mb" | "midnumlet" => some (listed ["2E 2018-2019 2024 FE52 FF07 FF0E"])
  | "ml" | "midletter" => some (listed ["3A B7 387 55F 5F4 2027 FE13 FE55 FF1A"])
  | "mn" | "midnum" =>
    some (listed ["2C 3B 37E 589 60C-60D 66C 7F8 2044 FE10 FE14 FE50 FE54 FF0C FF1B"])
  | "nu" | "numeric" => some (decimalDigits.union (listed ["66B"]))
  | "ex" | "extendnumlet" => some ((inCategories ["Pc"]).union (listed ["202F"]))
  | "ri" | "regionalindicator" => some (withProperty "RI")
  | "wsegspace" => some (listed ["20 1680 2000-2006 2008-200A 205F 3000"])
  | "zwj" => some (listed ["200D"])
  | _ => none

/-- Points that may end a sentence or not. -/
def sentencePoints : CharSet := listed ["2E 2024 FE52 FF0E"]

/-- Marks that end a sentence. -/
def sentenceEnds : CharSet := (withProperty "STerm").diff sentencePoints

/-- What extends a character within a sentence. -/
def sentenceExtend : CharSet := combining.union (listed ["200D"])

/-- Small letters within a sentence. -/
def sentenceLower : CharSet :=
  (lowercase.diff graphemeExtend).diff (listed ["10D0-10FA 10FD-10FF"])

/-- Capital letters within a sentence. -/
def sentenceUpper : CharSet :=
  (uppercase.union (inCategories ["Lt"])).diff (listed ["1C90-1CBA 1CBD-1CBF"])

/-- What a character does where a text is cut into sentences. -/
def sentenceBreak? (loose : String) : Option CharSet :=
  match loose with
  | "cr" => some (listed ["D"])
  | "lf" => some (listed ["A"])
  | "ex" | "extend" => some sentenceExtend
  | "se" | "sep" => some (listed ["85 2028-2029"])
  | "fo" | "format" => some ((inCategories ["Cf"]).diff sentenceExtend)
  | "sp" => some (whiteSpace.diff (listed ["A D 85 2028-2029"]))
  | "lo" | "lower" => some sentenceLower
  | "up" | "upper" => some sentenceUpper
  | "le" | "oletter" =>
    some ((alphabetic.union (listed ["5F3"])).diff
      (.unionAll [sentenceLower, sentenceUpper, sentenceExtend]))
  | "nu" | "numeric" => some (decimalDigits.union (listed ["66B-66C"]))
  | "at" | "aterm" => some sentencePoints
  | "sc" | "scontinue" =>
    some (listed ["2C-2D 3A 55D 60C-60D 7F8 1802 1808 2013-2014 3001 FE10-FE11 FE13",
      "FE31-FE32 FE50-FE51 FE55 FE58 FE63 FF0C-FF0D FF1A FF64"])
  | "st" | "sterm" => some sentenceEnds
  | "cl" | "close" =>
    some (((inCategories ["Ps", "Pe", "Pi", "Pf"]).union
      (listed ["22 27 275B-2760 2E00-2E01 2E06-2E08 2E0B 1F676-1F678"])).diff
        (sentencePoints.union sentenceEnds))
  | _ => none

end RegulatoryReporting.Unicode
