import RegulatoryReporting.Validator

/-!
# Keywords

Most rules are described in prose. The prose is searched for the phrases of a fixed table,
each of which stands for a validator; nothing is understood beyond that. A phrase is found
where it stands as whole words, in any case: no ASCII letter or digit touches it. The table
is ordered, so names of standards come before the names of the identifiers they describe.
-/

namespace RegulatoryReporting

/-- The phrases, in capitals, and their validators. -/
def keywords : List (String × Validator) :=
  [("MOD 97", .leiChecksum), ("MOD-97", .leiChecksum), ("ISO 17442", .leiChecksum),
    ("LUHN", .isinChecksum), ("ISO 6166", .isinChecksum), ("UTI", .utiFormat),
    ("UPI", .upiFormat), ("CFI", .cfiFormat), ("ISO 10962", .cfiFormat),
    ("ISO 4217", .isoCurrency), ("ISO 3166", .isoCountry), ("ISO 10383", .micFormat),
    ("LEI", .leiFormat), ("ISIN", .isinFormat), ("CURRENCY", .isoCurrency),
    ("COUNTRY", .isoCountry), ("MIC", .micFormat)]

/-! ### Whole words -/

/-- Whether a neighbour of a phrase belongs to a word with it. -/
def touches (neighbour : Option Char) : Bool := neighbour.any (·.isAlphanum)

/-- The neighbours of a phrase wherever it is found in a text whose preceding character is given.
The text is searched from its beginning, and what was found is not searched again: the first `taken`
characters belong to the phrase that was found last. -/
def neighbours (phrase : List Char) (taken : Nat) (before : Option Char) :
    List Char → List (Option Char × Option Char)
  | [] => if phrase.isEmpty then [(before, none)] else []
  | c :: cs =>
    match taken with
    | taken + 1 => neighbours phrase taken (some c) cs
    | 0 =>
      if phrase.isPrefixOf (c :: cs) then
        (before, ((c :: cs).drop phrase.length).head?) ::
          neighbours phrase (phrase.length - 1) (some c) cs
      else neighbours phrase 0 (some c) cs

/-- Whether a phrase in capitals is found in a text as whole words, in any case. -/
def mentions (text phrase : String) : Bool :=
  (neighbours phrase.toList 0 none (Text.toUpper text).toList).any fun (before, after) =>
    !touches before && !touches after

/-! ### Lookup -/

/-- The entries whose phrases stand in a text, in the order of the table. -/
def mentioned (text : String) : List (String × Validator) :=
  keywords.filter fun entry => mentions text entry.1

/-- The validator of the first phrase that stands in a text. -/
def keywordValidator? (text : String) : Option Validator :=
  (keywords.find? fun entry => mentions text entry.1).map (·.2)

/-- The register of the first phrase in a text whose validator consults one. -/
def keywordReference? (text : String) : Option ReferenceKind :=
  (mentioned text).findSome? fun entry => entry.2.referenceKind?

end RegulatoryReporting
