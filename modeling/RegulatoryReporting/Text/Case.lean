import RegulatoryReporting.Text.CaseTable
import RegulatoryReporting.Text.PropertyTable
import RegulatoryReporting.Text.WhiteSpace

/-!
# Letter Case

Names and codes are compared in one case. The maps are the full ones of the Unicode
standard: a character may become several (`ß` becomes `SS`), characters outside ASCII
may enter it (`ı` becomes `I`), and the Greek capital sigma becomes the final small
sigma at the end of a word. Report type codes alone are compared without case in ASCII
only (`asciiCaseEq`).

The names of operators, severities, validators and the like are read from text in small
letters. A text that names none of them is reported with the kind of name that was wanted.

## Main results

* `normalizeCode_eq_empty_iff` — only blank codes are empty in capitals.
-/

namespace RegulatoryReporting

namespace Text

/-- The capital form of a character. -/
def upperChar (c : Char) : List Char :=
  if c.toNat < 128 then [c.toUpper]
  else
    match upperExpansions.lookup c.toNat with
    | some ns => ns.map Char.ofNat
    | none => [((upperRuns.findSome? (·.image? c.toNat)).map Char.ofNat).getD c]

/-- The text in capitals. -/
def toUpper (s : String) : String :=
  String.ofList (s.toList.flatMap upperChar)

/-- The small form of a character that stands alone. -/
def lowerChar (c : Char) : List Char :=
  if c.toNat < 128 then [c.toLower]
  else
    match lowerExpansions.lookup c.toNat with
    | some ns => ns.map Char.ofNat
    | none => [((lowerRuns.findSome? (·.image? c.toNat)).map Char.ofNat).getD c]

/-- Whether the first character that is not case-ignorable has case. -/
def meetsCased (cs : List Char) : Bool :=
  match cs.dropWhile (caseIgnorable.contains) with
  | [] => false
  | c :: _ => cased.contains c

/-- The small forms of the characters, `before` holding those already passed, nearest
first. A capital sigma that ends a word becomes the final sigma. -/
def lowerFrom (before : List Char) : List Char → List Char
  | [] => []
  | c :: cs =>
    let small :=
      if c == 'Σ' then [if meetsCased before && !meetsCased cs then 'ς' else 'σ']
      else lowerChar c
    small ++ lowerFrom (c :: before) cs

/-- The text in small letters. -/
def toLower (s : String) : String :=
  String.ofList (lowerFrom [] s.toList)

/-- Equality of codes that differ at most in the case of ASCII letters. -/
def asciiCaseEq (s t : String) : Bool :=
  s.toList.map Char.toLower == t.toList.map Char.toLower

/-- Codes are compared after trimming and in capitals. -/
def normalizeCode (s : String) : String :=
  toUpper (trim s)

/-- Names are read after trimming and in small letters. -/
def normalizeName (s : String) : String :=
  toLower (trim s)

/-- No character vanishes in capitals. -/
theorem upperChar_ne_nil (c : Char) : upperChar c ≠ [] := by
  rw [upperChar]
  split
  · exact List.cons_ne_nil _ _
  · split
    next ns hns =>
      obtain ⟨before, after, htable, -⟩ := List.lookup_eq_some_iff.1 hns
      have hall : ∀ entry ∈ upperExpansions, entry.2 ≠ [] := by decide
      have hmem : (c.toNat, ns) ∈ upperExpansions := by
        rw [htable]
        exact List.mem_append_right _ List.mem_cons_self
      simpa using hall _ hmem
    next => exact List.cons_ne_nil _ _

/-- A code is empty, normalised, exactly if it is blank. -/
theorem normalizeCode_eq_empty_iff {s : String} : normalizeCode s = "" ↔ isBlank s = true := by
  rw [normalizeCode, toUpper, trim, String.toList_ofList, ← String.ofList_nil, String.ofList_inj,
    List.flatMap_eq_nil_iff, isBlank, List.all_eq_true, ← trimList_eq_nil_iff,
    List.eq_nil_iff_forall_not_mem]
  constructor
  · intro hnone c hc
    exact upperChar_ne_nil c (hnone c hc)
  · intro hempty c hc
    exact absurd hc (hempty c)

end Text

/-! ### Names of a kind -/

/-- A text that is not one of the names of a kind. -/
structure UnknownName where
  /-- What was to be named. -/
  kind : String
  /-- The text, normalised as names of this kind are. -/
  value : String
  deriving DecidableEq, Repr

/-- The message for a text that names nothing. -/
def UnknownName.message (e : UnknownName) : String :=
  s!"unknown {e.kind} '{e.value}'"

/-- Look a normalised text up among the names of a kind. -/
def lookupName (kind : String) (names : List (String × α)) (value : String) :
    Except UnknownName α :=
  match names.lookup value with
  | some a => .ok a
  | none => .error ⟨kind, value⟩

end RegulatoryReporting
