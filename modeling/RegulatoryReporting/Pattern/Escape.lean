import RegulatoryReporting.Json.Reader
import RegulatoryReporting.Pattern.Expression
import RegulatoryReporting.Pattern.Spacing

/-!
# Escapes

What a backslash and the characters after it say: a character, a set or an anchor. A
character with a meaning in patterns stands for itself, as does any other character of
ASCII that is no letter, no digit and no angle bracket. References to groups do not exist,
so a digit after a backslash is no escape.
-/

namespace RegulatoryReporting.Pattern

/-! ### Characters by number -/

/-- The character of a code point, if it is one. -/
def charOfCode? (n : Nat) : Option Char :=
  if n < 0xD800 || (0xE000 ≤ n && n < 0x110000) then some (Char.ofNat n) else none

/-- The number that digits in base sixteen write. -/
def hexNumber? (cs : List Char) : Option Nat :=
  cs.foldlM (fun n c => (Document.hexValue? c).map fun d => 16 * n + d) 0

/-- A fixed number of digits in base sixteen, and the text after them. -/
def readDigits? (verbose : Bool) : Nat → List Char → Option (List Char × List Char)
  | 0, cs => some ([], cs)
  | _ + 1, [] => none
  | width + 1, c :: cs =>
    (readDigits? verbose width (skip verbose cs)).map fun (digits, rest) =>
      (c :: digits, rest)

/-- The character that `letter` and a code point after it write: the digits of the code
point stand in braces, or there are `width` of them. -/
def readCode? (verbose : Bool) (letter : Char) (width : Nat) (cs : List Char) :
    Option (WrittenChar × List Char) := do
  match skip verbose cs with
  | '\x7b' :: cs =>
    let (digits, rest) ← bracedText? verbose false cs
    if digits.isEmpty then none
    return (⟨← charOfCode? (← hexNumber? digits), false⟩, rest)
  | cs =>
    let (digits, rest) ← readDigits? verbose width cs
    return (⟨← charOfCode? (← hexNumber? digits), letter == 'x'⟩, rest)

/-- Whether a character of ASCII stands for itself after a backslash. -/
def standsForItself (c : Char) : Bool :=
  c.toNat < 128 && !c.isAlphanum && c != '<' && c != '>'

/-- The control character that a letter stands for. -/
def controlChar? : Char → Option Char
  | 'a' => some '\x07'
  | 'f' => some '\x0c'
  | 't' => some '\t'
  | 'n' => some '\n'
  | 'r' => some '\r'
  | 'v' => some '\x0b'
  | _ => none

/-! ### Sets -/

/-- The set that a letter stands for, and whether its complement is meant. -/
def letterClass? : Char → Option (LetterClass × Bool)
  | 'd' => some (.digit, false)
  | 's' => some (.space, false)
  | 'w' => some (.word, false)
  | 'D' => some (.digit, true)
  | 'S' => some (.space, true)
  | 'W' => some (.word, true)
  | _ => none

/-- The parts of a text before and after the first place where a sign stands. -/
def splitAt? (sign : List Char) : List Char → Option (List Char × List Char)
  | [] => none
  | c :: cs =>
    if sign.isPrefixOf (c :: cs) then some ([], (c :: cs).drop sign.length)
    else (splitAt? sign cs).map fun (before, after) => (c :: before, after)

/-- What a text in braces asks for. The property and its value are separated by a colon or
an equals sign; an exclamation mark before the equals sign changes nothing. -/
def PropertyQuery.ofText (text : List Char) : PropertyQuery :=
  match splitAt? ['!', '='] text <|> splitAt? [':'] text <|> splitAt? ['='] text with
  | some (property, value) => .valued (String.ofList property) (String.ofList value)
  | none => .named (String.ofList text)

/-- A property in braces, or with a name of one letter. -/
def readProperty? (verbose : Bool) (cs : List Char) : Option (PropertyQuery × List Char) :=
  match skip verbose cs with
  | [] => none
  | '\x7b' :: cs =>
    (bracedText? verbose false cs).map fun (text, rest) => (PropertyQuery.ofText text, rest)
  | '\\' :: _ => none
  | c :: cs => some (.named c.toString, cs)

/-! ### Anchors -/

/-- The anchor that a letter stands for. -/
def anchor? : Char → Option Anchor
  | 'A' => some .textStart
  | 'z' => some .textEnd
  | 'B' => some .noBoundary
  | '<' => some .wordStart
  | '>' => some .wordEnd
  | _ => none

/-- The boundary that a name in braces stands for. -/
def namedBoundary? (name : List Char) : Option Anchor :=
  match String.ofList name with
  | "start" => some .wordStart
  | "end" => some .wordEnd
  | "start-half" => some .wordStartHalf
  | "end-half" => some .wordEndHalf
  | _ => none

/-- Whether a character may stand in the name of a boundary. -/
def isBoundaryLetter (c : Char) : Bool := c.isAlpha || c == '-'

/-- A word boundary, whose kind may be named in braces. Braces that do not begin with a
letter are left for a repetition. -/
def readBoundary? (verbose : Bool) (cs : List Char) : Option (Anchor × List Char) :=
  match cs with
  | '\x7b' :: rest =>
    match skip verbose rest with
    | [] => none
    | c :: rest =>
      if isBoundaryLetter c then
        match spacedWhile isBoundaryLetter verbose (c :: rest) with
        | (name, '\x7d' :: rest) => (namedBoundary? name).map fun a => (a, rest)
        | _ => none
      else some (.boundary, cs)
  | _ => some (.boundary, cs)

/-! ### Escapes -/

/-- What is written after a backslash, and the text after that. -/
def readEscape? (verbose : Bool) : List Char → Option (Expression × List Char)
  | [] => none
  | 'x' :: cs => (readCode? verbose 'x' 2 cs).map fun (c, rest) => (.literal c, rest)
  | 'u' :: cs => (readCode? verbose 'u' 4 cs).map fun (c, rest) => (.literal c, rest)
  | 'U' :: cs => (readCode? verbose 'U' 8 cs).map fun (c, rest) => (.literal c, rest)
  | 'p' :: cs => (readProperty? verbose cs).map fun (q, rest) => (.property q false, rest)
  | 'P' :: cs => (readProperty? verbose cs).map fun (q, rest) => (.property q true, rest)
  | 'b' :: cs => (readBoundary? verbose cs).map fun (a, rest) => (.anchor a, rest)
  | c :: cs =>
    if standsForItself c then some (.literal ⟨c, false⟩, cs)
    else
      ((controlChar? c).map fun control => (.literal ⟨control, false⟩, cs))
        <|> ((letterClass? c).map fun (set, negated) => (.letters set negated, cs))
        <|> ((anchor? c).map fun a => (.anchor a, cs))

end RegulatoryReporting.Pattern
