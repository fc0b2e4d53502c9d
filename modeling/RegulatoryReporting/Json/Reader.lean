import RegulatoryReporting.Json.Document

/-!
# Reading JSON Text

A text is read into a `Document`. The reader never fails: where the text stops being JSON
the document is `broken`, and nothing after that place is looked at. Containers may be
nested 127 deep; a deeper one is refused, yet still read to its end, because a decoder
may have no use for it.

The reader carries the rest of the text and a bound on the number of further steps. A
step consumes at least one character, so the length of the text is bound enough.
-/

namespace RegulatoryReporting.Document

/-- What was read, and the text after it, if the text is JSON so far. -/
structure Reading where
  /-- The document read. -/
  document : Document
  /-- The text after it; nothing follows a document that breaks off. -/
  rest : Option (List Char)

/-- The reading of a text that is not JSON. -/
def Reading.broken : Reading := ⟨.broken, none⟩

/-- The blanks that may stand between tokens. -/
def isGap (c : Char) : Bool := c == ' ' || c == '\n' || c == '\t' || c == '\r'

/-- The text after leading blanks. -/
def skipGap (cs : List Char) : List Char := cs.dropWhile isGap

/-! ### Strings -/

/-- The value of a hexadecimal digit. -/
def hexValue? (c : Char) : Option Nat :=
  if c.isDigit then some (c.toNat - 48)
  else if 'a' ≤ c ∧ c ≤ 'f' then some (c.toNat - 87)
  else if 'A' ≤ c ∧ c ≤ 'F' then some (c.toNat - 55)
  else none

/-- Four hexadecimal digits and the text after them. -/
def hexQuad? : List Char → Option (Nat × List Char)
  | a :: b :: c :: d :: rest => do
    let a ← hexValue? a
    let b ← hexValue? b
    let c ← hexValue? c
    let d ← hexValue? d
    return (((a * 16 + b) * 16 + c) * 16 + d, rest)
  | _ => none

/-- The character that a letter after a backslash stands for. -/
def escapedChar? : Char → Option Char
  | '"' => some '"'
  | '\\' => some '\\'
  | '/' => some '/'
  | 'b' => some '\x08'
  | 'f' => some '\x0c'
  | 'n' => some '\n'
  | 'r' => some '\r'
  | 't' => some '\t'
  | _ => none

/-- A character named by four digits, or by two quads that form a pair of surrogates. The
inner `none` is a quad that names no character. -/
def escapedUnit? (cs : List Char) : Option (Option Char × List Char) := do
  let (high, rest) ← hexQuad? cs
  if high < 0xD800 || 0xE000 ≤ high then return (some (Char.ofNat high), rest)
  else if 0xDC00 ≤ high then return (none, rest)
  else
    match rest with
    | '\\' :: 'u' :: more =>
      let (low, after) ← hexQuad? more
      if 0xDC00 ≤ low && low < 0xE000 then
        return (some (Char.ofNat (0x10000 + (high - 0xD800) * 0x400 + (low - 0xDC00))), after)
      else return (none, rest)
    | _ => return (none, rest)

/-- The characters of a string up to its closing quote, and the text after the quote.
`taken` holds the characters so far in reverse, or `none` once an escape named no
character. -/
def readString (taken : Option (List Char)) :
    Nat → List Char → Option (Option String × List Char)
  | 0, _ => none
  | _ + 1, [] => none
  | fuel + 1, c :: cs =>
    if c == '"' then some (taken.map fun r => String.ofList r.reverse, cs)
    else if c == '\\' then
      match cs with
      | [] => none
      | 'u' :: cs => do
        let (unit, rest) ← escapedUnit? cs
        readString (do let r ← taken; let u ← unit; return u :: r) fuel rest
      | e :: cs => do
        let x ← escapedChar? e
        readString (taken.map (x :: ·)) fuel cs
    else if c.toNat < 0x20 then none
    else readString (taken.map (c :: ·)) fuel cs

/-! ### Numbers -/

/-- The exponent after its letter. -/
def readExponent (cs : List Char) : Option (Int × List Char) :=
  let (negative, cs) := match cs with
    | '-' :: r => (true, r)
    | '+' :: r => (false, r)
    | r => (false, r)
  let (digits, rest) := spanDigits cs
  if digits.isEmpty then none
  else
    let n : Int := digitsValue digits
    some (if negative then -n else n, rest)

/-- A number without its sign, and the text after it. -/
def readLiteral? (negative : Bool) (cs : List Char) : Option (Literal × List Char) := do
  let (whole, cs) := spanDigits cs
  if whole.isEmpty || (whole.head? == some '0' && whole.length != 1) then none
  else
    let (fraction, cs) ← match cs with
      | '.' :: r =>
        let (digits, rest) := spanDigits r
        if digits.isEmpty then none else some (some digits, rest)
      | r => some (none, r)
    let (exponent, cs) ← match cs with
      | c :: r =>
        if c == 'e' || c == 'E' then (readExponent r).map fun (e, rest) => (some e, rest)
        else some (none, c :: r)
      | [] => some (none, [])
    return (⟨negative, whole, fraction, exponent⟩, cs)

/-- The reading of a number. -/
def readNumber (negative : Bool) (cs : List Char) : Reading :=
  match readLiteral? negative cs with
  | none => .broken
  | some (l, rest) => ⟨(l.number?.map .number).getD .refused, rest⟩

/-! ### Words -/

/-- The text after the given letters, if it starts with them. -/
def afterWord? (word : String) (cs : List Char) : Option (List Char) :=
  if word.toList.isPrefixOf cs then some (cs.drop word.length) else none

/-- The reading of one of the three words. -/
def readWord (word : String) (d : Document) (cs : List Char) : Reading :=
  match afterWord? word cs with
  | none => .broken
  | some rest => ⟨d, rest⟩

/-- The reading of a value that is no container, `c` being its first character. -/
def readScalar (c : Char) (rest : List Char) : Reading :=
  if c == '"' then
    match readString (some []) (rest.length + 1) rest with
    | none => .broken
    | some (s, rest) => ⟨(s.map .text).getD .refused, rest⟩
  else if c == 'n' then readWord "null" .null (c :: rest)
  else if c == 't' then readWord "true" (.bool true) (c :: rest)
  else if c == 'f' then readWord "false" (.bool false) (c :: rest)
  else if c == '-' then readNumber true rest
  else if c.isDigit then readNumber false (c :: rest)
  else .broken

/-! ### Skipping -/

/-- What may stand next in a text that is skipped. -/
inductive Expected
  | value
  /-- A key of an object and its colon. -/
  | key
  /-- A comma or the bracket that closes the innermost container. -/
  | separator

/-- The text after the containers that are open, innermost first (`true` for an object),
if it is well formed up to there. -/
def skipContainers? :
    Nat → List Bool → Expected → List Char → Option (List Char)
  | 0, _, _, _ => none
  | _ + 1, [], _, cs => some cs
  | fuel + 1, inObject :: outer, expected, cs =>
    match expected, skipGap cs with
    | .value, '[' :: rest =>
      match skipGap rest with
      | ']' :: rest => skipContainers? fuel (inObject :: outer) .separator rest
      | rest => skipContainers? fuel (false :: inObject :: outer) .value rest
    | .value, '\x7b' :: rest =>
      match skipGap rest with
      | '\x7d' :: rest => skipContainers? fuel (inObject :: outer) .separator rest
      | rest => skipContainers? fuel (true :: inObject :: outer) .key rest
    | .value, c :: rest => do
      let rest ← (readScalar c rest).rest
      skipContainers? fuel (inObject :: outer) .separator rest
    | .key, '"' :: rest => do
      let (_, rest) ← readString (some []) (rest.length + 1) rest
      match skipGap rest with
      | ':' :: rest => skipContainers? fuel (inObject :: outer) .value rest
      | _ => none
    | .separator, ',' :: rest =>
      skipContainers? fuel (inObject :: outer) (if inObject then .key else .value) rest
    | .separator, ']' :: rest =>
      if inObject then none else skipContainers? fuel outer .separator rest
    | .separator, '\x7d' :: rest =>
      if inObject then skipContainers? fuel outer .separator rest else none
    | _, _ => none

/-- The text after a container whose bracket was just passed. -/
def skipContainer? (inObject : Bool) (cs : List Char) : Option (List Char) :=
  match inObject, skipGap cs with
  | false, ']' :: rest => some rest
  | true, '\x7d' :: rest => some rest
  | _, rest =>
    skipContainers? (rest.length + 1) [inObject] (if inObject then .key else .value) rest

/-- What a container shows that is nested too deeply: it cannot be entered, but it can be
skipped if its text is well formed. -/
def refusedItems (rest : Option (List Char)) : List Document :=
  if rest.isSome then [.refused] else [.refused, .broken]

/-! ### Containers -/

mutual

/-- Read one value; `room` is how many containers may still be nested here. -/
def readValue (fuel room : Nat) (cs : List Char) : Reading :=
  match fuel with
  | 0 => .broken
  | fuel + 1 =>
    match skipGap cs with
    | [] => .broken
    | '[' :: rest =>
      match room with
      | 0 =>
        let after := skipContainer? false rest
        ⟨array (refusedItems after), after⟩
      | room + 1 =>
        match skipGap rest with
        | ']' :: after => ⟨array [], after⟩
        | rest =>
          let (items, after) := readItems fuel room rest
          ⟨array items, after⟩
    | '\x7b' :: rest =>
      match room with
      | 0 =>
        let after := skipContainer? true rest
        ⟨object ((refusedItems after).map fun d => (none, d)), after⟩
      | room + 1 =>
        match skipGap rest with
        | '\x7d' :: after => ⟨object [], after⟩
        | rest =>
          let (members, after) := readMembers fuel room rest
          ⟨object members, after⟩
    | c :: rest => readScalar c rest

/-- Read the items of an array after its bracket, of which there is at least one. -/
def readItems (fuel room : Nat) (cs : List Char) : List Document × Option (List Char) :=
  match fuel with
  | 0 => ([.broken], none)
  | fuel + 1 =>
    let r := readValue fuel room cs
    match r.rest with
    | none => ([r.document], none)
    | some rest =>
      match skipGap rest with
      | ']' :: after => ([r.document], after)
      | ',' :: after =>
        let (items, rest) := readItems fuel room after
        (r.document :: items, rest)
      | _ => ([r.document, .broken], none)

/-- Read the members of an object after its brace, of which there is at least one. -/
def readMembers (fuel room : Nat) (cs : List Char) :
    List (Option String × Document) × Option (List Char) :=
  match fuel with
  | 0 => ([(none, .broken)], none)
  | fuel + 1 =>
    match skipGap cs with
    | '"' :: rest =>
      match readString (some []) (rest.length + 1) rest with
      | none => ([(none, .broken)], none)
      | some (key, rest) =>
        match skipGap rest with
        | ':' :: rest =>
          let r := readValue fuel room rest
          match r.rest with
          | none => ([(key, r.document)], none)
          | some rest =>
            match skipGap rest with
            | '\x7d' :: after => ([(key, r.document)], after)
            | ',' :: after =>
              let (members, rest) := readMembers fuel room after
              ((key, r.document) :: members, rest)
            | _ => ([(key, r.document), (none, .broken)], none)
        | _ => ([(key, .broken)], none)
    | cs => ([(none, .misplaced (readValue fuel room cs).document)], none)

end

/-- How many containers may be nested in one another. -/
def maxNesting : Nat := 127

/-- The document of a text, and whether nothing but blanks follows it. -/
def ofText (s : String) : Document × Bool :=
  let cs := s.toList
  let r := readValue (cs.length + 1) maxNesting cs
  (r.document, match r.rest with
    | none => false
    | some rest => (skipGap rest).isEmpty)

end RegulatoryReporting.Document
