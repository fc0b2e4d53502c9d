import RegulatoryReporting.Json.Value

/-!
# JSON Text

A value is written without spaces, its members in the order of their keys. Strings escape
the quote, the backslash and the characters below the space, the usual ones by a letter
and the others by four hexadecimal digits; nothing else is escaped. The indented form
puts every item and member on a line of its own.
-/

namespace RegulatoryReporting

/-- The text of a number: an integer in decimal, a binary64 number in its shortest form. -/
def Number.text : Number → String
  | .int n => toString n
  | .float x => x.text

namespace Json

/-- One character of a string. -/
def escapeChar (c : Char) : List Char :=
  match c with
  | '"' => ['\\', '"']
  | '\\' => ['\\', '\\']
  | '\x08' => ['\\', 'b']
  | '\x0c' => ['\\', 'f']
  | '\n' => ['\\', 'n']
  | '\r' => ['\\', 'r']
  | '\t' => ['\\', 't']
  | c =>
    if c.toNat < 0x20 then
      ['\\', 'u', '0', '0', if c.toNat < 16 then '0' else '1', Nat.digitChar (c.toNat % 16)]
    else [c]

/-- A string between its quotes. -/
def quoteText (s : String) : String :=
  String.ofList ('"' :: s.toList.flatMap escapeChar ++ ['"'])

mutual

/-- The text of a value, without spaces. -/
def print : Json → String
  | null => "null"
  | bool true => "true"
  | bool false => "false"
  | num n => n.text
  | str s => quoteText s
  | arr [] => "[]"
  | arr (x :: xs) => "[" ++ print x ++ printItems xs ++ "]"
  | obj [] => "\x7b\x7d"
  | obj ((k, v) :: ms) =>
    "\x7b" ++ quoteText k ++ ":" ++ print v ++ printMembers ms ++ "\x7d"

/-- The further items of an array. -/
def printItems : List Json → String
  | [] => ""
  | x :: xs => "," ++ print x ++ printItems xs

/-- The further members of an object. -/
def printMembers : List (String × Json) → String
  | [] => ""
  | (k, v) :: ms => "," ++ quoteText k ++ ":" ++ print v ++ printMembers ms

end

/-- A line break and the indentation of a level. -/
def lineBreak (level : Nat) : String :=
  String.ofList ('\n' :: List.replicate (2 * level) ' ')

mutual

/-- The indented text of a value at a level. -/
def printIndented (level : Nat) : Json → String
  | arr (x :: xs) =>
    "[" ++ lineBreak (level + 1) ++ printIndented (level + 1) x ++
      printIndentedItems (level + 1) xs ++ lineBreak level ++ "]"
  | obj ((k, v) :: ms) =>
    "\x7b" ++ lineBreak (level + 1) ++ quoteText k ++ ": " ++ printIndented (level + 1) v ++
      printIndentedMembers (level + 1) ms ++ lineBreak level ++ "\x7d"
  | null => "null"
  | bool true => "true"
  | bool false => "false"
  | num n => n.text
  | str s => quoteText s
  | arr [] => "[]"
  | obj [] => "\x7b\x7d"

/-- The further items of an indented array. -/
def printIndentedItems (level : Nat) : List Json → String
  | [] => ""
  | x :: xs => "," ++ lineBreak level ++ printIndented level x ++ printIndentedItems level xs

/-- The further members of an indented object. -/
def printIndentedMembers (level : Nat) : List (String × Json) → String
  | [] => ""
  | (k, v) :: ms =>
    "," ++ lineBreak level ++ quoteText k ++ ": " ++ printIndented level v ++
      printIndentedMembers level ms

end

end Json

end RegulatoryReporting
