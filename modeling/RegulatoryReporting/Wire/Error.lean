import RegulatoryReporting.Condition.Error
import RegulatoryReporting.Text.PropertyTable

/-!
# Decoding Errors

Why a document does not decode. A text that is not JSON, or that stands for no value where
one is wanted, is `malformed`; every other cause is a well-formed document of the wrong
shape and has a message.

A message quotes a text between double quotes. Quotes and backslashes are escaped, and
so is every character that would not be seen: the usual controls by their letters, the
others as `\u` with the code point in braces.
-/

namespace RegulatoryReporting

/-- Why a document does not decode. -/
inductive DecodeError
  /-- The text is not JSON, or a part of it that is needed stands for no value. -/
  | malformed
  /-- A value of another type stands where one was expected. -/
  | invalidType (found expected : String)
  /-- A value of the right type is out of place. -/
  | invalidValue (found expected : String)
  /-- An array has too few or too many items. -/
  | invalidLength (length : Nat) (expected : String)
  /-- A required member is missing. -/
  | missingField (name : String)
  /-- A member occurs twice. -/
  | duplicateField (name : String)
  /-- A text is none of the names that were expected. -/
  | unknownVariant (found : String) (expected : List String)
  /-- A node is no condition. -/
  | condition (cause : ConditionError)
  deriving DecidableEq, Repr

/-- The given names as alternatives. -/
def alternatives : List String → String
  | [a] => s!"`{a}`"
  | [a, b] => s!"`{a}` or `{b}`"
  | names => "one of " ++ String.intercalate ", " (names.map fun a => s!"`{a}`")

/-- The message for a document of the wrong shape; text that is not JSON has none. -/
def DecodeError.message? : DecodeError → Option String
  | malformed => none
  | invalidType found expected => some s!"invalid type: {found}, expected {expected}"
  | invalidValue found expected => some s!"invalid value: {found}, expected {expected}"
  | invalidLength n expected => some s!"invalid length {n}, expected {expected}"
  | missingField name => some s!"missing field `{name}`"
  | duplicateField name => some s!"duplicate field `{name}`"
  | unknownVariant found expected =>
    some s!"unknown variant `{found}`, expected {alternatives expected}"
  | condition cause => some cause.message

/-! ### Quoted text -/

namespace Text

/-- The digits of a number in base sixteen, in small letters. -/
def hexDigits (n : Nat) : List Char :=
  Nat.toDigits 16 n

/-- One character of a quoted text. -/
def quoteChar (c : Char) : List Char :=
  match c with
  | '\x00' => ['\\', '0']
  | '\t' => ['\\', 't']
  | '\n' => ['\\', 'n']
  | '\r' => ['\\', 'r']
  | '"' => ['\\', '"']
  | '\\' => ['\\', '\\']
  | c =>
    if hidden.contains c then
      ['\\', 'u', '\x7b'] ++ hexDigits c.toNat ++ ['\x7d']
    else [c]

/-- The text between double quotes, with every character visible. -/
def quoted (s : String) : String :=
  String.ofList ('"' :: s.toList.flatMap quoteChar ++ ['"'])

end Text

end RegulatoryReporting
