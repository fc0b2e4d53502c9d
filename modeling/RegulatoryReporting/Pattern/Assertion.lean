import RegulatoryReporting.Text.CharSet

/-!
# Assertions

An assertion is a property of the place between two characters of a text. Where it speaks
of words, it says which characters are those of words.
-/

namespace RegulatoryReporting

open Text

/-- A property of the place between two characters. -/
inductive Assertion
  /-- The beginning of the text. -/
  | textStart
  /-- The end of the text. -/
  | textEnd
  /-- The beginning of a line; a line may also end in a carriage return if `crlf` is set. -/
  | lineStart (crlf : Bool)
  /-- The end of a line. -/
  | lineEnd (crlf : Bool)
  /-- A word ends or begins. -/
  | boundary (letters : CharSet)
  /-- No word ends or begins. -/
  | noBoundary (letters : CharSet)
  /-- A word begins. -/
  | wordStart (letters : CharSet)
  /-- A word ends. -/
  | wordEnd (letters : CharSet)
  /-- No character of a word stands before. -/
  | wordStartHalf (letters : CharSet)
  /-- No character of a word stands after. -/
  | wordEndHalf (letters : CharSet)
  deriving DecidableEq, Repr

namespace Assertion

/-- Whether a character is there and in the set. -/
def stands (letters : CharSet) (c : Option Char) : Bool := c.any letters.contains

/-- Whether the property holds between the given neighbours. -/
def holds : Assertion → Option Char → Option Char → Bool
  | textStart, before, _ => before.isNone
  | textEnd, _, after => after.isNone
  | lineStart crlf, before, after =>
    before.isNone || before == some '\n' ||
      (crlf && before == some '\r' && after != some '\n')
  | lineEnd crlf, before, after =>
    if crlf then
      after.isNone || after == some '\r' || (after == some '\n' && before != some '\r')
    else after.isNone || after == some '\n'
  | boundary w, before, after => stands w before != stands w after
  | noBoundary w, before, after => stands w before == stands w after
  | wordStart w, before, after => !stands w before && stands w after
  | wordEnd w, before, after => stands w before && !stands w after
  | wordStartHalf w, before, _ => !stands w before
  | wordEndHalf w, _, after => !stands w after

end Assertion

end RegulatoryReporting
