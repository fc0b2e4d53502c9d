import RegulatoryReporting.Text.WhiteSpace

/-!
# White Space and Comments in Patterns

In a verbose pattern white space means nothing, and neither does what follows a number
sign up to the end of the line. Each reader says where it skips them, since they may stand
between most signs but not within all of them.

## Main results

* `length_skip_le` — skipping does not lengthen what is left to read.
-/

namespace RegulatoryReporting.Pattern

/-- The text without leading white space and comments; `inComment` tells that the text
begins within a comment. -/
def dropSpacing (inComment : Bool) : List Char → List Char
  | [] => []
  | c :: cs =>
    if inComment then dropSpacing (c != '\n') cs
    else if Text.isWhiteSpace c then dropSpacing false cs
    else if c == '#' then dropSpacing true cs
    else c :: cs

/-- The text without leading white space and comments, if the pattern is verbose. -/
def skip (verbose : Bool) (cs : List Char) : List Char :=
  if verbose then dropSpacing false cs else cs

theorem length_dropSpacing_le (inComment : Bool) (cs : List Char) :
    (dropSpacing inComment cs).length ≤ cs.length := by
  induction cs generalizing inComment with
  | nil => exact Nat.le_refl _
  | cons c cs ih =>
    unfold dropSpacing
    split
    · exact Nat.le_succ_of_le (ih _)
    · split
      · exact Nat.le_succ_of_le (ih _)
      · split
        · exact Nat.le_succ_of_le (ih _)
        · exact Nat.le_refl _

/-- Skipping does not lengthen what is left to read. -/
theorem length_skip_le (verbose : Bool) (cs : List Char) :
    (skip verbose cs).length ≤ cs.length := by
  unfold skip
  split
  · exact length_dropSpacing_le false cs
  · exact Nat.le_refl _

/-- The longest run of characters with a property, what is skipped after each left out,
and the text after it. -/
def spacedWhile (p : Char → Bool) (verbose : Bool) : List Char → List Char × List Char
  | [] => ([], [])
  | c :: cs =>
    if p c then
      let (run, rest) := spacedWhile p verbose (skip verbose cs)
      (c :: run, rest)
    else ([], c :: cs)
termination_by cs => cs.length
decreasing_by
  have := length_skip_le verbose cs
  simp only [List.length_cons]
  omega

/-- The characters up to a closing brace without what is skipped between them, and the text
after the brace. -/
def bracedText? (verbose inComment : Bool) : List Char → Option (List Char × List Char)
  | [] => none
  | c :: cs =>
    if inComment then bracedText? verbose (c != '\n') cs
    else if verbose && Text.isWhiteSpace c then bracedText? verbose false cs
    else if verbose && c == '#' then bracedText? verbose true cs
    else if c == '\x7d' then some ([], cs)
    else (bracedText? verbose false cs).map fun (text, rest) => (c :: text, rest)

/-- The character that comes next, white space and the sign of a comment left aside. The
text of the comment itself is not passed over, and where nothing else is left the very
next character counts. -/
def peek? (verbose : Bool) (cs : List Char) : Option Char :=
  let next :=
    if verbose then
      match cs.dropWhile Text.isWhiteSpace with
      | '#' :: more => (more.dropWhile Text.isWhiteSpace).head?
      | more => more.head?
    else none
  next <|> cs.head?

end RegulatoryReporting.Pattern
