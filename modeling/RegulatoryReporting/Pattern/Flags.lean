/-!
# Flags

A pattern can change how the rest of a group is understood: whether case is ignored,
whether the anchors look at lines, whether a point takes a line break, and so on. A change
names each flag at most once, by a letter; a minus sign turns the flags after it off.
-/

namespace RegulatoryReporting

/-- What a flag letter speaks of. -/
inductive PatternFlag
  /-- `i`: letters match in either case. -/
  | ignoreCase
  /-- `m`: the anchors hold at the ends of lines. -/
  | multiLine
  /-- `s`: a point matches a line break as well. -/
  | pointTakesBreak
  /-- `U`: repetitions prefer fewer rounds. -/
  | swapGreed
  /-- `u`: sets and boundaries follow Unicode. -/
  | unicode
  /-- `R`: a carriage return ends a line as well. -/
  | crlf
  /-- `x`: white space and comments in the pattern mean nothing. -/
  | verbose
  deriving DecidableEq, Repr

/-- The flag that a letter names. -/
def PatternFlag.ofLetter? : Char → Option PatternFlag
  | 'i' => some ignoreCase
  | 'm' => some multiLine
  | 's' => some pointTakesBreak
  | 'U' => some swapGreed
  | 'u' => some unicode
  | 'R' => some crlf
  | 'x' => some verbose
  | _ => none

/-- Flags that are turned on or off, in the order in which they are written. -/
abbrev FlagChange := List (PatternFlag × Bool)

namespace FlagChange

/-- Read letters up to a colon or a closing parenthesis, which is left in the rest.
`seen` are the flags so far, `on` is false after a minus sign, and `dangling` tells that
no letter has followed it yet. -/
def read (seen : FlagChange) (on dangling : Bool) :
    List Char → Option (FlagChange × List Char)
  | [] => none
  | c :: cs =>
    if c == ':' || c == ')' then if dangling then none else some (seen, c :: cs)
    else if c == '-' then if on then read seen false true cs else none
    else
      match PatternFlag.ofLetter? c with
      | none => none
      | some flag =>
        if (seen.lookup flag).isSome then none
        else read (seen ++ [(flag, on)]) on false cs

/-- The change that begins a text, and the text from the sign that ends it. -/
def ofText? (cs : List Char) : Option (FlagChange × List Char) := read [] true false cs

/-- What a flag is after a change. -/
def apply (change : FlagChange) (flag : PatternFlag) (before : Bool) : Bool :=
  (change.lookup flag).getD before

end FlagChange

/-- How a pattern is understood, apart from the flag that only its reader needs. -/
structure PatternFlags where
  /-- Letters match in either case. -/
  ignoreCase : Bool := false
  /-- The anchors hold at the ends of lines. -/
  multiLine : Bool := false
  /-- A point matches a line break as well. -/
  pointTakesBreak : Bool := false
  /-- Repetitions prefer fewer rounds, and those marked otherwise prefer more. -/
  swapGreed : Bool := false
  /-- Sets and boundaries follow Unicode. -/
  unicode : Bool := true
  /-- A carriage return ends a line as well. -/
  crlf : Bool := false
  deriving DecidableEq, Repr

/-- The flags after a change. -/
def PatternFlags.after (f : PatternFlags) (change : FlagChange) : PatternFlags where
  ignoreCase := change.apply .ignoreCase f.ignoreCase
  multiLine := change.apply .multiLine f.multiLine
  pointTakesBreak := change.apply .pointTakesBreak f.pointTakesBreak
  swapGreed := change.apply .swapGreed f.swapGreed
  unicode := change.apply .unicode f.unicode
  crlf := change.apply .crlf f.crlf

end RegulatoryReporting
