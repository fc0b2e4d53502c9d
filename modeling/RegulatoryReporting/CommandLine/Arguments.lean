/-!
# Command-Line Arguments

Arguments are read against a grammar: the options of a command, what may follow it, and
the commands below it. An option has a long name and may have a short one; it is counted,
or takes one value, as the next argument or after an equals sign. A value given on its own
must not look like an option. After two hyphens everything is positional. Reading ends at
the name of a command below, whose arguments follow a grammar of their own.
-/

namespace RegulatoryReporting

/-- How an option is used. -/
inductive OptionUse
  /-- It has no value and may be repeated. -/
  | counted
  /-- It has one value, which must be accepted, and is given once. -/
  | valued (accepts : String → Bool)
  /-- It asks for help. -/
  | help
  /-- It asks for the version. -/
  | version

/-- An option of a command. -/
structure OptionSpec where
  /-- The name after two hyphens. -/
  long : String
  /-- The letter after one hyphen. -/
  short : Option Char
  /-- How it is used. -/
  use : OptionUse

/-- What may follow a command. -/
structure ArgumentGrammar where
  /-- The options. -/
  options : List OptionSpec
  /-- Which values the positional arguments may have. -/
  positionals : List (String → Bool)
  /-- The commands below. -/
  commands : List String

/-- Why reading arguments ends without a command to run. -/
inductive ArgumentStop
  | help
  | version
  /-- The arguments do not follow the grammar. -/
  | misuse
  deriving DecidableEq, Repr

/-- The arguments that were read. -/
structure Arguments where
  /-- The names of the counted options, once for each occurrence. -/
  counted : List String := []
  /-- The values of options by name. -/
  values : List (String × String) := []
  /-- The positional arguments. -/
  positionals : List String := []
  /-- The command below and what follows it. -/
  command : Option (String × List String) := none
  deriving DecidableEq, Repr

namespace Arguments

/-- How often an option occurs. -/
def count (a : Arguments) (name : String) : Nat := a.counted.count name

/-- The value of an option. -/
def value? (a : Arguments) (name : String) : Option String := a.values.lookup name

/-- The arguments with one more value, unless the option has one already or the value is
not accepted. -/
def withValue (a : Arguments) (name value : String) (accepts : String → Bool) :
    Except ArgumentStop Arguments :=
  if (a.value? name).isNone && accepts value then
    .ok { a with values := a.values ++ [(name, value)] }
  else .error .misuse

/-- The arguments with one more positional argument, if the grammar has room for it. -/
def withPositional (a : Arguments) (g : ArgumentGrammar) (value : String) :
    Except ArgumentStop Arguments :=
  if (g.positionals[a.positionals.length]?).any fun accepts => accepts value then
    .ok { a with positionals := a.positionals ++ [value] }
  else .error .misuse

end Arguments

/-- Whether an argument looks like an option. -/
def looksLikeOption (arg : String) : Bool :=
  match arg.toList with
  | '-' :: _ :: _ => true
  | _ => false

/-- The name in an argument and the value after the equals sign. -/
def splitAtEquals (cs : List Char) : String × Option String :=
  let name := String.ofList (cs.takeWhile (· != '='))
  match cs.dropWhile (· != '=') with
  | [] => (name, none)
  | _ :: value => (name, some (String.ofList value))

/-- What the next argument is taken for. -/
inductive ArgumentPosition
  /-- An option, a command or a positional argument. -/
  | free
  /-- The value of an option. -/
  | valueOf (name : String) (accepts : String → Bool)
  /-- A positional argument, whatever it looks like. -/
  | positional

/-- Read an option by its long name, with what follows the equals sign. -/
def readLong (g : ArgumentGrammar) (a : Arguments) (name : String) (attached : Option String) :
    Except ArgumentStop (Arguments × ArgumentPosition) :=
  match g.options.find? fun o => o.long == name, attached with
  | some ⟨_, _, .help⟩, none => .error .help
  | some ⟨_, _, .version⟩, none => .error .version
  | some ⟨_, _, .counted⟩, none => .ok ({ a with counted := a.counted ++ [name] }, .free)
  | some ⟨_, _, .valued accepts⟩, none => .ok (a, .valueOf name accepts)
  | some ⟨_, _, .valued accepts⟩, some value =>
    (a.withValue name value accepts).map fun a => (a, .free)
  | _, _ => .error .misuse

/-- Read several options by their letters. -/
def readShorts (g : ArgumentGrammar) (a : Arguments) :
    List Char → Except ArgumentStop Arguments
  | [] => .ok a
  | c :: cs =>
    match g.options.find? fun o => o.short == some c with
    | some ⟨_, _, .help⟩ => .error .help
    | some ⟨_, _, .version⟩ => .error .version
    | some ⟨name, _, .counted⟩ => readShorts g { a with counted := a.counted ++ [name] } cs
    | _ => .error .misuse

/-- Read an argument at a free position that names no command. -/
def readFree (g : ArgumentGrammar) (a : Arguments) (arg : String) :
    Except ArgumentStop (Arguments × ArgumentPosition) :=
  match arg.toList with
  | ['-', '-'] => .ok (a, .positional)
  | '-' :: '-' :: cs =>
    let (name, attached) := splitAtEquals cs
    readLong g a name attached
  | '-' :: c :: cs => (readShorts g a (c :: cs)).map fun a => (a, .free)
  | _ => (a.withPositional g arg).map fun a => (a, .free)

/-- Read arguments after those in `a`. -/
def readArguments (g : ArgumentGrammar) :
    ArgumentPosition → Arguments → List String → Except ArgumentStop Arguments
  | .valueOf _ _, _, [] => .error .misuse
  | _, a, [] => .ok a
  | .valueOf name accepts, a, arg :: rest =>
    if looksLikeOption arg then .error .misuse
    else
      match a.withValue name arg accepts with
      | .ok a => readArguments g .free a rest
      | .error stop => .error stop
  | .positional, a, arg :: rest =>
    match a.withPositional g arg with
    | .ok a => readArguments g .positional a rest
    | .error stop => .error stop
  | .free, a, arg :: rest =>
    if g.commands.contains arg then .ok { a with command := some (arg, rest) }
    else
      match readFree g a arg with
      | .ok (a, position) => readArguments g position a rest
      | .error stop => .error stop

/-- Read the arguments of a grammar. -/
def Arguments.ofList (g : ArgumentGrammar) (args : List String) :
    Except ArgumentStop Arguments :=
  readArguments g .free {} args

end RegulatoryReporting
