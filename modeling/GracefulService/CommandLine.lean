import GracefulService.Text.Blank

/-!
# Command lines

Options that take one value each, and words between them. An option has a long name behind two hyphens
and may have a letter behind one; its value follows an equals sign, stands right behind the letter, or
is the next argument. No option is given twice. Two hyphens alone end the options.
-/

namespace GracefulService

/-- An option that a program knows. -/
structure CommandOption where
  /-- Its name, behind two hyphens. -/
  name : String
  /-- Its letter, behind one hyphen. -/
  letter : Option Char
  /-- The values it takes. -/
  takes : String → Bool

/-- What stands at the front of a command line. -/
inductive Argument where
  /-- An option with its value. -/
  | option (name value : String)
  /-- A request for help. -/
  | help
  /-- A word that is no option. -/
  | word (text : String)
  /-- An option that is not known, or whose value is missing or not one that it takes. -/
  | mistake
deriving DecidableEq, Repr, Inhabited

namespace CommandLine

/-- An option with a value, if it takes that value. -/
def withValue (option : CommandOption) (value : String) : Argument :=
  if option.takes value then .option option.name value else .mistake

/-- An argument that cannot be the value of the option before it. -/
def looksLikeOption (argument : String) : Bool :=
  argument.toList.head? = some '-' && argument ≠ "-"

/-- The value that follows an option as the next argument. -/
def nextValue (option : CommandOption) : List String → Argument × List String
  | value :: rest => if looksLikeOption value then (.mistake, []) else (withValue option value, rest)
  | [] => (.mistake, [])

/-- An option by its long name, without the hyphens. -/
def readLong (known : List CommandOption) (text : List Char) (rest : List String) :
    Argument × List String :=
  let (name, value) := match Text.splitFirst '=' text with
    | some (name, value) => (String.ofList name, some (String.ofList value))
    | none => (String.ofList text, none)
  match known.find? fun option => option.name = name, value with
  | some option, some value => (withValue option value, rest)
  | some option, none => nextValue option rest
  | none, none => if name = "help" then (.help, rest) else (.mistake, [])
  | none, some _ => (.mistake, [])

/-- An option by its letter, with what stands behind the letter. -/
def readShort (known : List CommandOption) (letter : Char) (text : List Char)
    (rest : List String) : Argument × List String :=
  match known.find? fun option => option.letter = some letter, text with
  | some option, [] => nextValue option rest
  | some option, '=' :: value => (withValue option (String.ofList value), rest)
  | some option, value => (withValue option (String.ofList value), rest)
  | none, _ => if letter = 'h' then (.help, rest) else (.mistake, [])

/-- The argument at the front. -/
def readArgument (known : List CommandOption) (argument : String) (rest : List String) :
    Argument × List String :=
  match argument.toList with
  | '-' :: '-' :: text => if text.isEmpty then (.mistake, []) else readLong known text rest
  | ['-'] => (.word argument, rest)
  | '-' :: letter :: text => readShort known letter text rest
  | _ => (.word argument, rest)

/-- What a command line says up to its first word. -/
inductive Reading where
  /-- The options in order, the first word when there is one, and what follows it. -/
  | options (given : List (String × String)) (word : Option String) (rest : List String)
  /-- Help is asked for. -/
  | help
  /-- The command line is wrong. -/
  | mistake
deriving DecidableEq, Repr, Inhabited

/-- Reads options up to the first word. Every argument is read once, so their number is fuel enough. -/
def readOptions (known : List CommandOption) :
    (fuel : Nat) → List (String × String) → List String → Reading
  | 0, _, _ => .mistake
  | _ + 1, given, [] => .options given none []
  | _ + 1, given, ["--"] => .options given none []
  | fuel + 1, given, argument :: rest =>
    match readArgument known argument rest with
    | (.option name value, rest) =>
      if (given.lookup name).isSome then .mistake
      else readOptions known fuel (given ++ [(name, value)]) rest
    | (.word text, rest) => .options given (some text) rest
    | (.help, _) => .help
    | (.mistake, _) => .mistake

/-- What a command line says up to its first word. -/
def read (known : List CommandOption) (arguments : List String) : Reading :=
  readOptions known (arguments.length + 1) [] arguments

end CommandLine

end GracefulService
