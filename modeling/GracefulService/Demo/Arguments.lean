import GracefulService.CommandLine

/-!
# Arguments of the demonstration

The demonstration is told at most where its configuration is.
-/

namespace GracefulService.Demo

/-- What the demonstration is told to do. -/
inductive Command where
  /-- To serve, with the configuration in a file or without one. -/
  | serve (path : Option String)
  /-- To help. -/
  | help
  /-- Nothing that it understands. -/
  | mistake
deriving DecidableEq, Repr, Inhabited

/-- The options that the demonstration knows. The path of a file is never empty. -/
def knownOptions : List CommandOption := [⟨"config", some 'c', fun path => !path.isEmpty⟩]

/-- Reads the arguments of the demonstration. -/
def Command.read (arguments : List String) : Command :=
  match CommandLine.read knownOptions arguments with
  | .options given none _ => .serve (given.lookup "config")
  | .options _ (some _) _ => .mistake
  | .help => .help
  | .mistake => .mistake

/-- How the program is called. -/
def usageText : String := "Usage: service-scaffold [OPTIONS]\n"

/-- What the demonstration says about itself. -/
def helpText : String :=
  "Demo server running behind the service scaffold\n\n" ++ usageText ++ "\nOptions:\n"
    ++ "  -c, --config <CONFIG>  TOML configuration file. Defaults apply when omitted\n"
    ++ "  -h, --help             Print help\n"

end GracefulService.Demo
