import GracefulService.ProbeClient.Arguments

/-!
# Help for the probe client

What the probe client says about itself when it is asked for help, or when it does not understand what it
is told.
-/

namespace GracefulService.ProbeClient

/-- Lines, each with its end. -/
def lines (parts : List String) : String := String.join (parts.map (· ++ "\n"))

/-- How the program is called. -/
def generalUsage : String := "Usage: probe-cli [OPTIONS] <COMMAND>"

/-- Help on all questions. -/
def generalHelp : String := lines [
  "Query the health and readiness probes of a service scaffold",
  "",
  generalUsage,
  "",
  "Commands:",
  "  health    " ++ Question.health.purpose,
  "  ready     " ++ Question.ready.purpose,
  "  markdown  " ++ Question.markdown.purpose,
  "  help      Print this message or the help of the given subcommand(s)",
  "",
  "Options:",
  "  -u, --url <URL>        Base URL of the surface serving probes (management, or primary when shared) "
    ++ "[default: " ++ usualBase ++ "]",
  "  -f, --format <FORMAT>  Response format to request [default: text] [possible values: text, json]",
  "  -h, --help             Print help"]

/-- Help on one question. -/
def questionHelp (question : Question) : String := lines [
  question.purpose,
  "",
  "Usage: probe-cli " ++ question.word ++ " [OPTIONS]",
  "",
  "Options:",
  "      --path <PATH>  [default: " ++ question.usualPath ++ "]",
  "  -h, --help         Print help"]

/-- Help on one question, or on all. -/
def helpText (question : Option Question) : String :=
  match question with
  | some question => questionHelp question
  | none => generalHelp

/-- What the program says when it does not understand what it is told. -/
def usageText : String := lines [generalUsage, "", "For more information, try '--help'."]

end GracefulService.ProbeClient
