import GracefulService.CommandLine
import GracefulService.Health.Status
import GracefulService.Http.Accept
import GracefulService.Http.Method

/-!
# Arguments of the probe client

The probe client is told where a service is, in which format it should answer, and what to ask: one of
the probes, or to mark itself down. Where and how come before the question, the path of the question
behind it.
-/

namespace GracefulService.ProbeClient

open Http

/-- What a service is asked. -/
inductive Question where
  /-- Whether it is alive. -/
  | health
  /-- Whether it is ready. -/
  | ready
  /-- To mark itself down. -/
  | markdown
deriving DecidableEq, Repr, Inhabited

namespace Question

/-- The word for a question. -/
def word : Question → String
  | health => "health"
  | ready => "ready"
  | markdown => "markdown"

/-- The question that a word stands for. -/
def ofWord? (s : String) : Option Question :=
  [health, ready, markdown].find? fun question => question.word = s

/-- Where a question is asked, unless the caller says otherwise. -/
def usualPath : Question → String
  | health => "/health"
  | ready => "/ready"
  | markdown => "/markdown"

/-- The method with which a question is asked. -/
def verb : Question → Verb
  | health => .get
  | ready => .get
  | markdown => .post

/-- The question that asks for a probe. -/
def ofProbe : Probe → Question
  | .liveness => health
  | .readiness => ready

/-- What a question is for. -/
def purpose : Question → String
  | health => "Liveness probe"
  | ready => "Readiness probe"
  | markdown => "Ask the scaffold to mark itself down and drain"

end Question

/-- The word for a format. -/
def formatWord : BodyFormat → String
  | .text => "text"
  | .json => "json"

/-- The format that a word stands for. -/
def formatOfWord? (s : String) : Option BodyFormat :=
  [BodyFormat.text, .json].find? fun format => formatWord format = s

/-- What the probe client is told. -/
structure Arguments where
  /-- Where the service is. -/
  base : String
  /-- In which format it should answer. -/
  format : BodyFormat
  /-- What it is asked. -/
  question : Question
  /-- The path at which it is asked. -/
  path : String
deriving DecidableEq, Repr, Inhabited

/-- Where a service is, unless the caller says otherwise. -/
def usualBase : String := "http://localhost:8080"

/-- What came of reading the arguments. -/
inductive Command where
  /-- A question to ask. -/
  | ask (arguments : Arguments)
  /-- Help on all questions, or on one. -/
  | help (question : Option Question)
  /-- The arguments are wrong. -/
  | mistake
deriving DecidableEq, Repr, Inhabited

/-- The options before the question. -/
def outerOptions : List CommandOption :=
  [⟨"url", some 'u', fun _ => true⟩, ⟨"format", some 'f', fun word => (formatOfWord? word).isSome⟩]

/-- The options behind the question. -/
def innerOptions : List CommandOption := [⟨"path", none, fun _ => true⟩]

/-- Reads what stands behind the question. -/
def readQuestion (base : String) (format : BodyFormat) (question : Question)
    (arguments : List String) : Command :=
  match CommandLine.read innerOptions arguments with
  | .options given none _ => .ask ⟨base, format, question, (given.lookup "path").getD question.usualPath⟩
  | .options _ (some _) _ => .mistake
  | .help => .help (some question)
  | .mistake => .mistake

/-- Reads the words behind a request for help. -/
def readHelp : List String → Command
  | [] => .help none
  | [word] =>
    match Question.ofWord? word with
    | some question => .help (some question)
    | none => .mistake
  | _ => .mistake

/-- Reads the arguments of the probe client. -/
def Command.read (arguments : List String) : Command :=
  match CommandLine.read outerOptions arguments with
  | .options _ none _ => .mistake
  | .options given (some word) rest =>
    match Question.ofWord? word with
    | some question =>
      readQuestion ((given.lookup "url").getD usualBase)
        (((given.lookup "format").bind formatOfWord?).getD .text) question rest
    | none => if word = "help" then readHelp rest else .mistake
  | .help => .help none
  | .mistake => .mistake

end GracefulService.ProbeClient
