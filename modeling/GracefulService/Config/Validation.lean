import GracefulService.Config.Basic
import GracefulService.Http.Method
import GracefulService.Net.Address

/-!
# Sound configurations

What a configuration must fulfil beyond having values of the right kind: absolute and distinct paths,
a standard method for the mark-down route, a window that is not empty, and a socket address for metrics
where they are enabled. Every breach is reported, none hides another.
-/

namespace GracefulService

/-- The values of a configuration that are paths. -/
inductive PathField where
  /-- The path of the liveness probe. -/
  | health
  /-- The path of the readiness probe. -/
  | ready
  /-- The path of the mark-down route. -/
  | markdown
deriving DecidableEq, Repr, Inhabited

/-- The name of a path in a configuration. -/
def PathField.name : PathField → String
  | health => "probes.health_path"
  | ready => "probes.ready_path"
  | markdown => "markdown.path"

/-- A breach of the rules for configurations. -/
inductive Issue where
  /-- A path does not start at the root. -/
  | relativePath (field : PathField) (value : String)
  /-- Two paths are the same. -/
  | duplicatePath (first second : PathField) (path : String)
  /-- Nothing in flight would be waited for. -/
  | emptyWindow
  /-- The method of the mark-down route is not a standard one. -/
  | unknownMethod (value : String)
  /-- Metrics are enabled without a socket address. -/
  | metricsAddress (value : String)
deriving DecidableEq, Repr, Inhabited

namespace Issue

/-- The kind of a breach. -/
def kind : Issue → String
  | relativePath .. => "RelativePath"
  | duplicatePath .. => "DuplicatePath"
  | emptyWindow => "ZeroDrainTimeout"
  | unknownMethod _ => "InvalidMethod"
  | metricsAddress _ => "InvalidMetricsAddress"

/-- A breach in words. -/
def message : Issue → String
  | relativePath field value => field.name ++ " must start with '/': " ++ Text.quoted value
  | duplicatePath first second path =>
    first.name ++ " and " ++ second.name ++ " are both " ++ Text.quoted path
  | emptyWindow => "drain.timeout_ms must be greater than zero"
  | unknownMethod value => "markdown.method is not a standard HTTP method: " ++ Text.quoted value
  | metricsAddress value =>
    "observability.metrics_address is not a socket address: " ++ Text.quoted value

/-- A breach with the names of its parts. -/
def record : Issue → String
  | relativePath field value =>
    "RelativePath \x7b field: " ++ Text.quoted field.name ++ ", value: " ++ Text.quoted value
      ++ " \x7d"
  | duplicatePath first second path =>
    "DuplicatePath \x7b first: " ++ Text.quoted first.name ++ ", second: "
      ++ Text.quoted second.name ++ ", path: " ++ Text.quoted path ++ " \x7d"
  | emptyWindow => "ZeroDrainTimeout"
  | unknownMethod value => "InvalidMethod(" ++ Text.quoted value ++ ")"
  | metricsAddress value => "InvalidMetricsAddress(" ++ Text.quoted value ++ ")"

end Issue

namespace Config

/-- The configured paths, in order. -/
def paths (config : Config) : List (PathField × String) :=
  [(.health, config.probes.health), (.ready, config.probes.ready)]
    ++ config.markdown.toList.map fun markdown => (.markdown, markdown.path)

/-- A path starts at the root. -/
def isAbsolute (path : String) : Bool := path.toList.head? = some '/'

/-- The breaches of one path, given the paths before it. -/
def pathIssues (earlier : List (PathField × String)) (field : PathField) (path : String) :
    List Issue :=
  (if isAbsolute path then [] else [.relativePath field path])
    ++ (earlier.filter fun other => other.2 = path).map fun other =>
      .duplicatePath other.1 field path

/-- The breaches of all paths that follow the `earlier` ones. -/
def allPathIssues (earlier : List (PathField × String)) : List (PathField × String) → List Issue
  | [] => []
  | (field, path) :: rest =>
    pathIssues earlier field path ++ allPathIssues (earlier ++ [(field, path)]) rest

/-- The breaches of the mark-down method. -/
def methodIssues (config : Config) : List Issue :=
  match config.markdown with
  | some markdown =>
    if (Http.Verb.ofName? markdown.method).isSome then [] else [.unknownMethod markdown.method]
  | none => []

/-- The breaches of the window. -/
def windowIssues (config : Config) : List Issue :=
  if config.drain.window = 0 then [.emptyWindow] else []

/-- The breaches of the address for metrics. -/
def metricsIssues (config : Config) : List Issue :=
  let address := config.observability.metricsAddress
  if config.observability.metricsEnabled ∧ (Net.SocketAddress.read? address.toList).isNone then
    [.metricsAddress address]
  else []

/-- Every breach of a configuration. -/
def issues (config : Config) : List Issue :=
  config.methodIssues ++ allPathIssues [] config.paths ++ config.windowIssues
    ++ config.metricsIssues

/-- Breaches in words, on one line. -/
def issuesMessage (issues : List Issue) : String :=
  "Validation failed: " ++ ", ".intercalate (issues.map Issue.message)

end Config

end GracefulService
