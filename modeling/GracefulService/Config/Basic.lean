import GracefulService.Net.Surface

/-!
# Configuration

Everything a service is told before it starts. Each value has a default, so an empty configuration is
a complete one; the management surface and the mark-down route exist only where they are configured.
-/

namespace GracefulService

/-- The paths of the probes. -/
structure ProbePaths where
  /-- Where the liveness probe is answered. -/
  health : String
  /-- Where the readiness probe is answered. -/
  ready : String
deriving DecidableEq, Repr, Inhabited

/-- The times of a shutdown, in milliseconds. -/
structure DrainTimes where
  /-- How long requests in flight are waited for. -/
  window : Nat
  /-- How long servers may take to close after that. -/
  grace : Nat
deriving DecidableEq, Repr, Inhabited

/-- The route by which a client begins the shutdown. -/
structure MarkdownRoute where
  /-- Its path. -/
  path : String
  /-- The name of its method. -/
  method : String
deriving DecidableEq, Repr, Inhabited

/-- What a service says about itself. -/
structure Observability where
  /-- The least important level that is logged. -/
  level : String
  /-- Whether the log is written for programs. -/
  structuredLog : Bool
  /-- Whether metrics can be fetched. -/
  metricsEnabled : Bool
  /-- Where metrics can be fetched. -/
  metricsAddress : String
deriving DecidableEq, Repr, Inhabited

/-- A configuration. -/
structure Config where
  /-- The primary surface. -/
  listener : Listener
  /-- The management surface; without one the probes are answered on the primary surface. -/
  management : Option Listener
  /-- The paths of the probes. -/
  probes : ProbePaths
  /-- The times of a shutdown. -/
  drain : DrainTimes
  /-- The mark-down route. -/
  markdown : Option MarkdownRoute
  /-- Log and metrics. -/
  observability : Observability
deriving DecidableEq, Repr, Inhabited

/-- The usual paths of the probes. -/
def ProbePaths.usual : ProbePaths := ⟨"/health", "/ready"⟩

/-- The usual times of a shutdown. -/
def DrainTimes.usual : DrainTimes := ⟨2000, 500⟩

/-- The usual mark-down route. -/
def MarkdownRoute.usual : MarkdownRoute := ⟨"/markdown", "POST"⟩

/-- The usual log, without metrics. -/
def Observability.usual : Observability := ⟨"info", false, false, "0.0.0.0:9090"⟩

/-- The configuration where nothing is said. -/
def Config.usual : Config :=
  ⟨.anywhere, none, .usual, .usual, none, .usual⟩

end GracefulService
