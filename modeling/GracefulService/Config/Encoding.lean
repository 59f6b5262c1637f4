import GracefulService.Config.Basic
import GracefulService.Document

/-!
# Configurations as documents

Every section and every value of a configuration is written, in order; what is not configured is null.
-/

namespace GracefulService

/-- A surface as a document. -/
def Listener.toDocument (listener : Listener) : Document :=
  .table [("host", .text listener.host), ("port", .integer listener.port)]

/-- The probe paths as a document. -/
def ProbePaths.toDocument (probes : ProbePaths) : Document :=
  .table [("health_path", .text probes.health), ("ready_path", .text probes.ready)]

/-- The times of a shutdown as a document. -/
def DrainTimes.toDocument (drain : DrainTimes) : Document :=
  .table [("timeout_ms", .integer drain.window), ("close_grace_ms", .integer drain.grace)]

/-- The mark-down route as a document. -/
def MarkdownRoute.toDocument (markdown : MarkdownRoute) : Document :=
  .table [("path", .text markdown.path), ("method", .text markdown.method)]

/-- Log and metrics as a document. -/
def Observability.toDocument (observability : Observability) : Document :=
  .table [
    ("log_level", .text observability.level),
    ("json_logs", .boolean observability.structuredLog),
    ("metrics_enabled", .boolean observability.metricsEnabled),
    ("metrics_address", .text observability.metricsAddress)]

/-- A section that may be absent as a document. -/
def optionalSection {α : Type} (write : α → Document) : Option α → Document
  | some value => write value
  | none => .null

/-- A configuration as a document. -/
def Config.toDocument (config : Config) : Document :=
  .table [
    ("listener", config.listener.toDocument),
    ("management", optionalSection Listener.toDocument config.management),
    ("probes", config.probes.toDocument),
    ("drain", config.drain.toDocument),
    ("markdown", optionalSection MarkdownRoute.toDocument config.markdown),
    ("observability", config.observability.toDocument)]

end GracefulService
