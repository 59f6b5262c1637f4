import GracefulService.Config.Basic
import GracefulService.Document

/-!
# Configurations from documents

A section is a table, where unknown names are passed over and absent values have their defaults, or a
sequence of the values in the order of the section, where the last ones may be left out. A value of the
wrong kind, or a number that does not fit, spoils the whole configuration.
-/

namespace GracefulService

/-- What becomes of values behind the last one of a section that is given as a sequence. -/
inductive Surplus where
  /-- They are passed over. -/
  | ignored
  /-- They spoil the section. -/
  | refused
deriving DecidableEq, Repr, Inhabited

/-- The values of a section by name. A date is a section without any of its values. -/
def sectionValues? (surplus : Surplus) (names : List String) :
    Document → Option (List (String × Document))
  | .table fields => some fields
  | .sequence items =>
    if surplus = .refused ∧ names.length < items.length then none else some (names.zip items)
  | .moment _ => some []
  | _ => none

/-- A value of a section, or its default. -/
def valueOr {α : Type} (decode : Document → Option α) (usual : α) (name : String)
    (values : List (String × Document)) : Option α :=
  match values.lookup name with
  | some value => decode value
  | none => some usual

/-- A text. -/
def decodeText? : Document → Option String
  | .text value => some value
  | _ => none

/-- A truth value. -/
def decodeBoolean? : Document → Option Bool
  | .boolean value => some value
  | _ => none

/-- A whole number from zero and below `limit`. -/
def decodeBelow? (limit : Nat) : Document → Option Nat
  | .integer value => if 0 ≤ value ∧ value < limit then some value.toNat else none
  | _ => none

/-- A section that may be null. -/
def decodeOptional? {α : Type} (decode : Document → Option α) : Document → Option (Option α)
  | .null => some none
  | value => (decode value).map some

/-- A surface. -/
def Listener.decode? (surplus : Surplus) (document : Document) : Option Listener := do
  let values ← sectionValues? surplus ["host", "port"] document
  let host ← valueOr decodeText? anywhere.host "host" values
  let port ← valueOr (decodeBelow? Net.portLimit) anywhere.port "port" values
  return ⟨host, port⟩

/-- The probe paths. -/
def ProbePaths.decode? (surplus : Surplus) (document : Document) : Option ProbePaths := do
  let values ← sectionValues? surplus ["health_path", "ready_path"] document
  let health ← valueOr decodeText? usual.health "health_path" values
  let ready ← valueOr decodeText? usual.ready "ready_path" values
  return ⟨health, ready⟩

/-- The times of a shutdown. -/
def DrainTimes.decode? (surplus : Surplus) (document : Document) : Option DrainTimes := do
  let values ← sectionValues? surplus ["timeout_ms", "close_grace_ms"] document
  let window ← valueOr (decodeBelow? Number.wordLimit) usual.window "timeout_ms" values
  let grace ← valueOr (decodeBelow? Number.wordLimit) usual.grace "close_grace_ms" values
  return ⟨window, grace⟩

/-- The mark-down route. -/
def MarkdownRoute.decode? (surplus : Surplus) (document : Document) : Option MarkdownRoute := do
  let values ← sectionValues? surplus ["path", "method"] document
  let path ← valueOr decodeText? usual.path "path" values
  let method ← valueOr decodeText? usual.method "method" values
  return ⟨path, method⟩

/-- Log and metrics. -/
def Observability.decode? (surplus : Surplus) (document : Document) : Option Observability := do
  let values ← sectionValues? surplus
    ["log_level", "json_logs", "metrics_enabled", "metrics_address"] document
  let level ← valueOr decodeText? usual.level "log_level" values
  let structuredLog ← valueOr decodeBoolean? usual.structuredLog "json_logs" values
  let metricsEnabled ← valueOr decodeBoolean? usual.metricsEnabled "metrics_enabled" values
  let metricsAddress ← valueOr decodeText? usual.metricsAddress "metrics_address" values
  return ⟨level, structuredLog, metricsEnabled, metricsAddress⟩

/-- A configuration. -/
def Config.decode? (surplus : Surplus) (document : Document) : Option Config := do
  let values ← sectionValues? surplus
    ["listener", "management", "probes", "drain", "markdown", "observability"] document
  let listener ← valueOr (Listener.decode? surplus) .anywhere "listener" values
  let management ←
    valueOr (decodeOptional? (Listener.decode? surplus)) none "management" values
  let probes ← valueOr (ProbePaths.decode? surplus) .usual "probes" values
  let drain ← valueOr (DrainTimes.decode? surplus) .usual "drain" values
  let markdown ←
    valueOr (decodeOptional? (MarkdownRoute.decode? surplus)) none "markdown" values
  let observability ← valueOr (Observability.decode? surplus) .usual "observability" values
  return ⟨listener, management, probes, drain, markdown, observability⟩

end GracefulService
