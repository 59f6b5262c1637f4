import GracefulService.Health.Status
import GracefulService.Json.Printer
import GracefulService.Lifecycle.Phase

/-!
# Health reports

A status with the reason for it. Liveness repeats what the health check says; readiness does the same
until shutdown begins and from then on answers not ready, or worse, with the phase as its reason.
-/

namespace GracefulService

/-- What a probe answers. -/
structure Report where
  /-- How well the service feels. -/
  status : Status
  /-- Why. -/
  reason : String
deriving DecidableEq, Repr, Inhabited

namespace Report

/-- A report whose reason is the name of the status unless another is given. -/
def make (status : Status) (reason : Option String) : Report :=
  ⟨status, reason.getD status.name⟩

/-- A report as a document: the status, then the reason. -/
def toDocument (report : Report) : Document :=
  .table [("status", .text report.status.name), ("reason", .text report.reason)]

/-- A report as JSON on one line. -/
def json (report : Report) : String := Json.compact report.toDocument

end Report

/-- The answer of a health check, with an optional reason. -/
structure Checkup where
  /-- How well the service feels. -/
  status : Status
  /-- Why, when the check says so. -/
  reason : Option String
deriving DecidableEq, Repr, Inhabited

/-- What the liveness probe reports: the check-up, or that all is well where no check is installed. -/
def livenessReport : Option Checkup → Report
  | some checkup => .make checkup.status checkup.reason
  | none => .make .ok none

/-- What the readiness probe reports in a phase. -/
def readinessReport (phase : Phase) (checkup : Option Checkup) : Report :=
  let live := livenessReport checkup
  if phase.isShuttingDown then
    .make (live.status.worse .notReady) (some ("Service is " ++ phase.name))
  else live

/-- What a probe reports in a phase. -/
def Probe.report (probe : Probe) (phase : Phase) (checkup : Option Checkup) : Report :=
  match probe with
  | .liveness => livenessReport checkup
  | .readiness => readinessReport phase checkup

end GracefulService
