/-!
# Health status

How well a service feels. The three statuses are ordered from good to bad, so the worse of two is
their maximum.
-/

namespace GracefulService

/-- What a health check answers. -/
inductive Status where
  /-- The service works. -/
  | ok
  /-- The service lives but should get no traffic. -/
  | notReady
  /-- The service is broken. -/
  | failed
deriving DecidableEq, Repr, Inhabited

namespace Status

/-- The name of a status, in texts, metrics and reports. -/
def name : Status → String
  | ok => "OK"
  | notReady => "NotReady"
  | failed => "Failed"

/-- The status with a name. -/
def ofName? (s : String) : Option Status :=
  if s = "OK" then some ok
  else if s = "NotReady" then some notReady
  else if s = "Failed" then some failed
  else none

/-- How bad a status is. -/
def badness : Status → Nat
  | ok => 0
  | notReady => 1
  | failed => 2

/-- The worse of two statuses. -/
def worse (a b : Status) : Status := if a.badness < b.badness then b else a

end Status

/-- The two questions that can be asked about a service. -/
inductive Probe where
  /-- Whether the process should live on. -/
  | liveness
  /-- Whether traffic should be sent to it. -/
  | readiness
deriving DecidableEq, Repr, Inhabited

namespace Probe

/-- The name of a probe, in logs and metrics. -/
def name : Probe → String
  | liveness => "liveness"
  | readiness => "readiness"

/-- The status code of an answer: a service that is not ready fails the readiness probe alone. -/
def code : Probe → Status → Nat
  | _, .ok => 200
  | .liveness, .notReady => 200
  | _, _ => 503

end Probe

end GracefulService
