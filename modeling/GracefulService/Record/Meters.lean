import GracefulService.Health.Status
import GracefulService.Lifecycle.Phase
import GracefulService.Text.Quoted

/-!
# Meters

The numbers a service publishes: its phase, the requests in flight, how many requests were let in and
turned away, and how often each probe gave each status. A number appears once it has been recorded.
-/

namespace GracefulService

/-- One recording. -/
inductive Reading where
  /-- The service entered a phase. -/
  | phase (phase : Phase)
  /-- So many requests hold a slot. -/
  | inFlight (count : Nat)
  /-- A request was let in or turned away. -/
  | admission (accepted : Bool)
  /-- A probe was answered. -/
  | probe (probe : Probe) (status : Status)
deriving DecidableEq, Repr, Inhabited

/-- All that has been recorded. -/
structure Meters where
  /-- The number of the last phase that was recorded. -/
  phase : Option Nat
  /-- The requests in flight at the last recording. -/
  inFlight : Option Nat
  /-- The requests let in. -/
  accepted : Nat
  /-- The requests turned away. -/
  rejected : Nat
  /-- The answered probes by probe and status. -/
  probes : List ((Probe × Status) × Nat)
deriving DecidableEq, Repr, Inhabited

namespace Meters

/-- Nothing has been recorded. -/
def empty : Meters := ⟨none, none, 0, 0, []⟩

/-- One more of what `key` counts. -/
def countUp (key : Probe × Status) : List ((Probe × Status) × Nat) → List ((Probe × Status) × Nat)
  | [] => [(key, 1)]
  | (other, n) :: rest =>
    if other = key then (other, n + 1) :: rest else (other, n) :: countUp key rest

/-- The meters after a recording. -/
def record (meters : Meters) : Reading → Meters
  | .phase phase => { meters with phase := some phase.number }
  | .inFlight count => { meters with inFlight := some count }
  | .admission true => { meters with accepted := meters.accepted + 1 }
  | .admission false => { meters with rejected := meters.rejected + 1 }
  | .probe probe status => { meters with probes := countUp (probe, status) meters.probes }

/-- A count appears once it is not zero. -/
def counted (name : String) (n : Nat) : List (String × Nat) := if n = 0 then [] else [(name, n)]

/-- Every recorded number with its name and labels. -/
def published (meters : Meters) : List (String × Nat) :=
  (meters.inFlight.toList.map fun n => ("scaffold_in_flight_requests", n))
    ++ (meters.probes.map fun ((probe, status), n) =>
      ("scaffold_probe_requests_total\x7bprobe=" ++ probe.name ++ ",status=" ++ status.name
        ++ "\x7d", n))
    ++ counted "scaffold_requests_total\x7boutcome=accepted\x7d" meters.accepted
    ++ counted "scaffold_requests_total\x7boutcome=rejected\x7d" meters.rejected
    ++ (meters.phase.toList.map fun n => ("scaffold_state", n))

end Meters

end GracefulService
