import GracefulService.Lifecycle.Cause
import GracefulService.Lifecycle.Phase

/-!
# The shared snapshot of a service

Phase, requests in flight, cause of the shutdown and abandonment are kept together and change together.
Every operation is one indivisible change of the snapshot or is refused and changes nothing. A change
says whether those who wait for a condition have to look again: an admission, and a release that is
not the last, cannot make any awaited condition true and wake nobody.
-/

namespace GracefulService

/-- What all parts of a service know about its state. -/
structure Snapshot where
  /-- Where the service stands in its life. -/
  phase : Phase
  /-- How many requests hold a slot. -/
  inFlight : Nat
  /-- Why shutdown began, when it began with a cause. -/
  cause : Option Cause
  /-- Whether the requests in flight have been given up. -/
  abandoned : Bool
deriving DecidableEq, Repr, Inhabited

/-- A change that took effect. -/
structure Change where
  /-- The snapshot from now on. -/
  after : Snapshot
  /-- Whether waiters have to look again. -/
  notifies : Bool
deriving DecidableEq, Repr, Inhabited

namespace Snapshot

/-- A service that has just been created. -/
def initial : Snapshot := ⟨.created, 0, none, false⟩

/-- One step forward to `target`, when a service may take it. -/
def advance (s : Snapshot) (target : Phase) : Option Change :=
  if s.phase.canAdvance target then some ⟨{ s with phase := target }, true⟩ else none

/-- A slot for one more request, while the service listens. -/
def enter (s : Snapshot) : Option Change :=
  if s.phase.acceptsRequests then some ⟨{ s with inFlight := s.inFlight + 1 }, false⟩ else none

/-- A slot is given back. Only the last one is worth waking anybody for. -/
def leave (s : Snapshot) : Option Change :=
  match s.inFlight with
  | 0 => none
  | n + 1 => some ⟨{ s with inFlight := n }, decide (n = 0)⟩

/-- Shutdown begins, unless it has begun before. The cause of the first one stays. -/
def beginDrain (s : Snapshot) (cause : Cause) : Option Change :=
  if s.phase.canAdvance .draining then
    some ⟨{ s with phase := .draining, cause := some cause }, true⟩
  else none

/-- The requests in flight are given up, once, and only after the service has stopped. -/
def abandon (s : Snapshot) : Option Change :=
  if s.phase = .stopped ∧ s.abandoned = false then some ⟨{ s with abandoned := true }, true⟩
  else none

end Snapshot

end GracefulService
