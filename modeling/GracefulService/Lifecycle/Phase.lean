/-!
# Phases of a service

A service is created, opens its surfaces, listens, drains and stops. It may begin to drain from every
earlier phase; otherwise it takes one step at a time and never goes back.
-/

namespace GracefulService

/-- Where a service stands in its life. -/
inductive Phase where
  /-- Nothing has happened yet. -/
  | created
  /-- The surfaces are bound. -/
  | opened
  /-- Requests are let in. -/
  | listening
  /-- Requests are turned away; those in flight may finish. -/
  | draining
  /-- Nothing is waited for any more. -/
  | stopped
deriving DecidableEq, Repr, Inhabited

namespace Phase

/-- The place of a phase in the order of a life. -/
def number : Phase → Nat
  | created => 0
  | opened => 1
  | listening => 2
  | draining => 3
  | stopped => 4

/-- The name of a phase, in logs and texts. -/
def name : Phase → String
  | created => "Created"
  | opened => "Open"
  | listening => "Listening"
  | draining => "Draining"
  | stopped => "Stopped"

/-- The steps a service may take. -/
def canAdvance : Phase → Phase → Bool
  | created, opened => true
  | opened, listening => true
  | created, draining => true
  | opened, draining => true
  | listening, draining => true
  | draining, stopped => true
  | _, _ => false

/-- Requests are let in only while the service listens. -/
def acceptsRequests (phase : Phase) : Bool := phase = listening

/-- Shutdown has begun. -/
def isShuttingDown (phase : Phase) : Bool := decide (draining.number ≤ phase.number)

/-- A phase has been reached when the service is in it or beyond. -/
def hasReached (phase target : Phase) : Bool := decide (target.number ≤ phase.number)

end Phase

end GracefulService
