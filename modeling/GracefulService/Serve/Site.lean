import GracefulService.Http.Route
import GracefulService.Serve.Answer
import GracefulService.Net.Surface

/-!
# Sites

What a service offers: control routes, which answer probes and the mark-down, and a delegate for all
other traffic. The control routes stand on the primary surface in front of the delegate, or alone on a
surface of their own. Requests for the delegate pass a gate; control routes never do.
-/

namespace GracefulService

open Http

/-- What a control route does. -/
inductive Control where
  /-- It answers a probe. -/
  | probe (probe : Probe)
  /-- It begins the shutdown. -/
  | markdown
deriving DecidableEq, Repr, Inhabited

/-- What a delegate does with a request. -/
inductive Work where
  /-- It answers at once. -/
  | answer (response : Response)
  /-- It breaks. -/
  | broken
  /-- It answers after some milliseconds. -/
  | pause (milliseconds : Nat) (response : Response)
  /-- It answers once it is told to go on. -/
  | hold (key : String) (response : Response)
deriving DecidableEq, Repr, Inhabited

/-- How a delegate takes a request. -/
structure Handling where
  /-- Which methods it serves, where it does not serve the one that was asked for. -/
  allow : Option String
  /-- What it does. -/
  work : Work
deriving DecidableEq, Repr, Inhabited

/-- A delegate serves the traffic behind the gate. -/
abbrev Delegate := Request → Handling

/-- What a service offers. -/
structure Site where
  /-- The control routes. -/
  control : RouteTable Control
  /-- The control routes have a surface of their own. -/
  separate : Bool
  /-- The delegate. -/
  delegate : Delegate

/-- Where a request goes. -/
inductive Destination where
  /-- To a control route. -/
  | control (action : Control)
  /-- To a control route that does not serve its method. -/
  | otherMethods (allowed : String)
  /-- To the gate. -/
  | gate
  /-- Nowhere. -/
  | nowhere
deriving DecidableEq, Repr, Inhabited

/-- Where a request goes that the control routes look at first. -/
def Http.Dispatch.destination (dispatch : Dispatch Control) (otherwise : Destination) : Destination :=
  match dispatch with
  | .served action => .control action
  | .otherMethods allowed => .otherMethods allowed
  | .unknown => otherwise

/-- Where a request goes. -/
def Site.destination (site : Site) (surface : Surface) (request : Request) : Destination :=
  match surface with
  | .management => (site.control.dispatch request).destination .nowhere
  | .primary =>
    if site.separate then .gate else (site.control.dispatch request).destination .gate

/-- The header that tells requests apart. -/
def requestIdHeader : String := "x-request-id"

/-- The id of a request. -/
def Http.Request.id? (request : Request) : Option String := request.header? requestIdHeader

/-- The request with an id, unless it has one. -/
def Http.Request.withId (request : Request) (id : String) : Request :=
  match request.id? with
  | some _ => request
  | none => { request with headers := request.headers ++ [(requestIdHeader, id)] }

/-- A response as it leaves a surface: finished by the route it came through, if any, and on the primary
surface with the id of its request, unless it has one already. -/
def Http.Response.leave (surface : Surface) (request : Request) (routed : Bool)
    (allow : Option String) (response : Response) : Response :=
  let finished := if routed then response.finish request.method allow else response
  match surface with
  | .primary => { finished with requestId := finished.requestId.or request.id? }
  | .management => finished

/-- The control routes for the probes. -/
def probeRoutes (health ready : String) : List (String × Verb × Control) :=
  [(health, .get, .probe .liveness), (ready, .get, .probe .readiness)]

end GracefulService
