import GracefulService.Supervisor.Opening

/-!
# Listening

An open service is listened on once: whoever comes first takes the bound surfaces and serves them until
the service has stopped. Where the shutdown began before that, serving begins all the same and ends at
once, so that the service stops in order and its cause is reported.
-/

namespace GracefulService

open Http

/-- What becomes of an attempt to listen. -/
inductive ListenResult where
  /-- The surfaces are served. -/
  | serving
  /-- There are no surfaces to serve. -/
  | refused (fault : ServiceFault)
  /-- The control routes cannot be built; the surfaces are lost. -/
  | broken (fault : RouteFault)
deriving DecidableEq, Repr, Inhabited

namespace Supervisor

/-- The control routes of a configuration: the probes and, when it is configured and its method is a
standard one, the mark-down. -/
def controlRoutes (config : Config) : List (String × Verb × Control) :=
  probeRoutes config.probes.health config.probes.ready
    ++ match config.markdown with
      | some markdown =>
        match Verb.ofName? markdown.method with
        | some verb => [(markdown.path, verb, .markdown)]
        | none => []
      | none => []

/-- Why there are no surfaces to serve. -/
def whyNoSockets (phase : Phase) : ServiceFault :=
  match phase with
  | .created => .notOpen
  | .opened => .alreadyListening
  | .listening => .alreadyListening
  | .draining => .stopped
  | .stopped => .stopped

/-- Takes the bound surfaces; nobody can take them again. -/
def takeSockets (s : Supervisor) : Supervisor × Option Sockets :=
  ({ s with sockets := none }, s.sockets)

/-- The service lets requests in, unless its shutdown has begun. -/
def admitRequests (s : Supervisor) : Supervisor :=
  match s.world.advance s.setup.policy .listening with
  | (world, true) => { s with world := world }
  | (_, false) => { s with world := s.world.tell (.servingSkipped s.phase) }

/-- The surfaces in the order in which they are closed, with their addresses. -/
def surfacesOf (sockets : Sockets) : List (Surface × BoundAddress) :=
  (sockets.management.toList.map fun address => (.management, address))
    ++ [(.primary, sockets.primary)]

/-- The servers begin, and so does the drain that will close them. -/
def startServing (s : Supervisor) (sockets : Sockets) (site : Site) : Supervisor :=
  let surfaces := surfacesOf sockets
  let world := surfaces.foldl (fun world (surface, address) =>
    world.start .service (.startServer surface address)) s.world
  { s with
    site := some site
    world := world.start .service (.awaitShutdown (.close (surfaces.map (·.1)))) }

/-- Serves the surfaces that were taken. -/
def serveSockets (s : Supervisor) (delegate : Delegate) (sockets : Sockets) :
    Supervisor × ListenResult :=
  let s := s.admitRequests
  match RouteTable.build (controlRoutes s.config) with
  | .error fault => (s, .broken fault)
  | .ok control =>
    (s.startServing sockets ⟨control, sockets.management.isSome, delegate⟩, .serving)

/-- Listens on the service. -/
def listen (s : Supervisor) (delegate : Delegate) : Supervisor × ListenResult :=
  match s.takeSockets with
  | (_, none) => (s, .refused (whyNoSockets s.phase))
  | (s, some sockets) => s.serveSockets delegate sockets

/-- The cause with which listening has ended, once it has. -/
def stoppedCause? (s : Supervisor) : Option Cause :=
  s.world.finished.findSome? fun ending =>
    match ending.outcome with
    | .stopped cause => some cause
    | _ => none

/-- Somebody is listening. -/
def isServing (s : Supervisor) : Bool := s.site.isSome && s.stoppedCause?.isNone

/-- Asks for the shutdown; says whether it had not begun before. -/
def trigger (s : Supervisor) (cause : Option Cause) : Supervisor × Bool :=
  let (world, started) := s.world.beginDrain s.setup.policy (Cause.orManual cause)
  ({ s with world := world }, started)

/-- From now on a signal begins the shutdown. -/
def watchSignals (s : Supervisor) : Supervisor :=
  { s with world := s.world.start .service (.watchSignals none) }

/-- A signal reaches a task that waits for one. -/
def catchSignal (name : String) (task : Task) : Task :=
  match task.errand with
  | .watchSignals none => { task with errand := .watchSignals (some name), woken := true }
  | _ => task

/-- A signal arrives. -/
def signal (s : Supervisor) (name : String) : Supervisor :=
  { s with world := { s.world with tasks := s.world.tasks.map (catchSignal name) } }

/-- The mark-down route alone, for a method that may differ from the configured one. -/
def markdownRoute? (s : Supervisor) (method : Option String) : Option (String × Verb × Control) :=
  let markdown := s.config.markdown.getD .usual
  (Verb.ofName? (method.getD markdown.method)).map fun verb => (markdown.path, verb, .markdown)

/-- The mark-down route alone answers a request. -/
def callMarkdown (s : Supervisor) (control : RouteTable Control) (request : Request) :
    Supervisor × Response :=
  let site : Site := ⟨control, true, closedSite.delegate⟩
  match s.world.receive { s.setup with site := site } .management request with
  | (world, .finish (.answered _ response)) => ({ s with world := world }, response)
  | (world, _) => ({ s with world := world }, .unavailable)

end Supervisor

end GracefulService
