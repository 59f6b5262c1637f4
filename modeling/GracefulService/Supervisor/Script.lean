import GracefulService.Serve.Delegate
import GracefulService.Serve.Script
import GracefulService.Supervisor.Client

/-!
# Scripts for supervised services

A service with its supervisor is driven step by step: it is opened, listened on and shut down, asked for
its addresses and its configuration, and sent requests and signals. After each step the tasks take their
turns, and a service that is about to stop is waited for.
-/

namespace GracefulService

open Http

/-- What a caller does with a supervised service. -/
inductive SupervisorStep where
  /-- Opens it. -/
  | openSurfaces
  /-- Listens on it. -/
  | listen
  /-- Waits for the end of listening. -/
  | join
  /-- Asks for the shutdown. -/
  | shutdown (cause : Option Cause)
  /-- Asks for the shutdown and what came of it. -/
  | trigger (cause : Option Cause)
  /-- Asks where it is bound. -/
  | addresses
  /-- Asks what it was told. -/
  | config
  /-- Asks how it is. -/
  | describe
  /-- Changes what the health check answers. -/
  | health (checkup : Checkup)
  /-- Lets signals begin the shutdown. -/
  | watchSignals
  /-- Sends a signal. -/
  | signal (name : String)
  /-- Sends a request; one that cannot be sent is none. The answer to a held one is fetched later. -/
  | request (id : String) (held : Bool) (surface : Surface) (request : Option Request)
  /-- Lets a held request go on and fetches its answer. -/
  | release (id : String)
  /-- Fetches the answer to a held request. -/
  | fetch (id : String)
  /-- Goes away from a held request. -/
  | disconnect (id : String)
  /-- Calls the mark-down route alone. -/
  | markdown (method : Option String) (request : Option Request)

/-- What a caller gets for a step. -/
inductive SupervisorResult where
  /-- Nothing. -/
  | nothing
  /-- It was done. -/
  | done
  /-- Whether it was done. -/
  | whether (did : Bool)
  /-- The service could not be opened or listened on. -/
  | fault (fault : ServiceFault)
  /-- Routes could not be built. -/
  | broken (fault : RouteFault)
  /-- The service is listened on. -/
  | listening
  /-- Listening has ended. -/
  | stopped (cause : Cause)
  /-- Listening does not end. -/
  | endless
  /-- The phase before, whether the shutdown began, and the phase after. -/
  | triggered (before : Phase) (started : Bool) (after : Phase)
  /-- Where the surfaces are bound. -/
  | addresses (primary management : Option BoundAddress)
  /-- What the service was told. -/
  | config (config : Config)
  /-- How the service is. -/
  | described (s : Supervisor)
  /-- A request was answered. -/
  | answered (response : Response)
  /-- A request reached nobody. -/
  | unreached (fault : ReachFault)
  /-- A request could not be sent. -/
  | unsendable
    /-- A request is held. -/
  | held
  /-- The method of the mark-down route is not a standard one. -/
  | unroutable

/-- What has become of a held request whose answer has not been fetched. -/
inductive Holding where
  /-- It has reached the routes. -/
  | sent
  /-- It waits at a bound socket. -/
  | queued (surface : Surface) (address : BoundAddress) (request : Request)
  /-- The server has answered it by itself. -/
  | answered (response : Response)
  /-- It has reached nobody. -/
  | missed

/-- A supervised service and those who drive it. -/
structure Rehearsal where
  /-- The service. -/
  supervisor : Supervisor
  /-- Who serves its traffic. -/
  delegate : Delegate
  /-- Somebody still wants to know how listening ends. -/
  joinable : Bool
  /-- The held requests whose answers have not been fetched, the last one first. -/
  held : List (String × Holding)

/-- What is visible after a step. -/
structure SupervisorRecord where
  /-- What the caller got. -/
  result : SupervisorResult
  /-- The phase. -/
  phase : Phase
  /-- How many requests hold a slot. -/
  inFlight : Nat

namespace Supervisor

/-- The tasks take their turns, and a service that is about to stop is waited for. -/
def comeToRest (s : Supervisor) : Supervisor :=
  let s := s.settle
  let snapshot := s.world.snapshot
  if s.isServing && (snapshot.phase = .stopped
      || (snapshot.phase = .draining && snapshot.inFlight = 0)) then
    s.elapse s.config.drain.grace
  else s

/-- Waits for the end of listening, when the shutdown has begun. -/
def joinStep (s : Supervisor) : Supervisor × SupervisorResult :=
  let s := if s.phase.isShuttingDown then
      s.elapse (s.config.drain.window + s.config.drain.grace)
    else s
  match s.stoppedCause? with
  | some cause => (s, .stopped cause)
  | none => (s, .endless)

end Supervisor

namespace Rehearsal

/-- A service that nobody has driven yet. -/
def start (supervisor : Supervisor) (delegate : Delegate) : Rehearsal :=
  ⟨supervisor, delegate, false, []⟩

/-- The answer to a request that has reached the service. -/
def await (r : Rehearsal) (id : String) : Rehearsal × SupervisorResult :=
  let (s, response) := r.supervisor.awaitAnswer id
  ({ r with supervisor := s }, (response.map SupervisorResult.answered).getD .nothing)

/-- A held request is forgotten. -/
def forget (r : Rehearsal) (id : String) : Rehearsal :=
  { r with held := r.held.filter fun entry => entry.1 ≠ id }

/-- What a client gets for a request. -/
def yield (r : Rehearsal) (id : String) : Holding → Rehearsal × SupervisorResult
  | .sent => r.await id
  | .queued .. => (r, .nothing)
  | .answered response => (r, .answered response)
  | .missed => (r, .unreached .refused)

/-- The answer to a held request. It is fetched once. -/
def fetch (r : Rehearsal) (id : String) : Rehearsal × SupervisorResult :=
  match r.held.lookup id with
  | none => (r, .nothing)
  | some holding => (r.forget id).yield id holding

/-- A request is held. -/
def hold (r : Rehearsal) (id : String) (holding : Holding) : Rehearsal :=
  { r with held := (id, holding) :: r.held }

/-- A request reaches nobody. One whose answer is fetched later fails only then, unless its surface has
no address. -/
def missStep (r : Rehearsal) (id : String) (held : Bool) :
    ReachFault → Rehearsal × SupervisorResult
  | .noAddress => (r, .unreached .noAddress)
  | .refused => if held then (r.hold id .missed, .held) else (r, .unreached .refused)

/-- A request reaches a server, which hands it to the routes unless it is too long. -/
def serveRequest (r : Rehearsal) (id : String) (surface : Surface) (request : Request) :
    Rehearsal × Holding :=
  if request.isOverlong then (r, .answered .overlong)
  else ({ r with supervisor := r.supervisor.send id surface request }, .sent)

/-- A caller sends a request. -/
def sendStep (r : Rehearsal) (id : String) (held : Bool) (surface : Surface)
    (request : Option Request) : Rehearsal × SupervisorResult :=
  match r.supervisor.reach [] surface, request with
  | .error fault, _ => r.missStep id held fault
  | .ok _, none => (r, .unsendable)
  | .ok .queued, some request =>
    let holding := (r.supervisor.addressOf surface).map fun address => Holding.queued surface address request
    if held then (r.hold id (holding.getD .missed), .held) else (r, .nothing)
  | .ok .served, some request =>
    let (r, holding) := r.serveRequest id surface request
    if held then (r.hold id holding, .held) else r.yield id holding

/-- Somebody serves now, or nobody ever will: a held request that has waited for that goes on. -/
def goOnHolding (r : Rehearsal) : String × Holding → Rehearsal
  | (id, .queued surface address request) =>
    match r.supervisor.contact [] surface address with
    | .ok .served =>
      let (r, holding) := r.serveRequest id surface request
      r.hold id holding
    | .ok .queued => r.hold id (.queued surface address request)
    | .error _ => r.hold id .missed
  | (id, holding) => r.hold id holding

/-- The held requests go on, those first that came first. -/
def goOnAll (r : Rehearsal) : Rehearsal := r.held.reverse.foldl goOnHolding { r with held := [] }

/-- Listens, and says whether that goes on. -/
def listenStep (r : Rehearsal) : Rehearsal × SupervisorResult :=
  match r.supervisor.listen r.delegate with
  | (s, .refused fault) => ({ r with supervisor := s }, .fault fault)
  | (s, .broken fault) => (goOnAll { r with supervisor := s }, .broken fault)
  | (s, .serving) =>
    let r := goOnAll { r with supervisor := s }
    let s := r.supervisor.comeToRest
    match s.stoppedCause? with
    | some cause => ({ r with supervisor := s }, .stopped cause)
    | none => ({ r with supervisor := s, joinable := true }, .listening)

/-- The client of a held request goes away. -/
def disconnectStep (r : Rehearsal) (id : String) : Rehearsal × SupervisorResult :=
  let s := r.supervisor
  let (world, did) := s.world.cancel s.setup.policy id
  ({ r.forget id with supervisor := { s with world := world } }, .whether did)

/-- A caller calls the mark-down route alone. -/
def markdownStep (s : Supervisor) (method : Option String) (request : Request) :
    Supervisor × SupervisorResult :=
  match s.markdownRoute? method with
  | none => (s, .unroutable)
  | some route =>
    match RouteTable.build [route] with
    | .error fault => (s, .broken fault)
    | .ok control =>
      let (s, response) := s.callMarkdown control request
      (s, .answered response)

/-- A caller takes a step. -/
def act (r : Rehearsal) : SupervisorStep → Rehearsal × SupervisorResult
  | .openSurfaces =>
    match r.supervisor.openSurfaces with
    | (s, .ok ()) => ({ r with supervisor := s }, .done)
    | (s, .error fault) => ({ r with supervisor := s }, .fault fault)
  | .listen => r.listenStep
  | .join =>
    if r.joinable then
      match r.supervisor.joinStep with
      | (s, .stopped cause) => ({ r with supervisor := s, joinable := false }, .stopped cause)
      | (s, result) => ({ r with supervisor := s }, result)
    else (r, .nothing)
  | .shutdown cause => ({ r with supervisor := (r.supervisor.trigger cause).1 }, .nothing)
  | .trigger cause =>
    let (s, started) := r.supervisor.trigger cause
    ({ r with supervisor := s }, .triggered r.supervisor.phase started s.phase)
  | .addresses =>
    (r, .addresses r.supervisor.primaryAddress r.supervisor.managementAddress)
  | .config => (r, .config r.supervisor.config)
  | .describe => (r, .described r.supervisor)
  | .health checkup =>
    let world := r.supervisor.world
    if world.checkup.isSome then
      let world := { world with checkup := some checkup }
      ({ r with supervisor := { r.supervisor with world := world } }, .whether true)
    else (r, .whether false)
  | .watchSignals => ({ r with supervisor := r.supervisor.watchSignals }, .nothing)
  | .signal name =>
    let s := (r.supervisor.signal name).settle
    ({ r with supervisor := s }, .whether s.phase.isShuttingDown)
  | .request id held surface request => r.sendStep id held surface request
  | .release id => { r with supervisor := r.supervisor.release id }.fetch id
  | .fetch id => r.fetch id
  | .disconnect id => r.disconnectStep id
  | .markdown _ none => (r, .unsendable)
  | .markdown method (some request) =>
    let (s, result) := markdownStep r.supervisor method request
    ({ r with supervisor := s }, result)

/-- A step of a caller and what follows it. -/
def take (r : Rehearsal) (step : SupervisorStep) : Rehearsal × SupervisorRecord :=
  let (r, result) := r.act step
  let s := r.supervisor.comeToRest
  ({ r with supervisor := s }, ⟨result, s.phase, s.world.snapshot.inFlight⟩)

/-- A script, step by step. -/
def perform (r : Rehearsal) : List SupervisorStep → List SupervisorRecord
  | [] => []
  | step :: steps =>
    let (r, record) := r.take step
    record :: perform r steps

end Rehearsal

end GracefulService
