import GracefulService.Config.Validation
import GracefulService.Net.Machine
import GracefulService.Serve.Clock

/-!
# Supervisors

A supervisor leads a service through its life: it binds the surfaces, serves them until the service has
stopped, and lets anybody ask for the shutdown at any time.
-/

namespace GracefulService

/-- The surfaces that are bound and not yet served. -/
structure Sockets where
  /-- The primary surface. -/
  primary : BoundAddress
  /-- The management surface, when there is one. -/
  management : Option BoundAddress
deriving DecidableEq, Repr, Inhabited

/-- Why a service cannot be opened or listened on. -/
inductive ServiceFault where
  /-- Its configuration is not sound. -/
  | unsound (issues : List Issue)
  /-- A surface could not be bound. -/
  | bind (surface : Surface) (address : String) (fault : SocketFault)
  /-- It has not been opened. -/
  | notOpen
  /-- It has been opened before. -/
  | alreadyOpened (phase : Phase)
  /-- It has been listened on before. -/
  | alreadyListening
  /-- Its shutdown has begun. -/
  | stopped
deriving DecidableEq, Repr, Inhabited

/-- The words for a surface that could not be bound. -/
def bindMessage (surface : Surface) (address source : String) : String :=
  "failed to bind " ++ surface.name ++ " surface on " ++ address ++ ": " ++ source

/-- A fault in words. -/
def ServiceFault.message : ServiceFault → String
  | unsound issues => Config.issuesMessage issues
  | bind surface address fault => bindMessage surface address fault.message
  | notOpen => "scaffold is not open"
  | alreadyOpened phase => "scaffold already opened (state: " ++ phase.name ++ ")"
  | alreadyListening => "scaffold is already listening"
  | stopped => "scaffold is shutting down or stopped"

/-- A fault with the names of its parts. -/
def ServiceFault.record : ServiceFault → String
  | unsound issues =>
    "Config(Validation([" ++ ", ".intercalate (issues.map Issue.record) ++ "]))"
  | bind surface address fault =>
    "Bind \x7b surface: " ++ surface.record ++ ", address: " ++ Text.quoted address
      ++ ", source: " ++ fault.record ++ " \x7d"
  | notOpen => "NotOpen"
  | alreadyOpened phase => "AlreadyOpened(" ++ phase.name ++ ")"
  | alreadyListening => "AlreadyListening"
  | stopped => "Stopped"

/-- A service with its supervisor. -/
structure Supervisor where
  /-- What the service was told. -/
  config : Config
  /-- The machine it runs on. -/
  machine : Machine
  /-- What runs. -/
  world : World
  /-- What is offered, once it is listened on. -/
  site : Option Site
  /-- The surfaces that wait to be served. -/
  sockets : Option Sockets
  /-- Where the primary surface is bound, once it is published. -/
  primaryAddress : Option BoundAddress
  /-- Where the management surface is bound, once it is published. -/
  managementAddress : Option BoundAddress

namespace Supervisor

/-- A service that has just been created. -/
def create (config : Config) (machine : Machine) (checkup : Option Checkup) : Supervisor :=
  ⟨config, machine, .initial checkup, none, none, none, none⟩

/-- Where the service stands in its life. -/
def phase (s : Supervisor) : Phase := s.world.snapshot.phase

/-- A site where nothing is offered. -/
def closedSite : Site := ⟨.empty, false, fun _ => ⟨none, .answer (.bare 404)⟩⟩

/-- What the service was built from. -/
def setup (s : Supervisor) : Setup :=
  ⟨s.site.getD closedSite, s.config.drain.window, s.config.drain.grace, .onNotice⟩

/-- All tasks take their turns. -/
def settle (s : Supervisor) : Supervisor := { s with world := s.world.settle s.setup }

/-- So many milliseconds pass. -/
def elapse (s : Supervisor) (milliseconds : Nat) : Supervisor :=
  { s with world := s.world.elapse s.setup (s.world.clock + milliseconds) }

/-- Where a surface is bound. -/
def addressOf (s : Supervisor) : Surface → Option BoundAddress
  | .primary => s.primaryAddress
  | .management => s.managementAddress

/-- A service with its phase, its requests in flight and its addresses, on one line. The sockets are
shown as `port` does it. -/
def describe (s : Supervisor) (port : Nat → String) : String :=
  let address := fun (a : Option BoundAddress) =>
    match a with
    | none => "None"
    | some a => "Some(" ++ a.record port ++ ")"
  "Scaffold \x7b state: " ++ s.phase.name ++ ", in_flight: "
    ++ String.ofList (Text.decimal s.world.snapshot.inFlight) ++ ", primary_address: "
    ++ address s.primaryAddress ++ ", management_address: " ++ address s.managementAddress
    ++ " \x7d"

end Supervisor

end GracefulService
