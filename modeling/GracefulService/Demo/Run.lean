import GracefulService.Config.Reading
import GracefulService.Demo.Arguments
import GracefulService.Record.Filter
import GracefulService.Supervisor.Script

/-!
# The demonstration

A supervised service with a delegate that does nothing but delay. It reads its configuration, opens its
surfaces, serves until a signal arrives, and stops in order. What clients do while it serves is given
beforehand, so that the whole demonstration is one function of its surroundings.
-/

namespace GracefulService.Demo

open Http

/-- What the demonstration finds around it. -/
structure Surroundings where
  /-- The machine it runs on. -/
  machine : Machine
  /-- What comes of reading a file. -/
  fetchFile : String → Except FileFault ByteArray
  /-- What clients ask while it serves, one after the other. -/
  requests : List (Surface × Option Request)
  /-- The signal that follows them. -/
  signal : String

/-- Why the demonstration ends before its time. -/
inductive Fault where
  /-- It does not understand its arguments. -/
  | usage
  /-- There is no configuration. -/
  | config (fault : ConfigFault)
  /-- Metrics cannot be fetched. -/
  | metrics (fault : SocketFault)
  /-- The service cannot be opened or listened on. -/
  | service (fault : ServiceFault)
  /-- The routes cannot be built. -/
  | routes (fault : RouteFault)
deriving DecidableEq, Repr, Inhabited

namespace Fault

/-- The words for routes that cannot be built. -/
def routesText : String := "Error: the routes cannot be built"

/-- What the error output says about a fault. -/
def message : Fault → String
  | usage => usageText
  | config fault => "Error: " ++ fault.record
  | metrics fault => "Error: FailedToCreateHTTPListener(" ++ Text.quoted fault.message ++ ")"
  | service fault => "Error: " ++ fault.record
  | routes _ => routesText

/-- The exit code of a fault. -/
def exit : Fault → Nat
  | usage => 2
  | routes _ => 101
  | _ => 1

end Fault

/-- What the demonstration leaves behind. -/
structure Ending where
  /-- Why it ended before its time. -/
  fault : Option Fault
  /-- What it says about itself. -/
  output : String
  /-- What clients were answered. -/
  answers : List SupervisorResult
  /-- The lines of its log. -/
  log : List String
  /-- The addresses that were asked for and those that were bound instead. -/
  bound : List (String × String)

/-- The exit code. -/
def Ending.exit (ending : Ending) : Nat := (ending.fault.map Fault.exit).getD 0

/-- The version of the service. -/
def version : String := "0.1.0"

/-- What is written when the configuration is known. -/
def announce (config : Config) (w : World) : World :=
  (w.tell (.programStarting version)).tell
    (.configurationLoaded config.listener.bindAddress (config.management.map Listener.bindAddress)
      config.drain.window)

/-- Metrics can be fetched from now on, if they are enabled. -/
def openMetrics (s : Supervisor) : Except Fault Supervisor :=
  if s.config.observability.metricsEnabled then
    match Net.SocketAddress.read? s.config.observability.metricsAddress.toList with
    | none => .error (.config (.unsound [.metricsAddress s.config.observability.metricsAddress]))
    | some socket =>
      match s.machine.bindSocket [] socket with
      | .error fault => .error (.metrics fault)
      | .ok address =>
        let event := Event.metricsStarted (BoundAddress.ofSocket socket).display
        .ok { s with
          machine := { s.machine with taken := address :: s.machine.taken }
          world := s.world.tell event }
  else .ok s

/-- What is written when the surfaces are open. -/
def announceSurfaces (s : Supervisor) : Supervisor :=
  { s with world := s.world.tell (.surfacesOpen
      (s.primaryAddress.map BoundAddress.display) (s.managementAddress.map BoundAddress.display)) }

/-- Clients ask one after the other. -/
def askAll (r : Rehearsal) : List (Surface × Option Request) → Rehearsal × List SupervisorResult
  | [] => (r, [])
  | (surface, request) :: requests =>
    let (r, record) := r.take (.request "client" false surface request)
    let (r, answers) := askAll r requests
    (r, record.result :: answers)

/-- Clients ask, a signal arrives, and the service stops. -/
def serveUntil (r : Rehearsal) (requests : List (Surface × Option Request)) (signal : String) :
    Supervisor × List SupervisorResult :=
  let (r, answers) := askAll r requests
  let (r, _) := r.take (.signal signal)
  let (s, result) := r.supervisor.joinStep
  match result with
  | .stopped cause => ({ s with world := s.world.tell (.shutdownComplete cause) }, answers)
  | _ => (s, answers)

/-- What was asked for and what was bound, for each surface that was bound. -/
def boundSurfaces (log : List Event) : List (String × String) :=
  log.filterMap fun event =>
    match event with
    | .listenerBound _ requested address => some (requested, address)
    | _ => none

/-- What is left behind by a service. -/
def leave (s : Supervisor) (fault : Option Fault) (answers : List SupervisorResult) : Ending :=
  let observability := s.config.observability
  ⟨fault, "", answers,
    logLines (.ofLevel observability.level) observability.structuredLog s.world.log,
    boundSurfaces s.world.log⟩

/-- Serves an open service. -/
def serveOpen (s : Supervisor) (around : Surroundings) : Ending :=
  let s := (announceSurfaces s).watchSignals
  let r := Rehearsal.start s .demo
  match r.act .listen with
  | (r, .fault fault) => leave r.supervisor (some (.service fault)) []
  | (r, .broken fault) => leave r.supervisor (some (.routes fault)) []
  | (r, _) =>
    let (s, answers) := serveUntil r around.requests around.signal
    leave s none answers

/-- Serves with a configuration. -/
def serveConfig (config : Config) (around : Surroundings) : Ending :=
  let s := Supervisor.create config around.machine none
  let s := { s with world := announce config s.world }
  match openMetrics s with
  | .error fault => leave s (some fault) []
  | .ok s =>
    match s.openSurfaces with
    | (s, .error fault) => leave s (some (.service fault)) []
    | (s, .ok ()) => serveOpen s around

/-- What is left behind where nothing was served. -/
def giveUp (fault : Fault) : Ending := ⟨some fault, "", [], [], []⟩

/-- The configuration in a file, or the usual one. -/
def configFrom (around : Surroundings) : Option String → Except ConfigFault Config
  | some path => Config.load (around.fetchFile path)
  | none => .ok .usual

/-- Runs the demonstration. -/
def run (around : Surroundings) (arguments : List String) : Ending :=
  match Command.read arguments with
  | .help => ⟨none, helpText, [], [], []⟩
  | .mistake => giveUp .usage
  | .serve path =>
    match configFrom around path with
    | .error fault => giveUp (.config fault)
    | .ok config => serveConfig config around

end GracefulService.Demo
