import GracefulService.Document
import GracefulService.Health.Report
import GracefulService.Lifecycle.Cause

/-!
# Log events

Everything a service writes to its log: what happened, how important it is, which part of the service
says so, and the values that belong to it.
-/

namespace GracefulService

/-- How important an event is. -/
inductive Level where
  /-- Something broke. -/
  | error
  /-- Something ended before it was done. -/
  | warn
  /-- A step in the life of the service. -/
  | info
  /-- A request that was turned away or an answer that was not healthy. -/
  | debug
  /-- Every single slot. -/
  | trace
deriving DecidableEq, Repr, Inhabited

namespace Level

/-- The name of a level, as it stands in the log. -/
def name : Level → String
  | error => "ERROR"
  | warn => "WARN"
  | info => "INFO"
  | debug => "DEBUG"
  | trace => "TRACE"

/-- How much is written when events up to this level are. -/
def verbosity : Level → Nat
  | error => 1
  | warn => 2
  | info => 3
  | debug => 4
  | trace => 5

end Level

/-- A value that belongs to an event. -/
inductive Detail where
  /-- A value in words. -/
  | shown (text : String)
  /-- A text, which a line for people puts between quotes. -/
  | named (text : String)
  /-- A number. -/
  | counted (n : Nat)
deriving DecidableEq, Repr, Inhabited

/-- The parts of a service that write to the log. -/
inductive Reporter where
  /-- The program around the service. -/
  | program
  /-- The servers. -/
  | server
  /-- The mark-down route. -/
  | markdown
  /-- The probes. -/
  | probe
  /-- The supervisor. -/
  | supervisor
  /-- The shared snapshot. -/
  | drain
  /-- The signal watchers. -/
  | signals
  /-- The listeners. -/
  | listener
  /-- The metrics endpoint. -/
  | metrics
deriving DecidableEq, Repr, Inhabited

/-- The name of a part, as it stands in the log. -/
def Reporter.target : Reporter → String
  | program => "service_scaffold"
  | server => "service_scaffold::http::server"
  | markdown => "service_scaffold::http::markdown"
  | probe => "service_scaffold::health::probe"
  | supervisor => "service_scaffold::lifecycle::controller"
  | drain => "service_scaffold::lifecycle::drain"
  | signals => "service_scaffold::lifecycle::signals"
  | listener => "service_scaffold::net::listener"
  | metrics => "service_scaffold::observability::metrics"

/-- What can happen in the life of a service. -/
inductive Event where
  /-- The service took a step. -/
  | phaseChanged (before after : Phase)
  /-- A request got no slot. -/
  | requestRejected (phase : Phase)
  /-- Shutdown began. -/
  | drainStarted (before : Phase) (inFlight : Nat) (cause : Cause)
  /-- Shutdown had begun before. -/
  | shutdownIgnored (phase : Phase)
  /-- Requests were still in flight when the window ended. -/
  | windowElapsed (inFlight window : Nat)
  /-- Requests in flight are given up. -/
  | abandoning (inFlight : Nat)
  /-- A request gave its slot back. -/
  | slotReleased
  /-- A slot was given back that nobody held. -/
  | slotMissing
  /-- A probe answered with an error status. -/
  | probeUnhealthy (probe : Probe) (report : Report)
  /-- The mark-down route began the shutdown. -/
  | markedDown
  /-- A surface was bound. -/
  | listenerBound (surface requested address : String)
  /-- A server takes connections. -/
  | serverStarting (surface address : String)
  /-- A server has closed. -/
  | serverStopped (surface : String)
  /-- A server did not close in time. -/
  | serverOverdue
  /-- Shutdown began between opening and listening. -/
  | servingSkipped (phase : Phase)
  /-- The service has stopped. -/
  | scaffoldStopped (cause : Cause)
  /-- A signal arrived. -/
  | signalReceived (name : String)
  /-- The program starts. -/
  | programStarting (version : String)
  /-- The configuration is known. -/
  | configurationLoaded (primary : String) (management : Option String) (window : Nat)
  /-- Metrics can be fetched. -/
  | metricsStarted (address : String)
  /-- The surfaces are open. -/
  | surfacesOpen (primary management : Option String)
  /-- The program ends. -/
  | shutdownComplete (cause : Cause)
deriving DecidableEq, Repr, Inhabited

namespace Event

/-- A text that may be absent, as it stands in the log. -/
def optional (text : Option String) : String :=
  match text with
  | some text => "Some(" ++ Text.quoted text ++ ")"
  | none => "None"

/-- How important an event is. -/
def level : Event → Level
  | requestRejected .. | shutdownIgnored .. | probeUnhealthy .. => .debug
  | windowElapsed .. | abandoning .. | serverOverdue => .warn
  | slotReleased => .trace
  | slotMissing => .error
  | _ => .info

/-- Which part of the service says so. -/
def reporter : Event → Reporter
  | phaseChanged .. | requestRejected .. | drainStarted .. | shutdownIgnored .. | windowElapsed ..
  | abandoning .. | slotReleased | slotMissing => .drain
  | probeUnhealthy .. => .probe
  | markedDown => .markdown
  | listenerBound .. => .listener
  | serverStarting .. | serverStopped .. => .server
  | serverOverdue | servingSkipped .. | scaffoldStopped .. => .supervisor
  | signalReceived .. => .signals
  | metricsStarted .. => .metrics
  | programStarting .. | configurationLoaded .. | surfacesOpen .. | shutdownComplete .. => .program

/-- What happened, in words. -/
def message : Event → String
  | phaseChanged .. => "Service state changed"
  | requestRejected .. => "Request rejected"
  | drainStarted .. => "Drain started"
  | shutdownIgnored .. => "Shutdown already requested, ignoring"
  | windowElapsed .. => "Drain window elapsed with requests in flight, forcing stop"
  | abandoning .. => "Abandoning requests still in flight"
  | slotReleased => "In-flight slot released"
  | slotMissing => "In-flight counter released below zero"
  | probeUnhealthy .. => "Probe unhealthy"
  | markedDown => "Marked down over HTTP"
  | listenerBound .. => "Listener bound"
  | serverStarting .. => "HTTP server starting"
  | serverStopped .. => "HTTP server stopped"
  | serverOverdue => "Server did not close within grace period, aborting"
  | servingSkipped .. => "Shutdown requested before serving began"
  | scaffoldStopped .. => "Scaffold stopped"
  | signalReceived .. => "Shutdown signal received"
  | programStarting version => "service-scaffold v" ++ version ++ " starting"
  | configurationLoaded .. => "Configuration loaded"
  | metricsStarted .. => "Metrics endpoint started"
  | surfacesOpen .. => "Listening for connections"
  | shutdownComplete .. => "Shutdown complete"

/-- The values that belong to an event, by name. -/
def details : Event → List (String × Detail)
  | phaseChanged before after => [("from", .shown before.name), ("to", .shown after.name)]
  | requestRejected phase => [("state", .shown phase.name)]
  | drainStarted before inFlight cause =>
    [("from", .shown before.name), ("in_flight", .counted inFlight),
      ("cause", .shown ("Some(" ++ cause.record ++ ")"))]
  | shutdownIgnored phase => [("state", .shown phase.name)]
  | windowElapsed inFlight window =>
    [("in_flight", .counted inFlight), ("max_drain_ms", .counted window)]
  | abandoning inFlight => [("in_flight", .counted inFlight)]
  | slotReleased | slotMissing | markedDown | serverOverdue | programStarting .. => []
  | probeUnhealthy probe report =>
    [("probe", .named probe.name), ("status", .shown report.status.name),
      ("reason", .shown report.reason)]
  | listenerBound surface requested address =>
    [("surface", .shown surface), ("requested", .shown requested), ("address", .shown address)]
  | serverStarting surface address => [("surface", .shown surface), ("address", .shown address)]
  | serverStopped surface => [("surface", .shown surface)]
  | servingSkipped phase => [("state", .shown phase.name)]
  | scaffoldStopped cause => [("cause", .shown cause.describe)]
  | signalReceived name => [("signal", .named name)]
  | configurationLoaded primary management window =>
    [("primary", .shown primary), ("management", .shown (optional management)),
      ("drain_timeout_ms", .counted window)]
  | metricsStarted address => [("address", .shown address)]
  | surfacesOpen primary management =>
    [("primary", .shown (optional primary)), ("management", .shown (optional management))]
  | shutdownComplete cause => [("cause", .shown cause.describe)]

end Event

namespace Detail

/-- A value as a document. -/
def toDocument : Detail → Document
  | shown text => .text text
  | named text => .text text
  | counted n => .integer n

/-- A value without quotes. -/
def bare : Detail → String
  | shown text => text
  | named text => text
  | counted n => String.ofList (Text.decimal n)

/-- A value for people. -/
def plain : Detail → String
  | shown text => text
  | named text => Text.quoted text
  | counted n => String.ofList (Text.decimal n)

end Detail

namespace Event

/-- The values of an event behind its message. -/
def tail (write : Detail → String) (event : Event) : String :=
  event.details.foldl (fun line (name, value) => line ++ " " ++ name ++ "=" ++ write value) ""

/-- An event without the part that reports it. -/
def briefLine (event : Event) : String :=
  event.level.name ++ " " ++ event.message ++ event.tail Detail.bare

/-- An event on a line for people. -/
def plainLine (event : Event) : String :=
  event.level.name ++ " " ++ event.reporter.target ++ ": " ++ event.message
    ++ event.tail Detail.plain

/-- An event on a line for programs, all names in ascending order. -/
def structuredLine (event : Event) : String :=
  let fields := (("message", Detail.shown event.message) :: event.details).mergeSort
    fun a b => a.1 ≤ b.1
  Json.compact (.table [
    ("fields", .table (fields.map fun (name, value) => (name, value.toDocument))),
    ("level", .text event.level.name),
    ("target", .text event.reporter.target)])

end Event

end GracefulService
