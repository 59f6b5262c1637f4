import GracefulService.Supervisor.Listening

/-!
# Clients of a supervised service

A client reaches a service through its bound surfaces, one connection for each request. A server takes the
connection or, as long as nobody serves there, it waits at the bound socket; where nobody holds a socket any
more it is refused. A client may leave its request unfinished and come back for the answer, or go away.
-/

namespace GracefulService

open Http

/-- Why a client gets no answer. -/
inductive ReachFault where
  /-- The surface has no address. -/
  | noAddress
  /-- Nobody takes the connection. -/
  | refused
deriving DecidableEq, Repr, Inhabited

/-- Who takes a connection. -/
inductive Contact where
  /-- A server takes it. -/
  | served
  /-- It waits at a socket that is bound and not served. -/
  | queued
deriving DecidableEq, Repr, Inhabited

/-- Where a surface is bound, among bound surfaces. -/
def Sockets.addressOf (sockets : Sockets) : Surface → Option BoundAddress
  | .primary => some sockets.primary
  | .management => sockets.management

namespace Http.Request

/-- How many header lines a server reads. -/
def headerLimit : Nat := 100

/-- A request has more header lines than a server reads, the line with the host among them. -/
def isOverlong (request : Request) : Bool := headerLimit < request.headers.length + 1

end Http.Request

/-- The answer of a server to a request with too many header lines, which no route gets to see. -/
def Http.Response.overlong : Response := { bare 431 with contentLength := some 0 }

namespace Supervisor

/-- A server takes connections at an address of a surface. -/
def serves (s : Supervisor) (surface : Surface) (address : BoundAddress) : Bool :=
  s.world.tasks.any fun task =>
    task.errand = .startServer surface address || task.errand = .serve surface address

/-- A client opens a connection to an address of a surface. Besides the sockets that wait to be served there
may be others that callers hold who open the service, or who are about to serve it. -/
def contact (s : Supervisor) (others : List Sockets) (surface : Surface) (address : BoundAddress) :
    Except ReachFault Contact :=
  if !s.machine.connects then .error .refused
  else if s.serves surface address then .ok .served
  else if (s.sockets.toList ++ others).any (fun sockets => sockets.addressOf surface = some address) then
    .ok .queued
  else .error .refused

/-- A client tries to reach a surface where it is published to be. -/
def reach (s : Supervisor) (others : List Sockets) (surface : Surface) : Except ReachFault Contact :=
  match s.addressOf surface with
  | none => .error .noAddress
  | some address => s.contact others surface address

/-- A client that has reached a surface sends a request under an id. -/
def send (s : Supervisor) (id : String) (surface : Surface) (request : Request) : Supervisor :=
  { s with world := s.world.start (.caller id) (.arrive surface request) }.settle

/-- The answer to the request with an id, once there is one. -/
def answer? (s : Supervisor) (id : String) : Option Response :=
  s.world.finished.findSome? fun ending =>
    match ending.outcome with
    | .answered _ response => if ending.owner = .caller id then some response else none
    | _ => none

/-- The moment for which the request with an id waits. -/
def answerTime? (s : Supervisor) (id : String) : Option Nat :=
  s.world.tasks.findSome? fun task =>
    if task.owner = .caller id then task.errand.timer?.map Timer.deadline else none

/-- Waits for the answer to the request with an id, as long as the delegate takes. -/
def awaitAnswer (s : Supervisor) (id : String) : Supervisor × Option Response :=
  match s.answerTime? id with
  | none => (s, s.answer? id)
  | some moment =>
    let s := { s with world := s.world.elapse s.setup moment }
    (s, s.answer? id)

/-- Whatever waits for a key may go on. -/
def releaseTask (key : String) (task : Task) : Task :=
  match task.errand with
  | .exchange x =>
    match x.progress with
    | .held held response =>
      if held = key then
        { task with errand := .exchange { x with progress := .done response }, woken := true }
      else task
    | _ => task
  | _ => task

/-- Tells the delegate to go on with what waits for a key. -/
def release (s : Supervisor) (key : String) : Supervisor :=
  let tasks := s.world.tasks.map (releaseTask key)
  { s with world := { s.world with tasks := tasks } }.settle

end Supervisor

end GracefulService
