import GracefulService.Serve.World

/-!
# Turns

A task that was told to look takes a turn: it ends, goes on to its next stage, or finds that it still
has to wait and changes nothing. What a task waits for on the snapshot it looks at only when a stage
begins or a change was announced; what it waits for in time it always sees.
-/

namespace GracefulService

open Http

/-- What becomes of a task. -/
inductive Next where
  /-- It goes on with its next stage. -/
  | goOn (errand : Errand)
  /-- It is over. -/
  | finish (outcome : Outcome)
deriving DecidableEq, Repr, Inhabited

namespace World

/-- A moment has come. -/
def isDue (w : World) (timer : Timer) : Bool := decide (timer.deadline ≤ w.clock)

/-- The cause of a shutdown that has begun. -/
def causeNow (w : World) : Cause := Cause.orManual w.snapshot.cause

/-- The report of a probe goes out: it is counted, and logged when its code says that something is
wrong. -/
def answerProbe (w : World) (probe : Probe) (request : Request) : World × Response :=
  let report := probe.report w.snapshot.phase w.checkup
  let w := w.record (.probe probe report.status)
  let w := if 500 ≤ probe.code report.status then w.tell (.probeUnhealthy probe report) else w
  (w, report.respond probe request.bodyFormat)

/-- The answer to a mark-down. -/
def markedDown : Response := .text 200 "Marked down"

/-- The mark-down begins the shutdown. -/
def answerMarkdown (policy : WakePolicy) (w : World) : World × Response :=
  let (w, started) := w.beginDrain policy .markedDown
  (if started then w.tell .markedDown else w, markedDown)

/-- A control route answers. -/
def answerControl (policy : WakePolicy) (w : World) (action : Control) (request : Request) :
    World × Response :=
  match action with
  | .probe probe => w.answerProbe probe request
  | .markdown => w.answerMarkdown policy

/-- The delegate begins to work on a request. Where it breaks, that is answered for it. -/
def beginWork (w : World) : Work → World × Progress
  | .answer response => (w, .done response)
  | .broken => (w, .done .panicked)
  | .pause milliseconds response =>
    let (w, timer) := w.setTimer milliseconds
    (w, .paused timer response)
  | .hold key response => (w, .held key response)

/-- A request gives its slot back and is answered. -/
def endExchange (policy : WakePolicy) (w : World) (x : Exchange) (answerer : Answerer)
    (response : Response) : World × Next :=
  (w.release policy,
    .finish (.answered answerer (response.leave x.surface x.request x.request.isRooted x.allow)))

/-- A request that got a slot goes to the delegate. Where that answers at once, the slot is given back in the
same turn. -/
def handOver (policy : WakePolicy) (w : World) (surface : Surface) (request : Request)
    (handling : Handling) : World × Next :=
  let (w, progress) := (w.call request).beginWork handling.work
  let x : Exchange := ⟨surface, request, handling.allow, progress⟩
  match progress with
  | .done response => w.endExchange policy x .delegate response
  | _ => (w, .goOn (.exchange x))

/-- A request arrives at the gate and gets a slot, or is turned away. -/
def passGate (setup : Setup) (w : World) (surface : Surface) (request : Request) : World × Next :=
  let handling := setup.site.delegate request
  match w.enter setup.policy with
  | (w, true) => w.handOver setup.policy surface request handling
  | (w, false) =>
    (w, .finish (.answered .gate
      (Response.unavailable.leave surface request request.isRooted handling.allow)))

/-- On the primary surface every request gets an id. -/
def identify (w : World) (surface : Surface) (request : Request) : World × Request :=
  match surface, request.id? with
  | .primary, none =>
    let (w, id) := w.freshId
    (w, request.withId id)
  | _, _ => (w, request)

/-- A request arrives. -/
def receive (setup : Setup) (w : World) (surface : Surface) (request : Request) : World × Next :=
  let (w, request) := w.identify surface request
  match setup.site.destination surface request with
  | .control action =>
    let (w, response) := w.answerControl setup.policy action request
    (w, .finish (.answered .control (response.leave surface request true none)))
  | .otherMethods allowed =>
    (w, .finish (.answered .control
      ((Response.bare 405).leave surface request true (some allowed))))
  | .gate => w.passGate setup surface request
  | .nowhere =>
    (w, .finish (.answered .nobody ((Response.bare 404).leave surface request false none)))

/-- A request holds a slot. What the delegate has to say comes before abandonment. -/
def turnExchange (policy : WakePolicy) (w : World) (looks : Bool) (x : Exchange) :
    Option (World × Next) :=
  let whenAbandoned :=
    if looks ∧ w.snapshot.abandoned then
      some (w.endExchange policy x .abandonment .unavailable)
    else none
  match x.progress with
  | .done response => some (w.endExchange policy x .delegate response)
  | .paused timer response =>
    if w.isDue timer then some (w.endExchange policy x .delegate response) else whenAbandoned
  | .held .. => whenAbandoned

/-- A drain is over: the service stops. Where it has stopped already, nothing changes. -/
def endDrain (policy : WakePolicy) (w : World) (sequel : Sequel) : World × Next :=
  ((w.advance policy .stopped).1, .goOn (.readCause sequel))

/-- A drain that is over reads the cause, and what follows begins. -/
def turnReadCause (setup : Setup) (w : World) : Sequel → World × Next
  | .report => (w, .finish (.drained w.causeNow))
  | .close surfaces =>
    let cause := w.causeNow
    let (w, timer) := w.setTimer setup.grace
    (w, .goOn (.closeServers cause timer surfaces))

/-- A drain waits for the last request in flight, or for the end of its window. -/
def turnAwaitIdle (setup : Setup) (w : World) (looks : Bool) (sequel : Sequel) (timer : Timer) :
    Option (World × Next) :=
  if looks ∧ w.snapshot.inFlight = 0 then some (w.endDrain setup.policy sequel)
  else if w.isDue timer then
    some ((w.tell (.windowElapsed w.snapshot.inFlight setup.window)).endDrain setup.policy sequel)
  else none

/-- A server runs on a surface. -/
def hasServer (w : World) (surface : Surface) : Bool :=
  w.tasks.any fun task => task.errand.server? = some surface

/-- A connection is open on a surface. -/
def hasConnection (w : World) (surface : Surface) : Bool :=
  w.tasks.any fun task => task.errand.connection? = some surface

/-- The server of a surface is given up. -/
def abortServer (w : World) (surface : Surface) : World :=
  { w with tasks := w.tasks.filter fun task => task.errand.server? ≠ some surface }

/-- The servers that are left are closed one after the other. At the end of the grace requests in
flight are given up, and so is the server. -/
def turnCloseServers (policy : WakePolicy) (w : World) (cause : Cause) (timer : Timer) :
    List Surface → Option (World × Next)
  | [] => some (w.tell (.scaffoldStopped cause), .finish (.stopped cause))
  | surface :: surfaces =>
    let next := Next.goOn (.closeServers cause timer surfaces)
    if !w.hasServer surface then some (w, next)
    else if w.isDue timer then
      let (w, _) := (w.tell .serverOverdue).abandon policy
      some (w.abortServer surface, next)
    else none

/-- It waits for a signal or for the stop. -/
def turnWatchSignals (policy : WakePolicy) (w : World) (looks : Bool) :
    Option String → Option (World × Next)
  | some name =>
    let (w, _) := (w.tell (.signalReceived name)).beginDrain policy (.signal name)
    some (w, .finish .watched)
  | none =>
    if looks ∧ w.snapshot.phase.hasReached .stopped then some (w, .finish .watched) else none

/-- A task takes a turn; nothing comes of it when the task has to wait. The world is what there is
beside the task. -/
def turn (setup : Setup) (w : World) (looks : Bool) : Errand → Option (World × Next)
  | .awaitPhase target =>
    if looks ∧ w.snapshot.phase.hasReached target then some (w, .finish .reached) else none
  | .awaitAbandonment =>
    if looks ∧ w.snapshot.abandoned then some (w, .finish .abandoned) else none
  | .awaitShutdown sequel =>
    if looks ∧ w.snapshot.phase.isShuttingDown then
      let (w, timer) := w.setTimer setup.window
      some (w, .goOn (.awaitIdle sequel timer))
    else none
  | .awaitIdle sequel timer => w.turnAwaitIdle setup looks sequel timer
  | .readCause sequel => some (w.turnReadCause setup sequel)
  | .closeServers cause timer surfaces => w.turnCloseServers setup.policy cause timer surfaces
  | .startServer surface address =>
    some (w.tell (.serverStarting surface.name address.display), .goOn (.serve surface address))
  | .serve surface _ =>
    if looks ∧ w.snapshot.phase.hasReached .stopped then some (w, .goOn (.finishServer surface))
    else none
  | .finishServer surface =>
    if w.hasConnection surface then none
    else some (w.tell (.serverStopped surface.name), .finish (.closed surface))
  | .watchSignals caught => w.turnWatchSignals setup.policy looks caught
  | .arrive surface request => some (w.receive setup surface request)
  | .exchange x => w.turnExchange setup.policy looks x

end World

end GracefulService
