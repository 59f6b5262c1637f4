import GracefulService.Serve.Clock

/-!
# Scripts

A service is driven step by step from outside: callers change its phase, hold and give back slots, start
tasks, send requests, let time pass and ask what it knows. After each step all tasks take their turns,
and what has become visible is written down.
-/

namespace GracefulService

open Http

/-- What a caller does with a service. -/
inductive Step where
  /-- Steps forward. -/
  | advance (target : Phase)
  /-- Asks for a slot and keeps it under an id. -/
  | enter (id : String)
  /-- Gives back the slot with an id. -/
  | leave (id : String)
  /-- Begins the shutdown. -/
  | beginDrain (cause : Cause)
  /-- Gives up the requests in flight. -/
  | abandon
  /-- Starts a drain. -/
  | drain (id : String)
  /-- Waits for a phase. -/
  | awaitPhase (id : String) (target : Phase)
  /-- Waits until the requests in flight are given up. -/
  | awaitAbandonment (id : String)
  /-- Sends a request; one that cannot be sent is none. -/
  | request (id : String) (surface : Surface) (request : Option Request)
  /-- Cancels a task. -/
  | cancel (id : String)
  /-- Lets some milliseconds pass. -/
  | sleep (milliseconds : Nat)
  /-- Changes what the health check answers. -/
  | health (checkup : Checkup)
  /-- Asks for a report. -/
  | report (probe : Probe)
  /-- Asks for the recorded numbers. -/
  | metrics
  /-- Asks for the health check and the phase. -/
  | inspect
deriving DecidableEq, Repr, Inhabited

/-- What a caller gets for a step. -/
inductive StepResult where
  /-- Nothing. -/
  | nothing
  /-- It was done. -/
  | done
  /-- Whether it was done. -/
  | whether (did : Bool)
  /-- The step forward is not allowed from this phase. -/
  | illegal (phase : Phase)
  /-- There was no slot in this phase. -/
  | rejected (phase : Phase)
  /-- The request could not be sent. -/
  | unsendable
  /-- A report with its code. -/
  | reported (report : Report) (code : Nat)
  /-- The recorded numbers. -/
  | numbers (published : List (String × Nat))
  /-- Whether a health check is installed, the phase, and the window. -/
  | inspected (hasCheck : Bool) (phase : Phase) (window : Nat)
deriving DecidableEq, Repr, Inhabited

/-- The words for a request that finds no slot. -/
def rejectedMessage (phase : Phase) : String :=
  "request rejected while service is " ++ phase.name

/-- What is visible after a step. -/
structure StepRecord where
  /-- What the caller got. -/
  result : StepResult
  /-- The snapshot. -/
  snapshot : Snapshot
  /-- The tasks of callers that ended during the step. -/
  ended : List (String × Outcome)
  /-- The tasks of callers that go on, in the order of their ids. -/
  pending : List String
  /-- What happened during the step. -/
  log : List Event
deriving DecidableEq, Repr, Inhabited

namespace World

/-- A caller gives back the slot with an id; says whether it held one. -/
def leaveGuard (policy : WakePolicy) (w : World) (id : String) : World × Bool :=
  if w.guards.contains id then
    ({ w with guards := w.guards.erase id }.release policy, true)
  else (w, false)

/-- A caller keeps a slot under an id; the one it kept under the same id is given back. -/
def keepGuard (policy : WakePolicy) (w : World) (id : String) : World :=
  let (w, _) := w.leaveGuard policy id
  { w with guards := w.guards ++ [id] }

/-- A task holds a slot. -/
def holdsSlot (errand : Errand) : Bool :=
  match errand with
  | .exchange _ => true
  | _ => false

/-- A caller cancels its task; says whether it had one. A slot that the task held is given back. -/
def cancel (policy : WakePolicy) (w : World) (id : String) : World × Bool :=
  match Task.takeFirst (fun task => task.owner = .caller id) w.tasks with
  | none => (w, false)
  | some (task, others) =>
    let w := { w with tasks := others }
    let w := if holdsSlot task.errand then w.release policy else w
    (w.conclude (task.ending .cancelled), true)

/-- A caller takes a step. -/
def act (setup : Setup) (w : World) : Step → World × StepResult
  | .advance target =>
    match w.advance setup.policy target with
    | (w, true) => (w, .done)
    | (w, false) => (w, .illegal w.snapshot.phase)
  | .enter id =>
    match w.enter setup.policy with
    | (w, true) => (w.keepGuard setup.policy id, .done)
    | (w, false) => (w, .rejected w.snapshot.phase)
  | .leave id =>
    let (w, did) := w.leaveGuard setup.policy id
    (w, .whether did)
  | .beginDrain cause =>
    let (w, did) := w.beginDrain setup.policy cause
    (w, .whether did)
  | .abandon =>
    let (w, did) := w.abandon setup.policy
    (w, .whether did)
  | .drain id => (w.start (.caller id) (.awaitShutdown .report), .nothing)
  | .awaitPhase id target => (w.start (.caller id) (.awaitPhase target), .nothing)
  | .awaitAbandonment id => (w.start (.caller id) .awaitAbandonment, .nothing)
  | .request _ _ none => (w, .unsendable)
  | .request id surface (some request) =>
    (w.start (.caller id) (.arrive surface request), .nothing)
  | .cancel id =>
    let (w, did) := w.cancel setup.policy id
    (w, .whether did)
  | .sleep milliseconds => (w.elapse setup (w.clock + milliseconds), .nothing)
  | .health checkup =>
    if w.checkup.isSome then ({ w with checkup := some checkup }, .whether true)
    else (w, .whether false)
  | .report probe =>
    let report := probe.report w.snapshot.phase w.checkup
    (w, .reported report (probe.code report.status))
  | .metrics => (w, .numbers w.meters.published)
  | .inspect => (w, .inspected w.checkup.isSome w.snapshot.phase setup.window)

/-- The ids of callers among the owners of tasks. -/
def callerId? : Owner → Option String
  | .caller id => some id
  | .service => none

/-- The tasks of callers that go on, in the order of their ids. -/
def pending (w : World) : List String :=
  (w.tasks.filterMap fun task => callerId? task.owner).mergeSort fun a b => decide (a ≤ b)

/-- What has become visible since an earlier time. -/
def since (before after : World) (result : StepResult) : StepRecord :=
  { result := result
    snapshot := after.snapshot
    ended := (after.finished.drop before.finished.length).filterMap fun ending =>
      (callerId? ending.owner).map fun id => (id, ending.outcome)
    pending := after.pending
    log := after.log.drop before.log.length }

/-- A step of a caller and the turns that follow it. -/
def take (setup : Setup) (w : World) (step : Step) : World × StepRecord :=
  let (acted, result) := w.act setup step
  let settled := acted.settle setup
  (settled, since w settled result)

/-- A script, step by step. -/
def perform (setup : Setup) (w : World) : List Step → List StepRecord
  | [] => []
  | step :: steps =>
    let (w, record) := w.take setup step
    record :: perform setup w steps

end World

end GracefulService
