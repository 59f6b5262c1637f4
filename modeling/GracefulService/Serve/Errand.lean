import GracefulService.Lifecycle.Snapshot
import GracefulService.Serve.Site

/-!
# Errands

What the tasks of a running service are about. An errand goes through stages; in each it waits for a
condition on the snapshot, for a moment in time, or for other tasks. Every stage brings the errand
closer to its end, so the stages that are left bound what a task can still do.
-/

namespace GracefulService

open Http

/-- A moment that a task waits for. -/
structure Timer where
  /-- The moment. -/
  deadline : Nat
  /-- When it was set, in the order of all timers. -/
  ticket : Nat
deriving DecidableEq, Repr, Inhabited

/-- What follows when a drain is over. -/
inductive Sequel where
  /-- The cause is reported. -/
  | report
  /-- The servers of the surfaces are closed, then the cause is reported. -/
  | close (surfaces : List Surface)
deriving DecidableEq, Repr, Inhabited

/-- How far a delegate is with a request. -/
inductive Progress where
  /-- It has answered. -/
  | done (response : Response)
  /-- It answers at a moment. -/
  | paused (timer : Timer) (response : Response)
  /-- It answers once it is told to go on. -/
  | held (key : String) (response : Response)
deriving DecidableEq, Repr, Inhabited

/-- A request that holds a slot. -/
structure Exchange where
  /-- Where it arrived. -/
  surface : Surface
  /-- The request, with its id. -/
  request : Request
  /-- Which methods the delegate serves, where it does not serve this one. -/
  allow : Option String
  /-- How far the delegate is. -/
  progress : Progress
deriving DecidableEq, Repr, Inhabited

/-- What a task is about. -/
inductive Errand where
  /-- It waits until a phase is reached. -/
  | awaitPhase (target : Phase)
  /-- It waits until the requests in flight are given up. -/
  | awaitAbandonment
  /-- A drain waits for the shutdown. -/
  | awaitShutdown (sequel : Sequel)
  /-- A drain waits for the last request in flight, or for the end of its window. -/
  | awaitIdle (sequel : Sequel) (timer : Timer)
  /-- A drain has made its last step forward and has to read the cause. -/
  | readCause (sequel : Sequel)
  /-- The servers that are left are closed, or given up at the end of their grace. -/
  | closeServers (cause : Cause) (timer : Timer) (surfaces : List Surface)
  /-- A server begins; its socket takes connections already. -/
  | startServer (surface : Surface) (address : BoundAddress)
  /-- A server takes connections at its address until the service stops. -/
  | serve (surface : Surface) (address : BoundAddress)
  /-- A server waits for its last connection. -/
  | finishServer (surface : Surface)
  /-- It waits for a signal, which begins the shutdown, or for the stop. -/
  | watchSignals (caught : Option String)
  /-- A request arrives. -/
  | arrive (surface : Surface) (request : Request)
  /-- A request holds a slot. -/
  | exchange (exchange : Exchange)
deriving DecidableEq, Repr, Inhabited

/-- How many stages a sequel has. -/
def Sequel.stages : Sequel → Nat
  | report => 0
  | close surfaces => surfaces.length + 1

namespace Errand

/-- How many stages are left, the present one included. -/
def stages : Errand → Nat
  | awaitPhase _ | awaitAbandonment => 1
  | awaitShutdown sequel => sequel.stages + 3
  | awaitIdle sequel _ => sequel.stages + 2
  | readCause sequel => sequel.stages + 1
  | closeServers _ _ surfaces => surfaces.length + 1
  | startServer .. => 3
  | serve .. => 2
  | finishServer _ => 1
  | watchSignals _ => 1
  | arrive .. => 2
  | exchange _ => 1

/-- The moment that an errand waits for. -/
def timer? : Errand → Option Timer
  | awaitIdle _ timer => some timer
  | closeServers _ timer _ => some timer
  | exchange x =>
    match x.progress with
    | .paused timer _ => some timer
    | _ => none
  | _ => none

/-- An errand that waits for a condition on the snapshot. -/
def watchesSnapshot : Errand → Bool
  | awaitPhase _ | awaitAbandonment | awaitShutdown _ | awaitIdle .. | serve .. | watchSignals _
  | exchange _ => true
  | _ => false

/-- An errand that waits for other tasks. -/
def watchesTasks : Errand → Bool
  | closeServers .. | finishServer _ => true
  | _ => false

/-- The surface of a server. -/
def server? : Errand → Option Surface
  | startServer surface _ => some surface
  | serve surface _ => some surface
  | finishServer surface => some surface
  | _ => none

/-- The surface whose connection an errand keeps open. -/
def connection? : Errand → Option Surface
  | arrive surface _ => some surface
  | exchange x => some x.surface
  | _ => none

end Errand

/-- Who answered a request. -/
inductive Answerer where
  /-- A control route. -/
  | control
  /-- The delegate. -/
  | delegate
  /-- The gate, which gave it no slot. -/
  | gate
  /-- The gate, which took its slot away. -/
  | abandonment
  /-- Nobody knows the path. -/
  | nobody
deriving DecidableEq, Repr, Inhabited

/-- How a task ended. -/
inductive Outcome where
  /-- The phase was reached. -/
  | reached
  /-- The requests in flight were given up. -/
  | abandoned
  /-- The drain is over. -/
  | drained (cause : Cause)
  /-- The service has stopped. -/
  | stopped (cause : Cause)
  /-- The server has closed. -/
  | closed (surface : Surface)
  /-- No signal is waited for any more. -/
  | watched
  /-- The request was answered. -/
  | answered (answerer : Answerer) (response : Response)
  /-- The task was cancelled. -/
  | cancelled
deriving DecidableEq, Repr, Inhabited

/-- Who started a task. -/
inductive Owner where
  /-- A caller, who knows it by an id. -/
  | caller (id : String)
  /-- The service itself. -/
  | service
deriving DecidableEq, Repr, Inhabited

/-- The end of a task. -/
structure Ending where
  /-- The number of the task. -/
  serial : Nat
  /-- Who started it. -/
  owner : Owner
  /-- How it ended. -/
  outcome : Outcome
deriving DecidableEq, Repr, Inhabited

/-- A task. -/
structure Task where
  /-- How many tasks were started before it; no two tasks share this number. -/
  serial : Nat
  /-- Who started it. -/
  owner : Owner
  /-- What it is about. -/
  errand : Errand
  /-- Its turn will come. -/
  woken : Bool
  /-- It looks at the snapshot at its next turn. -/
  looks : Bool
deriving DecidableEq, Repr, Inhabited

namespace Task

/-- A task at the beginning of a stage looks at everything. -/
def goOn (task : Task) (errand : Errand) : Task :=
  { task with errand := errand, woken := true, looks := true }

/-- A task at the beginning of its first stage. -/
def fresh (serial : Nat) (owner : Owner) (errand : Errand) : Task :=
  ⟨serial, owner, errand, true, true⟩

/-- A task that waits looks again only when it is told to. -/
def asleep (task : Task) : Task := { task with woken := false, looks := false }

/-- A task is told that the snapshot has changed. -/
def notice (task : Task) : Task :=
  if task.errand.watchesSnapshot then { task with woken := true, looks := true } else task

/-- A task is told that another task has ended. -/
def noticeTask (task : Task) : Task :=
  if task.errand.watchesTasks then { task with woken := true } else task

/-- A task is told that its moment has come. -/
def noticeTime (timer : Timer) (task : Task) : Task :=
  if task.errand.timer? = some timer then { task with woken := true } else task

/-- A task is over. -/
def ending (task : Task) (outcome : Outcome) : Ending := ⟨task.serial, task.owner, outcome⟩

/-- The first task of some kind, and the others. -/
def takeFirst (kind : Task → Bool) : List Task → Option (Task × List Task)
  | [] => none
  | task :: tasks =>
    if kind task then some (task, tasks)
    else (takeFirst kind tasks).map fun (taken, others) => (taken, task :: others)

/-- The first task of a kind is taken from between those before it and those after it. -/
theorem takeFirst_eq_some {kind : Task → Bool} {tasks others : List Task} {task : Task}
    (h : takeFirst kind tasks = some (task, others)) :
    ∃ before after, tasks = before ++ task :: after ∧ others = before ++ after
      ∧ kind task = true ∧ ∀ other ∈ before, kind other = false := by
  induction tasks generalizing others with
  | nil => cases h
  | cons first tasks ih =>
    simp only [takeFirst] at h
    split at h
    · rename_i fits
      cases Option.some.inj h
      exact ⟨[], tasks, rfl, rfl, fits, by simp⟩
    · rename_i misfit
      obtain ⟨⟨taken, rest⟩, found, same⟩ := Option.map_eq_some_iff.1 h
      cases same
      obtain ⟨before, after, rfl, rfl, fits, misfits⟩ := ih found
      refine ⟨first :: before, after, rfl, rfl, fits, ?_⟩
      intro other member
      rcases List.mem_cons.1 member with rfl | member
      · simpa using misfit
      · exact misfits other member

/-- A task is the first of its kind where none before it is. -/
theorem takeFirst_split {kind : Task → Bool} {before : List Task} {task : Task}
    (misfits : ∀ other ∈ before, kind other = false) (fits : kind task = true) (after : List Task) :
    takeFirst kind (before ++ task :: after) = some (task, before ++ after) := by
  induction before with
  | nil => simp only [List.nil_append, takeFirst, if_pos fits]
  | cons first before ih =>
    have misfit : ¬kind first = true := by
      rw [misfits first List.mem_cons_self]
      exact Bool.false_ne_true
    have rest := ih fun other member => misfits other (List.mem_cons_of_mem _ member)
    simp only [List.cons_append, takeFirst, if_neg misfit, rest, Option.map_some]

/-- No task is taken where there is none of the kind. -/
theorem takeFirst_eq_none {kind : Task → Bool} {tasks : List Task} :
    takeFirst kind tasks = none ↔ ∀ task ∈ tasks, kind task = false := by
  induction tasks with
  | nil => simp [takeFirst]
  | cons first tasks ih =>
    simp only [takeFirst, List.forall_mem_cons]
    cases fits : kind first <;> simp [ih]

end Task

end GracefulService
