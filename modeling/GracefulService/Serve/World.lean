import GracefulService.Health.Report
import GracefulService.Record.Event
import GracefulService.Record.Meters
import GracefulService.Serve.Errand

/-!
# A running service

Everything there is while a service runs: the shared snapshot, the health check, the meters, the log,
the clock, the slots held outside the gate, and the tasks. The operations on the snapshot are written
out here with what they record: the snapshot changes in one step, tasks that wait for a condition on it
are told, and the meters and the log follow.
-/

namespace GracefulService

open Http

/-- When tasks are told that the snapshot has changed. -/
inductive WakePolicy where
  /-- When a change says that somebody may be waiting for it. -/
  | onNotice
  /-- After every change. -/
  | always
deriving DecidableEq, Repr, Inhabited

/-- What a service was built from. -/
structure Setup where
  /-- What it offers. -/
  site : Site
  /-- How long a drain waits for requests in flight, in milliseconds. -/
  window : Nat
  /-- How long servers may take to close, in milliseconds. -/
  grace : Nat
  /-- When waiting tasks are told about changes. -/
  policy : WakePolicy

/-- A running service. -/
structure World where
  /-- What all parts know about the state. -/
  snapshot : Snapshot
  /-- What the health check answers, when one is installed. -/
  checkup : Option Checkup
  /-- The recorded numbers. -/
  meters : Meters
  /-- What has happened. -/
  log : List Event
  /-- Milliseconds since the beginning. -/
  clock : Nat
  /-- How many timers have been set. -/
  tickets : Nat
  /-- The ids that will be given out, one after the other. -/
  ids : Nat → String
  /-- How many tasks have been started. -/
  started : Nat
  /-- The slots held outside the gate, by id. -/
  guards : List String
  /-- The tasks that have not ended. -/
  tasks : List Task
  /-- How tasks have ended. -/
  finished : List Ending
  /-- The requests that the delegate has been called with. -/
  calls : List Request
deriving Inhabited

/-- The digits of a number in hexadecimal, at least twelve of them. -/
def twelveDigits (n : Nat) : List Char :=
  let digits := Text.hex n
  List.replicate (12 - digits.length) '0' ++ digits

/-- Ids in the form of random ones, all of them different. -/
def distinctId (n : Nat) : String := "00000000-0000-4000-8000-" ++ String.ofList (twelveDigits n)

namespace World

/-- A service that has just been created. -/
def initial (checkup : Option Checkup) : World :=
  ⟨.initial, checkup, .empty, [], 0, 0, distinctId, 0, [], [], [], []⟩

/-- One more event. -/
def tell (w : World) (event : Event) : World := { w with log := w.log ++ [event] }

/-- One more recording. -/
def record (w : World) (reading : Reading) : World :=
  { w with meters := w.meters.record reading }

/-- The snapshot changes, and waiting tasks are told about it. -/
def install (policy : WakePolicy) (w : World) (change : Change) : World :=
  { w with
    snapshot := change.after
    tasks := if change.notifies ∨ policy = .always then w.tasks.map Task.notice else w.tasks }

/-- Steps forward; says whether the step was allowed. -/
def advance (policy : WakePolicy) (w : World) (target : Phase) : World × Bool :=
  match w.snapshot.advance target with
  | some change =>
    (((w.install policy change).tell (.phaseChanged w.snapshot.phase target)).record
      (.phase target), true)
  | none => (w, false)

/-- Asks for a slot; says whether there was one. -/
def enter (policy : WakePolicy) (w : World) : World × Bool :=
  match w.snapshot.enter with
  | some change =>
    (((w.install policy change).record (.inFlight change.after.inFlight)).record
      (.admission true), true)
  | none =>
    ((w.record (.admission false)).tell (.requestRejected w.snapshot.phase), false)

/-- Takes a slot out of the count. -/
def uncount (policy : WakePolicy) (w : World) : World :=
  match w.snapshot.leave with
  | some change => (w.install policy change).record (.inFlight change.after.inFlight)
  | none => w.tell .slotMissing

/-- Gives a slot back. -/
def release (policy : WakePolicy) (w : World) : World := (w.uncount policy).tell .slotReleased

/-- Begins the shutdown; says whether it had not begun before. -/
def beginDrain (policy : WakePolicy) (w : World) (cause : Cause) : World × Bool :=
  match w.snapshot.beginDrain cause with
  | some change =>
    (((w.install policy change).tell
      (.drainStarted w.snapshot.phase w.snapshot.inFlight cause)).record (.phase .draining), true)
  | none => (w.tell (.shutdownIgnored w.snapshot.phase), false)

/-- Gives up the requests in flight; says whether that was allowed. -/
def abandon (policy : WakePolicy) (w : World) : World × Bool :=
  match w.snapshot.abandon with
  | some change => ((w.install policy change).tell (.abandoning w.snapshot.inFlight), true)
  | none => (w, false)

/-- A timer that goes off after some milliseconds. -/
def setTimer (w : World) (milliseconds : Nat) : World × Timer :=
  ({ w with tickets := w.tickets + 1 }, ⟨w.clock + milliseconds, w.tickets⟩)

/-- A task is over, and tasks that wait for others are told about it. -/
def conclude (w : World) (ending : Ending) : World :=
  { w with
    finished := w.finished ++ [ending]
    tasks := w.tasks.map Task.noticeTask }

/-- One more task. -/
def start (w : World) (owner : Owner) (errand : Errand) : World :=
  { w with
    started := w.started + 1
    tasks := w.tasks ++ [.fresh w.started owner errand] }

/-- The delegate is called with a request. -/
def call (w : World) (request : Request) : World := { w with calls := w.calls ++ [request] }

/-- The next id. -/
def freshId (w : World) : World × String := ({ w with ids := fun n => w.ids (n + 1) }, w.ids 0)

end World

end GracefulService
