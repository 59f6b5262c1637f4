import GracefulService.Serve.Script

/-!
# Deeds

Whatever happens to a running service changes its snapshot by at most one deed: a step forward, a slot
taken or given back, the beginning of the shutdown, or abandonment. A deed is carried out as a whole: the
snapshot changes, tasks that watch it are told, and the deed is written to the log and the meters. The
operations of a world are deeds, up to what nobody reads back: the numbers of timers, the ids, the
counts of answered probes, the health check, and events that do not tell of the snapshot.
-/

namespace GracefulService

/-- What can be done to a snapshot. -/
inductive Deed where
  /-- Nothing. -/
  | nothing
  /-- A step forward. -/
  | advance (target : Phase)
  /-- A slot is taken. -/
  | enter
  /-- A slot is given back. -/
  | leave
  /-- The shutdown begins. -/
  | beginDrain (cause : Cause)
  /-- The requests in flight are given up. -/
  | abandon
deriving DecidableEq, Repr

namespace Deed

/-- The change that a deed makes, unless it is refused. -/
def change (s : Snapshot) : Deed → Option Change
  | nothing => none
  | advance target => s.advance target
  | enter => s.enter
  | leave => s.leave
  | beginDrain cause => s.beginDrain cause
  | abandon => s.abandon

/-- The snapshot after a deed. A refused one leaves it as it is. -/
def result (s : Snapshot) (deed : Deed) : Snapshot := ((deed.change s).map Change.after).getD s

/-- To do nothing changes nothing. -/
@[simp]
theorem result_nothing (s : Snapshot) : nothing.result s = s := rfl

/-- A step forward sets the phase where it is allowed. -/
theorem result_advance (s : Snapshot) (target : Phase) : (advance target).result s
    = if s.phase.canAdvance target then { s with phase := target } else s := by
  simp only [result, change, Snapshot.advance]
  split <;> rfl

/-- A slot is taken where the service listens. -/
theorem result_enter (s : Snapshot) : enter.result s
    = if s.phase = .listening then { s with inFlight := s.inFlight + 1 } else s := by
  simp only [result, change, Snapshot.enter, Phase.acceptsRequests, decide_eq_true_eq]
  split <;> rfl

/-- A slot that is given back is one less in flight. -/
theorem result_leave (s : Snapshot) : leave.result s = { s with inFlight := s.inFlight - 1 } := by
  obtain ⟨phase, inFlight, cause, abandoned⟩ := s
  cases inFlight <;> rfl

/-- The shutdown begins where it has not begun, and its cause is recorded. -/
theorem result_beginDrain (s : Snapshot) (cause : Cause) : (beginDrain cause).result s
    = if s.phase.canAdvance .draining then { s with phase := .draining, cause := some cause }
      else s := by
  simp only [result, change, Snapshot.beginDrain]
  split <;> rfl

/-- Requests are given up once, after the stop. -/
theorem result_abandon (s : Snapshot) : abandon.result s
    = if s.phase = .stopped ∧ s.abandoned = false then { s with abandoned := true } else s := by
  simp only [result, change, Snapshot.abandon]
  split <;> rfl

/-- What becomes of a task that may watch the snapshot. -/
def rouse (policy : WakePolicy) (s : Snapshot) (deed : Deed) (task : Task) : Task :=
  match deed.change s with
  | some change => if change.notifies ∨ policy = .always then task.notice else task
  | none => task

/-- Whoever waits for the snapshot is told about a change that is announced. -/
theorem rouse_eq_notice {policy : WakePolicy} {s : Snapshot} {deed : Deed} {change : Change}
    (h : deed.change s = some change) (told : change.notifies ∨ policy = .always) :
    deed.rouse policy s = Task.notice := by
  funext task
  simp only [rouse, h, if_pos told]

/-- Nobody is told about a change that is not announced. -/
theorem rouse_eq_id_of_quiet {policy : WakePolicy} {s : Snapshot} {deed : Deed} {change : Change}
    (h : deed.change s = some change) (quiet : ¬(change.notifies ∨ policy = .always)) :
    deed.rouse policy s = id := by
  funext task
  simp only [rouse, h, if_neg quiet, id]

/-- Nobody is told about a deed that is refused. -/
theorem rouse_eq_id_of_refused {policy : WakePolicy} {s : Snapshot} {deed : Deed}
    (h : deed.change s = none) : deed.rouse policy s = id := by
  funext task
  simp only [rouse, h, id]

/-- What the log says about a deed. -/
def events (s : Snapshot) (deed : Deed) : List Event :=
  match deed, deed.change s with
  | nothing, _ => []
  | advance target, some _ => [.phaseChanged s.phase target]
  | advance _, none => []
  | enter, some _ => []
  | enter, none => [.requestRejected s.phase]
  | leave, some _ => [.slotReleased]
  | leave, none => [.slotMissing, .slotReleased]
  | beginDrain cause, some _ => [.drainStarted s.phase s.inFlight cause]
  | beginDrain _, none => [.shutdownIgnored s.phase]
  | abandon, some _ => [.abandoning s.inFlight]
  | abandon, none => []

/-- What the meters record of a deed. -/
def readings (s : Snapshot) (deed : Deed) : List Reading :=
  match deed, deed.change s with
  | nothing, _ => []
  | advance target, some _ => [.phase target]
  | advance _, none => []
  | enter, some change => [.inFlight change.after.inFlight, .admission true]
  | enter, none => [.admission false]
  | leave, some change => [.inFlight change.after.inFlight]
  | leave, none => []
  | beginDrain _, some _ => [.phase .draining]
  | beginDrain _, none => []
  | abandon, _ => []

end Deed

namespace Task

/-- Two states of one task at one errand. -/
structure Resembles (a b : Task) : Prop where
  /-- The number is the same. -/
  serial : b.serial = a.serial
  /-- The owner is the same. -/
  owner : b.owner = a.owner
  /-- The errand is the same. -/
  errand : b.errand = a.errand
  /-- It has not gone to sleep. -/
  woken : b.woken = false → a.woken = false

/-- A task resembles itself. -/
theorem Resembles.refl (task : Task) : task.Resembles task := ⟨rfl, rfl, rfl, id⟩

/-- A task that is woken to look resembles what it was. -/
theorem resembles_notice (task : Task) : task.Resembles task.notice := by
  unfold Task.notice
  split
  · exact ⟨rfl, rfl, rfl, fun hasleep => (by cases hasleep)⟩
  · exact .refl task

/-- A task that is told about the end of another resembles what it was. -/
theorem resembles_noticeTask (task : Task) : task.Resembles task.noticeTask := by
  unfold Task.noticeTask
  split
  · exact ⟨rfl, rfl, rfl, fun hasleep => (by cases hasleep)⟩
  · exact .refl task

/-- A task that is told about a moment resembles what it was. -/
theorem resembles_noticeTime (timer : Timer) (task : Task) :
    task.Resembles (task.noticeTime timer) := by
  unfold Task.noticeTime
  split
  · exact ⟨rfl, rfl, rfl, fun hasleep => (by cases hasleep)⟩
  · exact .refl task

/-- A task that is told about a deed resembles what it was. -/
theorem resembles_rouse (policy : WakePolicy) (s : Snapshot) (deed : Deed) (task : Task) :
    task.Resembles (deed.rouse policy s task) := by
  unfold Deed.rouse
  split
  · split
    · exact resembles_notice task
    · exact .refl task
  · exact .refl task

end Task

/-- The event tells of a deed. -/
def Event.tellsDeed : Event → Bool
  | phaseChanged .. | requestRejected _ | drainStarted .. | shutdownIgnored _ | abandoning _
  | slotReleased | slotMissing => true
  | _ => false

/-- Whatever the log says about a deed tells of it. -/
theorem Deed.filter_events (s : Snapshot) (deed : Deed) :
    (deed.events s).filter Event.tellsDeed = deed.events s := by
  cases h : deed.change s <;> cases deed <;> simp [Deed.events, h, Event.tellsDeed]

namespace World

/-- The events of a world that tell of deeds, in their order. -/
def deeds (w : World) : List Event := w.log.filter Event.tellsDeed

/-- A deed is carried out: the snapshot changes, tasks are told, and the deed is recorded. -/
def carryOut (policy : WakePolicy) (w : World) (deed : Deed) : World :=
  { w with
    snapshot := deed.result w.snapshot
    meters := (deed.readings w.snapshot).foldl Meters.record w.meters
    log := w.log ++ deed.events w.snapshot
    tasks := w.tasks.map (deed.rouse policy w.snapshot) }

/-- Deeds are carried out one after the other. -/
def carryOutAll (policy : WakePolicy) (w : World) (deeds : List Deed) : World :=
  deeds.foldl (carryOut policy) w

/-- What every deed keeps, several of them keep. -/
theorem carryOutAll_induction {P : World → Prop} (policy : WakePolicy) (w : World) (deeds : List Deed)
    (hstep : ∀ w, ∀ deed ∈ deeds, P w → P (w.carryOut policy deed)) (hP : P w) :
    P (w.carryOutAll policy deeds) :=
  List.foldlRecOn deeds (carryOut policy) hP fun w hw deed hmem => hstep w deed hmem hw

/-- Deeds change the snapshot, what is recorded and what tasks are told, and nothing else. -/
theorem carryOutAll_frame (policy : WakePolicy) (w : World) (deeds : List Deed) :
    w.carryOutAll policy deeds
      = let done := w.carryOutAll policy deeds
        { w with
          snapshot := done.snapshot
          meters := done.meters
          log := done.log
          tasks := done.tasks } := by
  induction deeds generalizing w with
  | nil => rfl
  | cons deed deeds ih => exact ih (w.carryOut policy deed)

/-- The snapshot after several deeds is the result of one after the other. -/
theorem snapshot_carryOutAll (policy : WakePolicy) (w : World) (deeds : List Deed) :
    (w.carryOutAll policy deeds).snapshot = deeds.foldl Deed.result w.snapshot := by
  induction deeds generalizing w with
  | nil => rfl
  | cons deed deeds ih => exact ih (w.carryOut policy deed)

/-- A world without what nobody reads back. -/
def core (w : World) : World :=
  { w with
    checkup := none
    meters := { w.meters with probes := [] }
    log := w.deeds
    tickets := 0
    ids := fun _ => "" }

section Core

variable (w : World)

/-- The core has the snapshot. -/
@[simp]
theorem core_snapshot : w.core.snapshot = w.snapshot := rfl

/-- The core has the clock. -/
@[simp]
theorem core_clock : w.core.clock = w.clock := rfl

/-- The core knows how many tasks were started. -/
@[simp]
theorem core_started : w.core.started = w.started := rfl

/-- The core has the slots held outside the gate. -/
@[simp]
theorem core_guards : w.core.guards = w.guards := rfl

/-- The core has the tasks. -/
@[simp]
theorem core_tasks : w.core.tasks = w.tasks := rfl

/-- The core knows how tasks have ended. -/
@[simp]
theorem core_finished : w.core.finished = w.finished := rfl

/-- The core knows what the delegate was called with. -/
@[simp]
theorem core_calls : w.core.calls = w.calls := rfl

/-- The events that tell of deeds are part of the core. -/
theorem core_deeds : w.core.deeds = w.deeds := by
  simp [deeds, core, List.filter_filter]

/-- What tells of deeds is counted in the log as among the deeds. -/
theorem countP_deeds {p : Event → Bool} (hp : ∀ event, p event = true → event.tellsDeed = true) :
    w.deeds.countP p = w.log.countP p := by
  rw [deeds, List.countP_filter]
  refine List.countP_congr fun event _ => ?_
  rw [Bool.and_eq_true]
  exact and_iff_left_of_imp (hp event)

/-- A deed that is carried out is told of at the end of the log. -/
theorem deeds_carryOut (policy : WakePolicy) (deed : Deed) :
    (w.carryOut policy deed).deeds = w.deeds ++ deed.events w.snapshot := by
  simp only [deeds, carryOut, List.filter_append, Deed.filter_events]

/-- Carrying out a deed reads and changes nothing but the core. -/
theorem core_carryOut (policy : WakePolicy) (deed : Deed) :
    (w.carryOut policy deed).core = w.core.carryOut policy deed := by
  have hreadings : { (deed.readings w.snapshot).foldl Meters.record w.meters with probes := [] }
      = (deed.readings w.snapshot).foldl Meters.record { w.meters with probes := [] } := by
    cases h : deed.change w.snapshot <;> cases deed <;> simp [Deed.readings, h, Meters.record]
  have hdeeds := deeds_carryOut w policy deed
  simp only [core, hdeeds]
  simp only [carryOut, hreadings]

end Core

/-! The operations of a world are deeds. -/

section Operations

variable (policy : WakePolicy) (w : World)

/-- A change that a deed makes is installed for exactly the tasks that the deed rouses. -/
theorem install_eq {deed : Deed} {change : Change} (h : deed.change w.snapshot = some change) :
    w.install policy change
      = { w with
          snapshot := deed.result w.snapshot
          tasks := w.tasks.map (deed.rouse policy w.snapshot) } := by
  have hresult : deed.result w.snapshot = change.after := by simp [Deed.result, h]
  rw [install, hresult]
  by_cases told : change.notifies ∨ policy = .always
  · simp only [Deed.rouse_eq_notice h told, if_pos told]
  · simp only [Deed.rouse_eq_id_of_quiet h told, if_neg told, List.map_id]

/-- A refused deed changes no snapshot and tells no task. -/
theorem refused_eq {deed : Deed} (h : deed.change w.snapshot = none) :
    w.carryOut policy deed
      = { w with
          meters := (deed.readings w.snapshot).foldl Meters.record w.meters
          log := w.log ++ deed.events w.snapshot } := by
  have hresult : deed.result w.snapshot = w.snapshot := by simp [Deed.result, h]
  simp only [carryOut, hresult, Deed.rouse_eq_id_of_refused h, List.map_id]

/-- To step forward is to carry out its deed. -/
theorem advance_eq (target : Phase) :
    (w.advance policy target).1 = w.carryOut policy (.advance target) := by
  cases h : w.snapshot.advance target with
  | none =>
    have hc : (Deed.advance target).change w.snapshot = none := h
    rw [refused_eq policy w hc]
    simp [advance, h, Deed.readings, Deed.events, hc]
  | some change =>
    have hc : (Deed.advance target).change w.snapshot = some change := h
    simp only [advance, h, install_eq policy w hc, carryOut, Deed.readings, Deed.events, hc]
    rfl

/-- To ask for a slot is to carry out its deed. -/
theorem enter_eq : (w.enter policy).1.core = w.core.carryOut policy .enter := by
  rw [← core_carryOut]
  cases h : w.snapshot.enter with
  | none =>
    have hc : Deed.enter.change w.snapshot = none := h
    rw [refused_eq policy w hc]
    simp [enter, h, Deed.readings, Deed.events, hc, tell, record]
  | some change =>
    have hc : Deed.enter.change w.snapshot = some change := h
    simp [enter, h, install_eq policy w hc, carryOut, Deed.readings, Deed.events, hc, record]

/-- To give a slot back is to carry out its deed. -/
theorem release_eq : w.release policy = w.carryOut policy .leave := by
  cases h : w.snapshot.leave with
  | none =>
    have hc : Deed.leave.change w.snapshot = none := h
    rw [refused_eq policy w hc]
    simp [release, uncount, h, Deed.readings, Deed.events, hc, tell]
  | some change =>
    have hc : Deed.leave.change w.snapshot = some change := h
    simp [release, uncount, h, install_eq policy w hc, carryOut, Deed.readings, Deed.events, hc,
      tell, record]

/-- To begin the shutdown is to carry out its deed. -/
theorem beginDrain_eq (cause : Cause) :
    (w.beginDrain policy cause).1 = w.carryOut policy (.beginDrain cause) := by
  cases h : w.snapshot.beginDrain cause with
  | none =>
    have hc : (Deed.beginDrain cause).change w.snapshot = none := h
    rw [refused_eq policy w hc]
    simp [beginDrain, h, Deed.readings, Deed.events, hc, tell]
  | some change =>
    have hc : (Deed.beginDrain cause).change w.snapshot = some change := h
    simp [beginDrain, h, install_eq policy w hc, carryOut, Deed.readings, Deed.events, hc, tell,
      record]

/-- To give requests up is to carry out its deed. -/
theorem abandon_eq : (w.abandon policy).1 = w.carryOut policy .abandon := by
  cases h : w.snapshot.abandon with
  | none =>
    have hc : Deed.abandon.change w.snapshot = none := h
    rw [refused_eq policy w hc]
    simp [abandon, h, Deed.readings, Deed.events, hc]
  | some change =>
    have hc : Deed.abandon.change w.snapshot = some change := h
    simp [abandon, h, install_eq policy w hc, carryOut, Deed.readings, Deed.events, hc, tell]

end Operations

end World

end GracefulService
