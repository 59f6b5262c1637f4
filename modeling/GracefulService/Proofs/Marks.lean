import GracefulService.Proofs.Moves

/-!
# Marks of waiting tasks

Tasks that watch the snapshot carry marks that say whether their turn is due and whether they look at it.
The marks are set when changes are announced, and that depends on when tasks are told. Two worlds are alike
when they differ in these marks alone. Whatever is done to alike worlds makes alike worlds, whenever
tasks are told in each of them, provided that no task misses what it waits for.
-/

namespace GracefulService

open Http

namespace Task

/-- A task without the marks that say whether it looks at the snapshot. -/
def dormant (task : Task) : Task := if task.errand.watchesSnapshot then task.asleep else task

section Dormant

variable (task : Task)

/-- Without its marks a task has the same errand. -/
@[simp]
theorem dormant_errand : task.dormant.errand = task.errand := by
  unfold dormant
  split <;> rfl

/-- Without its marks a task has the same owner. -/
@[simp]
theorem dormant_owner : task.dormant.owner = task.owner := by
  unfold dormant
  split <;> rfl

/-- Without its marks a task has the same number. -/
@[simp]
theorem dormant_serial : task.dormant.serial = task.serial := by
  unfold dormant
  split <;> rfl

/-- Marks are taken off once. -/
@[simp]
theorem dormant_dormant : task.dormant.dormant = task.dormant := by
  unfold dormant
  split <;> simp_all [asleep]

/-- To be woken to look is a matter of marks. -/
@[simp]
theorem dormant_notice : task.notice.dormant = task.dormant := by
  unfold notice dormant
  split <;> simp_all [asleep]

/-- Only those who watch the snapshot are put to sleep, and none of them watches other tasks. -/
theorem dormant_noticeTask : task.noticeTask.dormant = task.dormant.noticeTask := by
  cases herrand : task.errand <;>
    simp [noticeTask, dormant, asleep, herrand, Errand.watchesSnapshot, Errand.watchesTasks]

/-- Announcing a moment is the same for those who watch the snapshot and those who are asleep. -/
theorem dormant_noticeTime (timer : Timer) :
    (task.noticeTime timer).dormant = (task.dormant.noticeTime timer).dormant := by
  unfold noticeTime dormant asleep
  split <;> split <;> simp_all

/-- Somebody who watches the snapshot has no marks left. -/
theorem dormant_of_watches {serial : Nat} {owner : Owner} {errand : Errand} {woken looks : Bool}
    (hwatches : errand.watchesSnapshot = true) :
    dormant ⟨serial, owner, errand, woken, looks⟩ = ⟨serial, owner, errand, false, false⟩ :=
  if_pos hwatches

/-- A delegate may go on whatever the marks of its task are. -/
theorem dormant_releaseTask (key : String) : (Supervisor.releaseTask key task).dormant
    = (Supervisor.releaseTask key task.dormant).dormant := by
  unfold Supervisor.releaseTask
  rw [dormant_errand]
  split
  · split
    · split
      · rw [dormant_of_watches rfl, dormant_of_watches rfl, dormant_serial, dormant_owner]
      · rw [dormant_dormant]
    · rw [dormant_dormant]
  · rw [dormant_dormant]

/-- A signal reaches a task whatever its marks are. -/
theorem dormant_catchSignal (name : String) : (Supervisor.catchSignal name task).dormant
    = (Supervisor.catchSignal name task.dormant).dormant := by
  unfold Supervisor.catchSignal
  rw [dormant_errand]
  split
  · rw [dormant_of_watches rfl, dormant_of_watches rfl, dormant_serial, dormant_owner]
  · rw [dormant_dormant]

end Dormant

/-- Tasks that differ in the marks alone are the same in everything else. -/
theorem same_of_dormant {a b : Task} (h : a.dormant = b.dormant) :
    a.serial = b.serial ∧ a.owner = b.owner ∧ a.errand = b.errand := by
  refine ⟨?_, ?_, ?_⟩
  · rw [← dormant_serial, h, dormant_serial]
  · rw [← dormant_owner, h, dormant_owner]
  · rw [← dormant_errand, h, dormant_errand]

/-- Of tasks that differ in the marks alone the same is the first of a kind that does not depend on the
marks. -/
theorem takeFirst_dormant (kind : Task → Bool)
    (hkind : ∀ task : Task, kind task.dormant = kind task) {tasks tasks' : List Task}
    (h : tasks.map dormant = tasks'.map dormant) :
    Option.Rel (fun x y => x.1.dormant = y.1.dormant ∧ x.2.map dormant = y.2.map dormant)
      (takeFirst kind tasks) (takeFirst kind tasks') := by
  induction tasks generalizing tasks' with
  | nil =>
    rw [List.map_nil, eq_comm, List.map_eq_nil_iff] at h
    subst h
    exact .none
  | cons task tasks ih =>
    cases tasks' with
    | nil => cases h
    | cons task' tasks' =>
      rw [List.map_cons, List.map_cons, List.cons.injEq] at h
      obtain ⟨hhead, htail⟩ := h
      have hsame : kind task = kind task' := by rw [← hkind task, hhead, hkind]
      have hrest := ih htail
      simp only [takeFirst, hsame]
      split
      · exact .some ⟨hhead, htail⟩
      · generalize takeFirst kind tasks = found at hrest
        generalize takeFirst kind tasks' = found' at hrest
        cases hrest with
        | none => exact .none
        | some hfound =>
          refine .some ⟨hfound.1, ?_⟩
          rw [List.map_cons, List.map_cons, hhead, hfound.2]

end Task

namespace World

/-- A world without the marks that say who looks at the snapshot. -/
def dormant (w : World) : World := { w with tasks := w.tasks.map Task.dormant }

section Dormant

variable (w : World)

/-- But for marks, a change that is installed is a new snapshot. -/
@[simp]
theorem dormant_install (policy : WakePolicy) (change : Change) :
    (w.install policy change).dormant = { w.dormant with snapshot := change.after } := by
  simp only [install, dormant]
  split
  · simp [Function.comp_def]
  · rfl

/-- A task ends in the same way whatever the marks of the others are. -/
@[simp]
theorem dormant_conclude (ending : Ending) :
    (w.conclude ending).dormant = w.dormant.conclude ending := by
  simp [conclude, dormant, Function.comp_def, Task.dormant_noticeTask]

/-- Whether a server runs is no matter of marks. -/
@[simp]
theorem dormant_hasServer (surface : Surface) :
    w.dormant.hasServer surface = w.hasServer surface := by
  simp [hasServer, dormant, Function.comp_def]

/-- Whether a connection is open is no matter of marks. -/
@[simp]
theorem dormant_hasConnection (surface : Surface) :
    w.dormant.hasConnection surface = w.hasConnection surface := by
  simp [hasConnection, dormant, Function.comp_def]

/-- A server is given up whatever the marks are. -/
@[simp]
theorem dormant_abortServer (surface : Surface) :
    (w.abortServer surface).dormant = w.dormant.abortServer surface := by
  simp [abortServer, dormant, List.filter_map, Function.comp_def]

end Dormant

/-- Two worlds that differ at most in the marks that say who looks at the snapshot. -/
def Alike (a b : World) : Prop := a.dormant = b.dormant

/-- Two such worlds, each with something else, which is the same. -/
structure AlikeWith {α : Type} (x y : World × α) : Prop where
  /-- The worlds differ in the marks alone. -/
  world : x.1.Alike y.1
  /-- What stands beside them is the same. -/
  same : x.2 = y.2

namespace Alike

variable {a b : World} (h : a.Alike b)
include h

/-- Worlds that are alike are the same without marks. -/
theorem dormant : a.dormant = b.dormant := h

/-- What is read of a world without regard to the marks is the same. -/
theorem read {α : Type} (f : World → α) (hf : ∀ w, f w.dormant = f w) : f a = f b := by
  rw [← hf a, h.dormant, hf]

/-- What is done to a world without regard to the marks is done alike. -/
theorem lift (f : World → World) (hf : ∀ w, (f w).dormant = f w.dormant) : (f a).Alike (f b) := by
  unfold Alike
  rw [hf, hf, h.dormant]

/-- Worlds that are alike have the same snapshot. -/
theorem snapshot : a.snapshot = b.snapshot := h.read World.snapshot fun _ => rfl

/-- Worlds that are alike have the same health check. -/
theorem checkup : a.checkup = b.checkup := h.read World.checkup fun _ => rfl

/-- Worlds that are alike have the same clock. -/
theorem clock : a.clock = b.clock := h.read World.clock fun _ => rfl

/-- Worlds that are alike have set as many timers. -/
theorem tickets : a.tickets = b.tickets := h.read World.tickets fun _ => rfl

/-- Worlds that are alike have the same ids to give out. -/
theorem ids : a.ids = b.ids := h.read World.ids fun _ => rfl

/-- Worlds that are alike have started as many tasks. -/
theorem started : a.started = b.started := h.read World.started fun _ => rfl

/-- Worlds that are alike have the same slots held outside the gate. -/
theorem guards : a.guards = b.guards := h.read World.guards fun _ => rfl

/-- Worlds that are alike have the same servers. -/
theorem hasServer (surface : Surface) : a.hasServer surface = b.hasServer surface :=
  h.read (World.hasServer · surface) fun w => dormant_hasServer w surface

/-- Worlds that are alike have the same open connections. -/
theorem hasConnection (surface : Surface) : a.hasConnection surface = b.hasConnection surface :=
  h.read (World.hasConnection · surface) fun w => dormant_hasConnection w surface

/-- In worlds that are alike the same moments have come. -/
theorem isDue (timer : Timer) : a.isDue timer = b.isDue timer :=
  h.read (World.isDue · timer) fun _ => rfl

/-- Worlds that are alike have the same tasks but for marks. -/
theorem tasks : a.tasks.map Task.dormant = b.tasks.map Task.dormant := congrArg World.tasks h.dormant

/-- Worlds that are alike stay so when an event is told. -/
theorem tell (event : Event) : (a.tell event).Alike (b.tell event) :=
  h.lift (World.tell · event) fun _ => rfl

/-- Worlds that are alike stay so when a number is recorded. -/
theorem record (reading : Reading) : (a.record reading).Alike (b.record reading) :=
  h.lift (World.record · reading) fun _ => rfl

/-- Worlds that are alike stay so with other tasks that are the same but for marks. -/
theorem withTasks {front back : List Task} (htasks : front.map Task.dormant = back.map Task.dormant) :
    Alike { a with tasks := front } { b with tasks := back } := by
  have hmarks : ({ a.dormant with tasks := front.map Task.dormant } : World)
      = { b.dormant with tasks := back.map Task.dormant } := by rw [h.dormant, htasks]
  exact hmarks

/-- Worlds that are alike stay so when a task ends. -/
theorem conclude (ending : Ending) : (a.conclude ending).Alike (b.conclude ending) :=
  h.lift (World.conclude · ending) fun w => dormant_conclude w ending

/-! Under any two policies the same is done. -/

section Policies

variable (p q : WakePolicy)

/-- Worlds that are alike stay so when the snapshot changes, whoever is told. -/
theorem install (change : Change) : (a.install p change).Alike (b.install q change) := by
  unfold Alike
  rw [dormant_install, dormant_install, h.dormant]

/-- A step forward comes to the same in worlds that are alike. -/
theorem advance (target : Phase) : AlikeWith (a.advance p target) (b.advance q target) := by
  simp only [World.advance, h.snapshot]
  cases b.snapshot.advance target with
  | none => exact ⟨h, rfl⟩
  | some change => exact ⟨((h.install p q change).tell _).record _, rfl⟩

/-- A slot is taken alike in worlds that are alike. -/
theorem enter : AlikeWith (a.enter p) (b.enter q) := by
  simp only [World.enter, h.snapshot]
  cases b.snapshot.enter with
  | none => exact ⟨(h.record _).tell _, rfl⟩
  | some change => exact ⟨((h.install p q change).record _).record _, rfl⟩

/-- A slot is given back alike in worlds that are alike. -/
theorem release : (a.release p).Alike (b.release q) := by
  simp only [World.release, uncount, h.snapshot]
  cases b.snapshot.leave with
  | none => exact (h.tell _).tell _
  | some change => exact ((h.install p q change).record _).tell _

/-- The shutdown begins alike in worlds that are alike. -/
theorem beginDrain (cause : Cause) : AlikeWith (a.beginDrain p cause) (b.beginDrain q cause) := by
  simp only [World.beginDrain, h.snapshot]
  cases b.snapshot.beginDrain cause with
  | none => exact ⟨h.tell _, rfl⟩
  | some change => exact ⟨((h.install p q change).tell _).record _, rfl⟩

/-- Requests are given up alike in worlds that are alike. -/
theorem abandon : AlikeWith (a.abandon p) (b.abandon q) := by
  simp only [World.abandon, h.snapshot]
  cases b.snapshot.abandon with
  | none => exact ⟨h, rfl⟩
  | some change => exact ⟨(h.install p q change).tell _, rfl⟩

end Policies

end Alike

/-! What the turns of tasks do. -/

section Turns

variable {a b : World}

/-- Outcomes that are alike are two worlds that are alike, beside one result. -/
theorem AlikeWith.eta {α : Type} {x y : World × α} (h : AlikeWith x y) :
    ∃ v w : World, ∃ beside : α, v.Alike w ∧ x = (v, beside) ∧ y = (w, beside) := by
  obtain ⟨v, beside⟩ := x
  obtain ⟨w, other⟩ := y
  obtain ⟨hworld, hsame⟩ := h
  simp only at hworld hsame
  exact ⟨v, w, beside, hworld, rfl, by rw [hsame]⟩

/-- A timer is set alike in worlds that are alike. -/
theorem Alike.setTimer (h : a.Alike b) (milliseconds : Nat) :
    AlikeWith (a.setTimer milliseconds) (b.setTimer milliseconds) := by
  refine ⟨h.lift (fun w => { w with tickets := w.tickets + 1 }) fun _ => rfl, ?_⟩
  simp only [World.setTimer, h.clock, h.tickets]

/-- A request is identified alike in worlds that are alike. -/
theorem Alike.identify (h : a.Alike b) (surface : Surface) (request : Request) :
    AlikeWith (a.identify surface request) (b.identify surface request) := by
  unfold World.identify
  split
  · refine ⟨h.lift (fun w => { w with ids := fun n => w.ids (n + 1) }) fun _ => rfl, ?_⟩
    simp only [freshId, h.ids]
  · exact ⟨h, rfl⟩

/-- The delegate begins alike in worlds that are alike. -/
theorem Alike.beginWork (h : a.Alike b) (work : Work) :
    AlikeWith (a.beginWork work) (b.beginWork work) := by
  cases work with
  | pause milliseconds response =>
    have htimer := h.setTimer milliseconds
    exact ⟨htimer.world, congrArg (Progress.paused · response) htimer.same⟩
  | _ => exact ⟨h, rfl⟩

/-- A probe is answered alike in worlds that are alike. -/
theorem Alike.answerProbe (h : a.Alike b) (probe : Probe) (request : Request) :
    AlikeWith (a.answerProbe probe request) (b.answerProbe probe request) := by
  simp only [World.answerProbe, h.snapshot, h.checkup]
  split
  · exact ⟨(h.record _).tell _, rfl⟩
  · exact ⟨h.record _, rfl⟩

variable (p q : WakePolicy)

/-- A control route answers alike in worlds that are alike. -/
theorem Alike.answerControl (h : a.Alike b) (action : Control) (request : Request) :
    AlikeWith (a.answerControl p action request) (b.answerControl q action request) := by
  cases action with
  | probe probe => exact h.answerProbe probe request
  | markdown =>
    obtain ⟨v, w, began, hworld, hv, hw⟩ := (h.beginDrain p q .markedDown).eta
    simp only [World.answerControl, answerMarkdown, hv, hw]
    refine ⟨?_, rfl⟩
    cases began with
    | true => exact hworld.tell _
    | false => exact hworld

/-- A request is answered alike in worlds that are alike. -/
theorem Alike.endExchange (h : a.Alike b) (x : Exchange) (answerer : Answerer)
    (response : Response) :
    AlikeWith (a.endExchange p x answerer response) (b.endExchange q x answerer response) :=
  ⟨h.release p q, rfl⟩

/-- A request is handed over alike in worlds that are alike. -/
theorem Alike.handOver (h : a.Alike b) (surface : Surface) (request : Request) (handling : Handling) :
    AlikeWith (a.handOver p surface request handling) (b.handOver q surface request handling) := by
  have hcalled : (a.call request).Alike (b.call request) := h.lift (World.call · request) fun _ => rfl
  obtain ⟨v, w, progress, hworld, hv, hw⟩ := (hcalled.beginWork handling.work).eta
  simp only [World.handOver, hv, hw]
  cases progress with
  | done response => exact hworld.endExchange p q _ _ _
  | paused | held => exact ⟨hworld, rfl⟩

/-- A drain ends alike in worlds that are alike. -/
theorem Alike.endDrain (h : a.Alike b) (sequel : Sequel) :
    AlikeWith (a.endDrain p sequel) (b.endDrain q sequel) :=
  ⟨(h.advance p q .stopped).world, rfl⟩

end Turns

section TurnsOfTasks

variable {a b : World} (setup : Setup) (q : WakePolicy)

/-- The gate decides alike in worlds that are alike. -/
theorem Alike.passGate (h : a.Alike b) (surface : Surface) (request : Request) :
    AlikeWith (a.passGate setup surface request)
      (b.passGate { setup with policy := q } surface request) := by
  obtain ⟨v, w, accepted, hworld, hv, hw⟩ := (h.enter setup.policy q).eta
  simp only [World.passGate, hv, hw]
  cases accepted with
  | true => exact hworld.handOver setup.policy q surface request _
  | false => exact ⟨hworld, rfl⟩

/-- A request is received alike in worlds that are alike. -/
theorem Alike.receive (h : a.Alike b) (surface : Surface) (request : Request) :
    AlikeWith (a.receive setup surface request)
      (b.receive { setup with policy := q } surface request) := by
  obtain ⟨v, w, identified, hworld, hv, hw⟩ := (h.identify surface request).eta
  simp only [World.receive, hv, hw]
  cases setup.site.destination surface identified with
  | control action =>
    have hanswered := hworld.answerControl setup.policy q action identified
    exact ⟨hanswered.world, by simp only [hanswered.same]⟩
  | otherMethods allowed => exact ⟨hworld, rfl⟩
  | gate => exact hworld.passGate setup q surface identified
  | nowhere => exact ⟨hworld, rfl⟩

/-- A turn takes tasks that look in alike worlds to alike worlds, and the task goes on or ends alike. -/
theorem Alike.turn (h : a.Alike b) (looks : Bool) (errand : Errand) :
    Option.Rel AlikeWith (a.turn setup looks errand)
      (b.turn { setup with policy := q } looks errand) := by
  cases errand with
  | awaitPhase target =>
    simp only [World.turn, h.snapshot]
    split
    · exact .some ⟨h, rfl⟩
    · exact .none
  | awaitAbandonment =>
    simp only [World.turn, h.snapshot]
    split
    · exact .some ⟨h, rfl⟩
    · exact .none
  | awaitShutdown sequel =>
    have htimer := h.setTimer setup.window
    simp only [World.turn, h.snapshot]
    split
    · exact .some ⟨htimer.world, by simp only [htimer.same]⟩
    · exact .none
  | awaitIdle sequel timer =>
    simp only [World.turn, turnAwaitIdle, h.snapshot, h.isDue]
    split
    · exact .some (h.endDrain setup.policy q sequel)
    · split
      · exact .some ((h.tell _).endDrain setup.policy q sequel)
      · exact .none
  | readCause sequel =>
    have htimer := h.setTimer setup.grace
    have hcause : a.causeNow = b.causeNow := by simp only [causeNow, h.snapshot]
    cases sequel with
    | report => exact .some ⟨h, by simp only [turnReadCause, hcause]⟩
    | close surfaces =>
      exact .some ⟨htimer.world, by simp only [turnReadCause, hcause, htimer.same]⟩
  | closeServers cause timer surfaces =>
    cases surfaces with
    | nil => exact .some ⟨h.tell _, rfl⟩
    | cons surface surfaces =>
      simp only [World.turn, turnCloseServers, h.hasServer, h.isDue]
      split
      · exact .some ⟨h, rfl⟩
      · split
        · have habandoned := ((h.tell .serverOverdue).abandon setup.policy q).world
          exact .some ⟨habandoned.lift (abortServer · surface) fun w => dormant_abortServer w surface, rfl⟩
        · exact .none
  | startServer surface address => exact .some ⟨h.tell _, rfl⟩
  | serve surface address =>
    simp only [World.turn, h.snapshot]
    split
    · exact .some ⟨h, rfl⟩
    · exact .none
  | finishServer surface =>
    simp only [World.turn, h.hasConnection]
    split
    · exact .none
    · exact .some ⟨h.tell _, rfl⟩
  | watchSignals caught =>
    cases caught with
    | some name =>
      exact .some ⟨((h.tell (.signalReceived name)).beginDrain setup.policy q (.signal name)).world,
        rfl⟩
    | none =>
      simp only [World.turn, turnWatchSignals, h.snapshot]
      split
      · exact .some ⟨h, rfl⟩
      · exact .none
  | arrive surface request => exact .some (h.receive setup q surface request)
  | exchange x =>
    have hended := fun answerer response => h.endExchange setup.policy q x answerer response
    simp only [World.turn, turnExchange, h.snapshot, h.isDue]
    cases x.progress with
    | done response => exact .some (hended _ _)
    | paused timer response =>
      simp only
      split
      · exact .some (hended _ _)
      · split
        · exact .some (hended _ _)
        · exact .none
    | held key response =>
      simp only
      split
      · exact .some (hended _ _)
      · exact .none

end TurnsOfTasks

/-- A task that is about to look when what it waits for has come turns as if it looked. -/
theorem turn_looking {setup : Setup} {w : World} {looks : Bool} {errand : Errand}
    (hlooks : errand.sees w.snapshot = true → looks = true) :
    w.turn setup looks errand = w.turn setup true errand := by
  cases looks with
  | true => rfl
  | false =>
    have hblind : errand.sees w.snapshot = false := by
      cases hsees : errand.sees w.snapshot with
      | false => rfl
      | true => cases hlooks hsees
    cases errand with
    | awaitIdle sequel timer => simp_all [turn, turnAwaitIdle, Errand.sees]
    | watchSignals caught => cases caught <;> simp_all [turn, turnWatchSignals, Errand.sees]
    | exchange x => simp_all [turn, turnExchange, Errand.sees]
    | _ => simp_all [turn, Errand.sees]

/-- No task misses what it waits for on the snapshot when its turn comes. -/
def Watchful (w : World) : Prop := ∀ task ∈ w.tasks, task.errand.sees w.snapshot = true → task.looks = true

section Moves

variable {a b : World} (setup : Setup) (q : WakePolicy)

/-- Tasks that miss nothing take their turns alike. -/
theorem Alike.takeTurn (h : a.Alike b) {task task' : Task} {others others' : List Task}
    (htask : task.dormant = task'.dormant)
    (hothers : others.map Task.dormant = others'.map Task.dormant)
    (hlooks : task.errand.sees a.snapshot = true → task.looks = true)
    (hlooks' : task'.errand.sees b.snapshot = true → task'.looks = true) :
    (a.takeTurn setup task others).Alike
      (b.takeTurn { setup with policy := q } task' others') := by
  obtain ⟨hserial, howner, herrand⟩ := Task.same_of_dormant htask
  have hturn := Alike.turn setup q (h.withTasks hothers) true task.errand
  simp only [World.takeTurn]
  rw [turn_looking (w := { a with tasks := others }) hlooks,
    turn_looking (w := { b with tasks := others' }) hlooks', ← herrand]
  generalize World.turn setup { a with tasks := others } true task.errand = turned at hturn ⊢
  generalize World.turn { setup with policy := q } { b with tasks := others' } true task.errand
    = turned' at hturn ⊢
  cases hturn with
  | none =>
    have hasleep : task.asleep = task'.asleep := by simp only [Task.asleep, hserial, howner, herrand]
    refine h.withTasks ?_
    rw [List.map_append, List.map_append, hothers, hasleep]
  | @some x y hworlds =>
    obtain ⟨v, w, next, hworld, rfl, rfl⟩ := hworlds.eta
    cases next with
    | goOn errand =>
      have hgoOn : task.goOn errand = task'.goOn errand := by
        simp only [Task.goOn, hserial, howner]
      refine hworld.withTasks ?_
      rw [List.map_cons, List.map_cons, hworld.tasks, hgoOn]
    | finish outcome =>
      have hending : task.ending outcome = task'.ending outcome := by
        simp only [Task.ending, hserial, howner]
      simp only
      rw [hending]
      exact hworld.conclude _

/-- A request is preempted alike in worlds that are alike, if those who see something look. -/
theorem Alike.preempt (h : a.Alike b) {task task' : Task} {others others' : List Task}
    (htask : task.dormant = task'.dormant)
    (hothers : others.map Task.dormant = others'.map Task.dormant)
    (hlooks : task.errand.sees a.snapshot = true → task.looks = true)
    (hlooks' : task'.errand.sees b.snapshot = true → task'.looks = true) :
    (a.preempt setup task others).Alike
      (b.preempt { setup with policy := q } task' others') := by
  obtain ⟨hserial, howner, herrand⟩ := Task.same_of_dormant htask
  have hturn := Alike.takeTurn setup q h htask hothers hlooks hlooks'
  simp only [World.preempt]
  rw [← herrand] at hlooks' ⊢
  split
  · rename_i x hexchange
    rw [hexchange] at hlooks hlooks'
    have hgiven : (task.looks = true ∧ a.snapshot.abandoned = true)
        ↔ (task'.looks = true ∧ b.snapshot.abandoned = true) := by
      rw [← h.snapshot] at hlooks' ⊢
      exact ⟨fun hboth => ⟨hlooks' hboth.2, hboth.2⟩, fun hboth => ⟨hlooks hboth.2, hboth.2⟩⟩
    by_cases habandoned : task.looks = true ∧ a.snapshot.abandoned = true
    · rw [if_pos habandoned, if_pos (hgiven.1 habandoned)]
      have hending : task.ending (.answered .abandonment (x.send .unavailable))
          = task'.ending (.answered .abandonment (x.send .unavailable)) := by
        simp only [Task.ending, hserial, howner]
      rw [hending]
      exact ((h.withTasks hothers).release setup.policy q).conclude _
    · rw [if_neg habandoned, if_neg fun hboth => habandoned (hgiven.2 hboth)]
      exact hturn
  · exact hturn

/-- A caller gives a slot back alike in worlds that are alike. -/
theorem Alike.leaveGuard (h : a.Alike b) (p : WakePolicy) (id : String) :
    AlikeWith (a.leaveGuard p id) (b.leaveGuard q id) := by
  have hdropped : Alike { a with guards := a.guards.erase id } { b with guards := b.guards.erase id } :=
    h.lift (fun w => { w with guards := w.guards.erase id }) fun _ => rfl
  simp only [World.leaveGuard, h.guards]
  split
  · rw [h.guards] at hdropped
    exact ⟨hdropped.release p q, rfl⟩
  · exact ⟨h, rfl⟩

/-- A caller keeps a slot alike in worlds that are alike. -/
theorem Alike.keepGuard (h : a.Alike b) (p : WakePolicy) (id : String) :
    (a.keepGuard p id).Alike (b.keepGuard q id) :=
  (h.leaveGuard q p id).world.lift (fun w => { w with guards := w.guards ++ [id] }) fun _ => rfl

/-- A task is started alike in worlds that are alike. -/
theorem Alike.start (h : a.Alike b) (owner : Owner) (errand : Errand) :
    (a.start owner errand).Alike (b.start owner errand) := by
  have hcounted : Alike { a with started := a.started + 1 } { b with started := b.started + 1 } :=
    h.lift (fun w => { w with started := w.started + 1 }) fun _ => rfl
  refine hcounted.withTasks ?_
  rw [List.map_append, List.map_append, h.tasks, h.started]

/-- A task is cancelled alike in worlds that are alike. -/
theorem Alike.cancel (h : a.Alike b) (p : WakePolicy) (id : String) :
    AlikeWith (a.cancel p id) (b.cancel q id) := by
  have hfound := Task.takeFirst_dormant (fun task => task.owner = .caller id)
    (fun task => by simp only [Task.dormant_owner]) h.tasks
  simp only [World.cancel]
  generalize Task.takeFirst (fun task => task.owner = .caller id) a.tasks = found at hfound ⊢
  generalize Task.takeFirst (fun task => task.owner = .caller id) b.tasks = found' at hfound ⊢
  cases hfound with
  | none => exact ⟨h, rfl⟩
  | @some x y hsame =>
    obtain ⟨hserial, howner, herrand⟩ := Task.same_of_dormant hsame.1
    have hending : x.1.ending .cancelled = y.1.ending .cancelled := by
      simp only [Task.ending, hserial, howner]
    have hothers := h.withTasks hsame.2
    simp only [herrand, hending]
    split
    · exact ⟨(hothers.release p q).conclude _, rfl⟩
    · exact ⟨hothers.conclude _, rfl⟩

/-- Callers do the same under any two policies. -/
theorem Alike.act (h : a.Alike b) {step : Step} (hsleep : ∀ milliseconds, step ≠ .sleep milliseconds) :
    (a.act setup step).1.Alike (b.act { setup with policy := q } step).1 := by
  cases step with
  | advance target =>
    obtain ⟨v, w, accepted, hworld, hv, hw⟩ := (h.advance setup.policy q target).eta
    simp only [World.act, hv, hw]
    cases accepted <;> exact hworld
  | enter id =>
    obtain ⟨v, w, accepted, hworld, hv, hw⟩ := (h.enter setup.policy q).eta
    simp only [World.act, hv, hw]
    cases accepted with
    | true => exact hworld.keepGuard q setup.policy id
    | false => exact hworld
  | leave id => exact (h.leaveGuard q setup.policy id).world
  | beginDrain cause => exact (h.beginDrain setup.policy q cause).world
  | abandon => exact (h.abandon setup.policy q).world
  | drain id => exact h.start (.caller id) (.awaitShutdown .report)
  | awaitPhase id target => exact h.start (.caller id) (.awaitPhase target)
  | awaitAbandonment id => exact h.start (.caller id) .awaitAbandonment
  | request id surface request =>
    cases request with
    | none => exact h
    | some request => exact h.start (.caller id) (.arrive surface request)
  | cancel id => exact (h.cancel q setup.policy id).world
  | sleep milliseconds => exact absurd rfl (hsleep milliseconds)
  | health checkup =>
    simp only [World.act, h.checkup]
    split
    · exact h.lift (fun w => { w with checkup := some checkup }) fun _ => rfl
    · exact h
  | report probe => exact h
  | metrics => exact h
  | inspect => exact h

/-- What is done to each task without regard to the marks is done alike. -/
theorem Alike.mapTasks (h : a.Alike b) {f : Task → Task}
    (hf : ∀ task : Task, (f task).dormant = (f task.dormant).dormant) :
    Alike { a with tasks := a.tasks.map f } { b with tasks := b.tasks.map f } := by
  have hmap : ∀ tasks : List Task, (tasks.map f).map Task.dormant
      = ((tasks.map Task.dormant).map f).map Task.dormant := by
    intro tasks
    rw [List.map_map, List.map_map, List.map_map]
    exact List.map_congr_left fun task _ => hf task
  refine h.withTasks ?_
  rw [hmap a.tasks, hmap b.tasks, h.tasks]

/-- The task whose turn it is takes it alike, if tasks miss nothing. -/
theorem Alike.takeOut (h : a.Alike b) (ha : a.Watchful) (hb : b.Watchful) (serial : Nat)
    {turnA turnB : Task → List Task → World}
    (hturn : ∀ {task task' : Task} {others others' : List Task}, task.dormant = task'.dormant →
      others.map Task.dormant = others'.map Task.dormant →
      (task.errand.sees a.snapshot = true → task.looks = true) →
      (task'.errand.sees b.snapshot = true → task'.looks = true) →
      (turnA task others).Alike (turnB task' others')) :
    Alike
      (match Task.takeFirst (fun task => task.serial = serial) a.tasks with
        | none => a
        | some (task, others) => turnA task others)
      (match Task.takeFirst (fun task => task.serial = serial) b.tasks with
        | none => b
        | some (task, others) => turnB task others) := by
  have hsame := Task.takeFirst_dormant (fun task => task.serial = serial)
    (fun task => by simp only [Task.dormant_serial]) h.tasks
  have hmem : ∀ {tasks others : List Task} {task : Task},
      Task.takeFirst (fun task => task.serial = serial) tasks = some (task, others) →
      task ∈ tasks := by
    intro tasks others task hfound
    obtain ⟨front, back, hsplit, -⟩ := Task.takeFirst_eq_some hfound
    rw [hsplit]
    exact List.mem_append_right _ List.mem_cons_self
  generalize hfound : Task.takeFirst (fun task => task.serial = serial) a.tasks = found at hsame
  generalize hfound' : Task.takeFirst (fun task => task.serial = serial) b.tasks = found' at hsame
  cases hsame with
  | none => exact h
  | @some x y htaken =>
    exact hturn htaken.1 htaken.2 (ha _ (hmem hfound)) (hb _ (hmem hfound'))

/-- A move does the same to worlds whose tasks miss nothing, if the clock may tick in both or in none. -/
theorem Alike.move (h : a.Alike b) (ha : a.Watchful) (hb : b.Watchful) (move : Move)
    (hticks : ∀ milliseconds, move = .tick milliseconds →
      a.canTick milliseconds = b.canTick milliseconds) :
    (a.move setup move).Alike (b.move { setup with policy := q } move) := by
  cases move with
  | act step =>
    by_cases hsleep : ∃ milliseconds, step = .sleep milliseconds
    · obtain ⟨milliseconds, rfl⟩ := hsleep
      exact h
    · have hstep : ∀ milliseconds, step ≠ .sleep milliseconds := fun milliseconds hsame =>
        hsleep ⟨milliseconds, hsame⟩
      have hact : ∀ setup (w : World), w.move setup (.act step) = (w.act setup step).1 := by
        intro setup w
        cases step <;> first | rfl | exact absurd rfl (hstep _)
      rw [hact, hact]
      exact h.act setup q hstep
  | turn serial => exact h.takeOut ha hb serial (h.takeTurn setup q)
  | preempt serial => exact h.takeOut ha hb serial (h.preempt setup q)
  | tick milliseconds =>
    simp only [World.move, hticks milliseconds rfl]
    split
    · exact h.lift (fun w => { w with clock := w.clock + milliseconds }) fun _ => rfl
    · exact h
  | ring timer =>
    simp only [World.move, h.isDue]
    split
    · exact h.mapTasks (Task.dormant_noticeTime · timer)
    · exact h
  | release key => exact h.mapTasks (Task.dormant_releaseTask · key)
  | signal name => exact h.mapTasks (Task.dormant_catchSignal · name)
  | watchSignals => exact h.start .service (.watchSignals none)
  | startServer surface address => exact h.start .service (.startServer surface address)
  | listen surfaces => exact h.start .service (.awaitShutdown (.close surfaces))

end Moves

end World

end GracefulService
