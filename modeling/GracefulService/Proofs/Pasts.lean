import GracefulService.Serve.Script

/-!
# The past of a service

A service writes down what happens and never reads it back: the log, the ends of tasks, the calls of its
delegate, the counts of answered probes. Nor does it look at the numbers of its tasks, or at ids beyond
those that it gives out. So it goes on from any past in the same way: whatever is done to it has the same
answer, and adds the same to the past.
-/

namespace GracefulService

open Http

namespace Meters

/-- So many more of what `key` counts. -/
def countMore (key : Probe × Status) (n : Nat) :
    List ((Probe × Status) × Nat) → List ((Probe × Status) × Nat)
  | [] => [(key, n)]
  | (other, m) :: rest =>
    if other = key then (other, m + n) :: rest else (other, m) :: countMore key n rest

/-- Counts on top of earlier ones. -/
def gather (earlier later : List ((Probe × Status) × Nat)) : List ((Probe × Status) × Nat) :=
  later.foldl (fun counts (key, n) => countMore key n counts) earlier

section Counts

variable {key other : Probe × Status} {n : Nat} {counts : List ((Probe × Status) × Nat)}

/-- To count up is to count one more. -/
theorem countUp_eq_countMore (key : Probe × Status) (counts : List ((Probe × Status) × Nat)) :
    countUp key counts = countMore key 1 counts := by
  induction counts with
  | nil => rfl
  | cons first rest ih => simp only [countUp, countMore, ih]

/-- What is counted twice is counted together. -/
theorem countMore_countMore (key : Probe × Status) (m n : Nat)
    (counts : List ((Probe × Status) × Nat)) :
    countMore key n (countMore key m counts) = countMore key (m + n) counts := by
  induction counts with
  | nil => simp only [countMore, if_true]
  | cons first rest ih =>
    simp only [countMore]
    split
    · rename_i hkey
      simp only [countMore, if_pos hkey, Nat.add_assoc]
    · rename_i hkey
      simp only [countMore, if_neg hkey, ih]

/-- What was counted before is still counted. -/
theorem mem_keys_countMore (h : key ∈ counts.map Prod.fst) :
    key ∈ (countMore other n counts).map Prod.fst := by
  induction counts with
  | nil => cases h
  | cons first rest ih =>
    simp only [countMore]
    split
    · exact h
    · rw [List.map_cons, List.mem_cons] at h ⊢
      exact h.imp_right ih

/-- What is counted is among what was counted. -/
theorem mem_keys_self (key : Probe × Status) (n : Nat) (counts : List ((Probe × Status) × Nat)) :
    key ∈ (countMore key n counts).map Prod.fst := by
  induction counts with
  | nil => exact List.mem_cons_self
  | cons first rest ih =>
    simp only [countMore]
    split
    · rename_i hkey
      rw [← hkey]
      exact List.mem_cons_self
    · exact List.mem_cons_of_mem _ ih

/-- What is counted already can be counted before or after anything else. -/
theorem countMore_comm (h : key ∈ counts.map Prod.fst) (m : Nat) :
    countMore key m (countMore other n counts) = countMore other n (countMore key m counts) := by
  by_cases hsame : other = key
  · subst hsame
    rw [countMore_countMore, countMore_countMore, Nat.add_comm]
  · induction counts with
    | nil => cases h
    | cons first rest ih =>
      by_cases hkey : first.1 = key
      · have hother : ¬first.1 = other := fun h => hsame (h.symm.trans hkey)
        simp only [countMore, if_neg hother, if_pos hkey]
      · have hrest : key ∈ rest.map Prod.fst := by
          rw [List.map_cons, List.mem_cons] at h
          exact h.resolve_left fun h => hkey h.symm
        by_cases hother : first.1 = other
        · simp only [countMore, if_pos hother, if_neg hkey]
        · simp only [countMore, if_neg hother, if_neg hkey, ih hrest]

/-- What was counted before may be counted before others are gathered. -/
theorem countMore_gather (h : key ∈ counts.map Prod.fst) (m : Nat)
    (later : List ((Probe × Status) × Nat)) :
    countMore key m (gather counts later) = gather (countMore key m counts) later := by
  induction later generalizing counts with
  | nil => rfl
  | cons first rest ih =>
    have hmem : key ∈ (countMore first.1 first.2 counts).map Prod.fst := mem_keys_countMore h
    have hrest := ih hmem
    rw [countMore_comm h] at hrest
    exact hrest

/-- One more is counted on top of earlier counts as without them. -/
theorem countUp_gather (key : Probe × Status) (earlier later : List ((Probe × Status) × Nat)) :
    countUp key (gather earlier later) = gather earlier (countUp key later) := by
  induction later generalizing earlier with
  | nil => exact countUp_eq_countMore key earlier
  | cons first rest ih =>
    simp only [countUp]
    split
    · rename_i hkey
      have hcounted := countMore_gather (mem_keys_self first.1 first.2 earlier) 1 rest
      rw [countMore_countMore] at hcounted
      rw [← hkey, countUp_eq_countMore]
      exact hcounted
    · exact ih (countMore first.1 first.2 earlier)

end Counts

end Meters

/-- A task under another number. -/
def Task.renumber (number : Nat → Nat) (task : Task) : Task := { task with serial := number task.serial }

/-- An end under another number. -/
def Ending.renumber (number : Nat → Nat) (ending : Ending) : Ending :=
  { ending with serial := number ending.serial }

namespace Task

section Renumber

variable (number : Nat → Nat) (task : Task)

/-- A task is woken to look in the same way under another number. -/
theorem notice_renumber : (task.renumber number).notice = task.notice.renumber number := by
  unfold notice renumber
  split <;> rfl

/-- A task is told about the end of another in the same way under another number. -/
theorem noticeTask_renumber : (task.renumber number).noticeTask = task.noticeTask.renumber number := by
  unfold noticeTask renumber
  split <;> rfl

/-- A task is told about a moment in the same way under another number. -/
theorem noticeTime_renumber (timer : Timer) :
    (task.renumber number).noticeTime timer = (task.noticeTime timer).renumber number := by
  unfold noticeTime renumber
  split <;> rfl

/-- The first of a kind stays the first when tasks are changed without regard to the kind. -/
theorem takeFirst_map {kind : Task → Bool} {f : Task → Task} (hkind : ∀ task, kind (f task) = kind task)
    (tasks : List Task) :
    takeFirst kind (tasks.map f) = (takeFirst kind tasks).map (Prod.map f (List.map f)) := by
  induction tasks with
  | nil => rfl
  | cons first rest ih =>
    simp only [List.map_cons, takeFirst, hkind, ih]
    split
    · rfl
    · cases takeFirst kind rest <;> rfl

end Renumber

end Task

/-- What lies behind a service, and the ids that lie before it. -/
structure Past where
  /-- What has happened. -/
  log : List Event
  /-- How tasks have ended. -/
  finished : List Ending
  /-- The requests that the delegate has been called with. -/
  calls : List Request
  /-- How often the probes have given each status. -/
  probes : List ((Probe × Status) × Nat)
  /-- The numbers of the tasks. -/
  number : Nat → Nat
  /-- How many more ids are those that the service would give out without a past. -/
  lead : Nat
  /-- The ids after those. -/
  ids : Nat → String

/-- The same past, with some more of the ids that the service would give out without it. -/
def Past.ahead (past : Past) (n : Nat) : Past := { past with lead := past.lead + n }

/-- The ids that the service is to give out. -/
def Past.tape (past : Past) (ids : Nat → String) : Nat → String := fun n =>
  if n < past.lead then ids n else past.ids (n - past.lead)

/-- Ids that are ahead twice are ahead together. -/
theorem Past.ahead_ahead (past : Past) (m n : Nat) : (past.ahead m).ahead n = past.ahead (m + n) := by
  simp only [ahead, Nat.add_assoc]

namespace World

/-- The service as it goes on from a past. -/
def resume (past : Past) (w : World) : World :=
  { w with
    meters := { w.meters with probes := Meters.gather past.probes w.meters.probes }
    log := past.log ++ w.log
    ids := past.tape w.ids
    started := past.number w.started
    tasks := w.tasks.map (Task.renumber past.number)
    finished := past.finished ++ w.finished.map (Ending.renumber past.number)
    calls := past.calls ++ w.calls }

section Resume

variable (past : Past) (w : World)

/-- A past leaves the snapshot. -/
@[simp]
theorem resume_snapshot : (w.resume past).snapshot = w.snapshot := rfl

/-- A past leaves the health check. -/
@[simp]
theorem resume_checkup : (w.resume past).checkup = w.checkup := rfl

/-- A past leaves the clock. -/
@[simp]
theorem resume_clock : (w.resume past).clock = w.clock := rfl

/-- A past leaves the tasks but for their numbers. -/
@[simp]
theorem resume_tasks : (w.resume past).tasks = w.tasks.map (Task.renumber past.number) := rfl

/-- An event is told in the same way after any past. -/
@[simp]
theorem tell_resume (event : Event) : (w.resume past).tell event = (w.tell event).resume past := by
  simp only [tell, resume, List.append_assoc]

/-- A number is recorded in the same way after any past. -/
@[simp]
theorem record_resume (reading : Reading) :
    (w.resume past).record reading = (w.record reading).resume past := by
  cases reading with
  | probe probe status => simp only [record, resume, Meters.record, Meters.countUp_gather]
  | admission accepted => cases accepted <;> rfl
  | phase phase => rfl
  | inFlight count => rfl

/-- Tasks are changed in the same way after any past, if numbers make no difference. -/
theorem mapTasks_resume {f : Task → Task}
    (hf : ∀ task : Task, f (task.renumber past.number) = (f task).renumber past.number) :
    { w.resume past with tasks := (w.resume past).tasks.map f }
      = resume past { w with tasks := w.tasks.map f } := by
  have htasks : (w.resume past).tasks.map f = (w.tasks.map f).map (Task.renumber past.number) := by
    rw [resume_tasks, List.map_map, List.map_map]
    exact List.map_congr_left fun task _ => hf task
  rw [htasks]
  rfl

/-- A change is installed in the same way after any past. -/
@[simp]
theorem install_resume (policy : WakePolicy) (change : Change) :
    (w.resume past).install policy change = (w.install policy change).resume past := by
  have hnoticed := mapTasks_resume past { w with snapshot := change.after }
    (Task.notice_renumber past.number)
  simp only [install]
  split
  · exact hnoticed
  · rfl

/-- A step forward comes to the same after any past. -/
@[simp]
theorem advance_resume (policy : WakePolicy) (target : Phase) :
    (w.resume past).advance policy target = Prod.map (resume past) id (w.advance policy target) := by
  simp only [advance, resume_snapshot]
  cases w.snapshot.advance target with
  | none => rfl
  | some change => simp only [install_resume, tell_resume, record_resume, Prod.map, id]

/-- A slot is taken in the same way after any past. -/
@[simp]
theorem enter_resume (policy : WakePolicy) :
    (w.resume past).enter policy = Prod.map (resume past) id (w.enter policy) := by
  simp only [enter, resume_snapshot]
  cases w.snapshot.enter with
  | none => simp only [record_resume, tell_resume, Prod.map, id]
  | some change => simp only [install_resume, record_resume, Prod.map, id]

/-- A slot is given back in the same way after any past. -/
@[simp]
theorem release_resume (policy : WakePolicy) :
    (w.resume past).release policy = (w.release policy).resume past := by
  simp only [release, uncount, resume_snapshot]
  cases w.snapshot.leave with
  | none => simp only [tell_resume]
  | some change => simp only [install_resume, record_resume, tell_resume]

/-- The shutdown begins in the same way after any past. -/
@[simp]
theorem beginDrain_resume (policy : WakePolicy) (cause : Cause) :
    (w.resume past).beginDrain policy cause = Prod.map (resume past) id (w.beginDrain policy cause) := by
  simp only [beginDrain, resume_snapshot]
  cases w.snapshot.beginDrain cause with
  | none => simp only [tell_resume, Prod.map, id]
  | some change => simp only [install_resume, tell_resume, record_resume, Prod.map, id]

/-- Requests are given up in the same way after any past. -/
@[simp]
theorem abandon_resume (policy : WakePolicy) :
    (w.resume past).abandon policy = Prod.map (resume past) id (w.abandon policy) := by
  simp only [abandon, resume_snapshot]
  cases w.snapshot.abandon with
  | none => rfl
  | some change => simp only [install_resume, tell_resume, Prod.map, id]

/-- A task ends in the same way after any past. -/
@[simp]
theorem conclude_resume (ending : Ending) :
    (w.resume past).conclude (ending.renumber past.number) = (w.conclude ending).resume past := by
  have hnoticed := mapTasks_resume past { w with finished := w.finished ++ [ending] }
    (Task.noticeTask_renumber past.number)
  rw [conclude, conclude, ← hnoticed]
  simp only [resume, List.map_append, List.map_cons, List.map_nil, List.append_assoc]

/-- The delegate is called in the same way after any past. -/
@[simp]
theorem call_resume (request : Request) : (w.resume past).call request = (w.call request).resume past := by
  simp only [call, resume, List.append_assoc]

/-- A moment has come after any past or after none. -/
theorem isDue_resume (timer : Timer) : (w.resume past).isDue timer = w.isDue timer := rfl

/-- A server runs after any past or after none. -/
@[simp]
theorem hasServer_resume (surface : Surface) : (w.resume past).hasServer surface = w.hasServer surface := by
  simp only [hasServer, resume_tasks, List.any_map]
  rfl

/-- A connection is open after any past or after none. -/
@[simp]
theorem hasConnection_resume (surface : Surface) :
    (w.resume past).hasConnection surface = w.hasConnection surface := by
  simp only [hasConnection, resume_tasks, List.any_map]
  rfl

/-- A server is given up in the same way after any past. -/
@[simp]
theorem abortServer_resume (surface : Surface) :
    (w.resume past).abortServer surface = (w.abortServer surface).resume past := by
  simp only [abortServer, resume, List.filter_map]
  rfl

/-- A probe is answered in the same way after any past. -/
@[simp]
theorem answerProbe_resume (probe : Probe) (request : Request) :
    (w.resume past).answerProbe probe request
      = Prod.map (resume past) id (w.answerProbe probe request) := by
  simp only [answerProbe, resume_snapshot, resume_checkup, record_resume]
  split <;> simp only [tell_resume, Prod.map, id]

/-- A control route answers in the same way after any past. -/
@[simp]
theorem answerControl_resume (policy : WakePolicy) (action : Control) (request : Request) :
    (w.resume past).answerControl policy action request
      = Prod.map (resume past) id (w.answerControl policy action request) := by
  cases action with
  | probe probe => exact answerProbe_resume past w probe request
  | markdown =>
    simp only [answerControl, answerMarkdown, beginDrain_resume]
    obtain ⟨v, began⟩ := w.beginDrain policy .markedDown
    cases began with
    | true => simp only [Prod.map, id, if_true, tell_resume]
    | false => rfl

/-- The delegate begins in the same way after any past. -/
@[simp]
theorem beginWork_resume (work : Work) :
    (w.resume past).beginWork work = Prod.map (resume past) id (w.beginWork work) := by
  cases work <;> rfl

/-- A request is answered in the same way after any past. -/
@[simp]
theorem endExchange_resume (policy : WakePolicy) (x : Exchange) (answerer : Answerer)
    (response : Response) :
    (w.resume past).endExchange policy x answerer response
      = Prod.map (resume past) id (w.endExchange policy x answerer response) := by
  simp only [endExchange, release_resume, Prod.map, id]

/-- A request is handed over in the same way after any past. -/
@[simp]
theorem handOver_resume (policy : WakePolicy) (surface : Surface) (request : Request)
    (handling : Handling) :
    (w.resume past).handOver policy surface request handling
      = Prod.map (resume past) id (w.handOver policy surface request handling) := by
  simp only [handOver, call_resume, beginWork_resume]
  obtain ⟨v, progress⟩ := (w.call request).beginWork handling.work
  cases progress with
  | done response => exact endExchange_resume past v policy _ _ _
  | paused | held => rfl

/-- The gate decides in the same way after any past. -/
@[simp]
theorem passGate_resume (setup : Setup) (surface : Surface) (request : Request) :
    (w.resume past).passGate setup surface request
      = Prod.map (resume past) id (w.passGate setup surface request) := by
  simp only [passGate, enter_resume]
  obtain ⟨v, accepted⟩ := w.enter setup.policy
  cases accepted with
  | true => exact handOver_resume past v setup.policy surface request _
  | false => rfl

/-- A drain ends in the same way after any past. -/
@[simp]
theorem endDrain_resume (policy : WakePolicy) (sequel : Sequel) :
    (w.resume past).endDrain policy sequel = Prod.map (resume past) id (w.endDrain policy sequel) := by
  simp only [endDrain, advance_resume, Prod.map, id]

end Resume

/-- How many ids are given out for a request that arrives. -/
def drawn (surface : Surface) (request : Request) : Nat :=
  match surface, request.id? with
  | .primary, none => 1
  | _, _ => 0

end World

/-- How many ids are given out in a turn. -/
def Errand.draws : Errand → Nat
  | arrive surface request => World.drawn surface request
  | _ => 0

namespace World

section Turns

variable (setup : Setup) (past : Past) (w : World)

/-- The next id is given out after any past that leaves it ahead. -/
theorem freshId_resume :
    (w.resume (past.ahead 1)).freshId = Prod.map (resume past) id w.freshId := by
  have hids : (fun n => (past.ahead 1).tape w.ids (n + 1)) = past.tape fun n => w.ids (n + 1) := by
    funext n
    simp only [Past.tape, Past.ahead, Nat.add_lt_add_iff_right, Nat.add_sub_add_right]
  have hfirst : (past.ahead 1).tape w.ids 0 = w.ids 0 := if_pos (Nat.succ_pos _)
  have hlater : (w.resume (past.ahead 1)).freshId.1 = resume past w.freshId.1 := by
    simp only [freshId, resume, hids]
    rfl
  exact Prod.ext hlater hfirst

/-- A request is identified in the same way after any past that leaves its id ahead. -/
theorem identify_resume (surface : Surface) (request : Request) :
    (w.resume (past.ahead (drawn surface request))).identify surface request
      = Prod.map (resume past) id (w.identify surface request) := by
  cases surface with
  | management => rfl
  | primary =>
    cases hid : request.id? with
    | some given =>
      simp only [identify, drawn, hid]
      rfl
    | none => simp only [identify, drawn, hid, freshId_resume, Prod.map, id]

/-- A request is received in the same way after any past that leaves its id ahead. -/
theorem receive_resume (surface : Surface) (request : Request) :
    (w.resume (past.ahead (drawn surface request))).receive setup surface request
      = Prod.map (resume past) id (w.receive setup surface request) := by
  simp only [receive, identify_resume]
  obtain ⟨v, identified⟩ := w.identify surface request
  simp only [Prod.map, id]
  cases setup.site.destination surface identified with
  | control action => simp only [answerControl_resume, Prod.map, id]
  | otherMethods allowed => rfl
  | gate => exact passGate_resume past v setup surface identified
  | nowhere => rfl

/-- A request in flight takes its turn in the same way after any past. -/
theorem turnExchange_resume (policy : WakePolicy) (looks : Bool) (x : Exchange) :
    (w.resume past).turnExchange policy looks x
      = (w.turnExchange policy looks x).map (Prod.map (resume past) id) := by
  simp only [turnExchange, resume_snapshot, isDue_resume, endExchange_resume]
  cases x.progress with
  | done response => rfl
  | paused timer response =>
    simp only
    split
    · rfl
    · split <;> rfl
  | held key response =>
    simp only
    split <;> rfl

/-- A drain waits in the same way after any past. -/
theorem turnAwaitIdle_resume (looks : Bool) (sequel : Sequel) (timer : Timer) :
    (w.resume past).turnAwaitIdle setup looks sequel timer
      = (w.turnAwaitIdle setup looks sequel timer).map (Prod.map (resume past) id) := by
  simp only [turnAwaitIdle, resume_snapshot, isDue_resume, endDrain_resume, tell_resume]
  split
  · rfl
  · split <;> rfl

/-- Servers are closed in the same way after any past. -/
theorem turnCloseServers_resume (policy : WakePolicy) (cause : Cause) (timer : Timer)
    (surfaces : List Surface) :
    (w.resume past).turnCloseServers policy cause timer surfaces
      = (w.turnCloseServers policy cause timer surfaces).map (Prod.map (resume past) id) := by
  cases surfaces with
  | nil => simp only [turnCloseServers, tell_resume, Option.map, Prod.map, id]
  | cons surface surfaces =>
    simp only [turnCloseServers, hasServer_resume, isDue_resume, tell_resume, abandon_resume]
    split
    · rfl
    · split
      · simp only [Prod.map, id, abortServer_resume, Option.map]
      · rfl

/-- Signals are watched in the same way after any past. -/
theorem turnWatchSignals_resume (policy : WakePolicy) (looks : Bool) (caught : Option String) :
    (w.resume past).turnWatchSignals policy looks caught
      = (w.turnWatchSignals policy looks caught).map (Prod.map (resume past) id) := by
  cases caught with
  | some name =>
    simp only [turnWatchSignals, tell_resume, beginDrain_resume, Option.map, Prod.map, id]
  | none =>
    simp only [turnWatchSignals]
    rw [apply_ite (Option.map _)]
    rfl

/-- A turn gives the same when the service goes on from a past. -/
theorem turn_resume (looks : Bool) (errand : Errand) :
    (w.resume (past.ahead errand.draws)).turn setup looks errand
      = (w.turn setup looks errand).map (Prod.map (resume past) id) := by
  -- Only a request that arrives can be given an id.
  by_cases harrives : ∃ surface request, errand = .arrive surface request
  · obtain ⟨surface, request, rfl⟩ := harrives
    exact congrArg some (receive_resume setup past w surface request)
  · have hahead : past.ahead errand.draws = past := by
      cases errand with
      | arrive surface request => exact absurd ⟨surface, request, rfl⟩ harrives
      | _ => rfl
    rw [hahead]
    cases errand with
    | arrive surface request => exact absurd ⟨surface, request, rfl⟩ harrives
    | awaitIdle sequel timer => exact turnAwaitIdle_resume setup past w looks sequel timer
    | readCause sequel => cases sequel <;> rfl
    | closeServers cause timer surfaces =>
      exact turnCloseServers_resume past w setup.policy cause timer surfaces
    | startServer surface address => simp only [turn, tell_resume, Option.map, Prod.map, id]
    | watchSignals caught => exact turnWatchSignals_resume past w setup.policy looks caught
    | exchange x => exact turnExchange_resume past w setup.policy looks x
    | finishServer surface =>
      simp only [turn, hasConnection_resume, tell_resume]
      split <;> rfl
    | _ =>
      simp only [turn]
      rw [apply_ite (Option.map _)]
      rfl

/-- A turn is taken in the same way when the service goes on from a past. -/
theorem takeTurn_resume (task : Task) (others : List Task) :
    (w.resume (past.ahead task.errand.draws)).takeTurn setup (task.renumber past.number)
        (others.map (Task.renumber past.number))
      = (w.takeTurn setup task others).resume past := by
  have hturn := turn_resume setup past { w with tasks := others } task.looks task.errand
  have hothers : { w.resume (past.ahead task.errand.draws) with
      tasks := others.map (Task.renumber past.number) }
        = resume (past.ahead task.errand.draws) { w with tasks := others } := rfl
  rw [← hothers] at hturn
  simp only [takeTurn]
  rw [show (task.renumber past.number).looks = task.looks from rfl,
    show (task.renumber past.number).errand = task.errand from rfl, hturn]
  cases hturned : turn setup { w with tasks := others } task.looks task.errand with
  | none =>
    have hdraws : task.errand.draws = 0 := by
      cases herrand : task.errand with
      | arrive surface request => simp [herrand, turn] at hturned
      | _ => rfl
    rw [hdraws]
    simp only [Option.map, resume, List.map_append]
    rfl
  | some turned =>
    obtain ⟨after, next⟩ := turned
    cases next with
    | goOn errand => rfl
    | finish outcome => exact conclude_resume past after (task.ending outcome)

end Turns

end World

end GracefulService
