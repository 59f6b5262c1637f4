import GracefulService.Serve.Turn

/-!
# What is left to do

Tasks take turns one after the other. The stages that they have left bound the turns that can follow
without time passing: a turn that is not in vain takes a stage away from its task and adds none to
another, and a turn in vain puts its task to sleep.
-/

namespace GracefulService

namespace World

/-- How many stages the tasks have left. -/
def stagesLeft : List Task → Nat
  | [] => 0
  | task :: tasks => task.errand.stages + stagesLeft tasks

/-- How many tasks are due for a turn. -/
def wokenCount (tasks : List Task) : Nat := tasks.countP Task.woken

/-- A bound on the turns that can follow without time passing. -/
def effort (w : World) : Nat :=
  stagesLeft w.tasks * (w.tasks.length + 1) + wokenCount w.tasks

/-- A task takes its turn beside the others. One that goes on comes first again; one that waits comes
last. -/
def takeTurn (setup : Setup) (w : World) (task : Task) (others : List Task) : World :=
  match turn setup { w with tasks := others } task.looks task.errand with
  | none => { w with tasks := others ++ [task.asleep] }
  | some (after, .goOn errand) => { after with tasks := task.goOn errand :: after.tasks }
  | some (after, .finish outcome) => after.conclude (task.ending outcome)

/-- The next turn, when one is due. -/
def step? (setup : Setup) (w : World) : Option World :=
  (Task.takeFirst Task.woken w.tasks).map fun (task, others) => w.takeTurn setup task others

/-- A world whose tasks have at most as much left to do as those of another. -/
structure Eased (before after : World) : Prop where
  /-- No stage has been added. -/
  stages : stagesLeft after.tasks ≤ stagesLeft before.tasks
  /-- No task has been added. -/
  length : after.tasks.length ≤ before.tasks.length

/-- A world is no harder than itself. -/
theorem Eased.refl (w : World) : Eased w w := ⟨Nat.le_refl _, Nat.le_refl _⟩

/-- What is eased twice is eased. -/
theorem Eased.trans {a b c : World} (ab : Eased a b) (bc : Eased b c) : Eased a c :=
  ⟨Nat.le_trans bc.stages ab.stages, Nat.le_trans bc.length ab.length⟩

/-- The same tasks are no harder. -/
theorem Eased.of_eq {a b : World} (h : b.tasks = a.tasks) : Eased a b :=
  ⟨Nat.le_of_eq (by rw [h]), Nat.le_of_eq (by rw [h])⟩

/-- An event makes nothing harder. -/
theorem eased_tell (w : World) (event : Event) : Eased w (w.tell event) := .of_eq rfl

/-- Tasks that are changed but for their errands have as many stages left. -/
theorem stagesLeft_map {f : Task → Task} (hf : ∀ task, (f task).errand = task.errand)
    (tasks : List Task) : stagesLeft (tasks.map f) = stagesLeft tasks := by
  induction tasks with
  | nil => rfl
  | cons task tasks ih => simp only [List.map_cons, stagesLeft, hf, ih]

/-- The stages of two lists of tasks add up. -/
theorem stagesLeft_append (before after : List Task) :
    stagesLeft (before ++ after) = stagesLeft before + stagesLeft after := by
  induction before with
  | nil => simp [stagesLeft]
  | cons task tasks ih => simp only [List.cons_append, stagesLeft, ih, Nat.add_assoc]

/-- A task that is woken to look keeps its errand. -/
theorem notice_errand (task : Task) : task.notice.errand = task.errand := by
  unfold Task.notice; split <;> rfl

/-- A task that is told about the end of another keeps its errand. -/
theorem noticeTask_errand (task : Task) : task.noticeTask.errand = task.errand := by
  unfold Task.noticeTask; split <;> rfl

/-- A task that is told about a moment keeps its errand. -/
theorem noticeTime_errand (timer : Timer) (task : Task) :
    (task.noticeTime timer).errand = task.errand := by
  unfold Task.noticeTime; split <;> rfl

/-- A change that is installed makes nothing harder. -/
theorem eased_install (policy : WakePolicy) (w : World) (change : Change) :
    Eased w (w.install policy change) := by
  unfold install
  constructor
  · simp only
    split
    · exact Nat.le_of_eq (stagesLeft_map notice_errand _)
    · exact Nat.le_refl _
  · simp only
    split
    · simp
    · exact Nat.le_refl _

/-- A step forward makes nothing harder. -/
theorem eased_advance (policy : WakePolicy) (w : World) (target : Phase) :
    Eased w (w.advance policy target).1 := by
  unfold advance
  split
  · exact (eased_install policy w _).trans (.of_eq rfl)
  · exact .refl w

/-- A slot that is asked for makes nothing harder. -/
theorem eased_enter (policy : WakePolicy) (w : World) : Eased w (w.enter policy).1 := by
  unfold enter
  split
  · exact (eased_install policy w _).trans (.of_eq rfl)
  · exact .of_eq rfl

/-- A slot that is given back makes nothing harder. -/
theorem eased_release (policy : WakePolicy) (w : World) : Eased w (w.release policy) := by
  refine Eased.trans (b := w.uncount policy) ?_ (.of_eq rfl)
  unfold uncount
  split
  · exact (eased_install policy w _).trans (.of_eq rfl)
  · exact .of_eq rfl

/-- The beginning of the shutdown makes nothing harder. -/
theorem eased_beginDrain (policy : WakePolicy) (w : World) (cause : Cause) :
    Eased w (w.beginDrain policy cause).1 := by
  unfold beginDrain
  split
  · exact (eased_install policy w _).trans (.of_eq rfl)
  · exact .of_eq rfl

/-- To give requests up makes nothing harder. -/
theorem eased_abandon (policy : WakePolicy) (w : World) : Eased w (w.abandon policy).1 := by
  unfold abandon
  split
  · exact (eased_install policy w _).trans (.of_eq rfl)
  · exact .refl w

/-- The answer of a control route makes nothing harder. -/
theorem eased_answerControl (policy : WakePolicy) (w : World) (action : Control)
    (request : Http.Request) : Eased w (w.answerControl policy action request).1 := by
  cases action with
  | probe probe =>
    simp only [answerControl, answerProbe]
    split <;> exact .of_eq rfl
  | markdown =>
    simp only [answerControl, answerMarkdown]
    refine (eased_beginDrain policy w .markedDown).trans ?_
    split <;> exact .of_eq rfl

/-- To identify a request makes nothing harder. -/
theorem eased_identify (w : World) (surface : Surface) (request : Http.Request) :
    Eased w (w.identify surface request).1 := by
  unfold identify
  split <;> exact .of_eq rfl

/-- What a task goes on with has fewer stages left. -/
def Next.shorter (errand : Errand) : Next → Prop
  | .goOn next => next.stages < errand.stages
  | .finish _ => True

/-- A request that is handed over has fewer stages left. -/
theorem eased_handOver (policy : WakePolicy) (w : World) (surface : Surface) (request : Http.Request)
    (handling : Handling) (first : Http.Request) :
    Eased w (w.handOver policy surface request handling).1
      ∧ Next.shorter (.arrive surface first) (w.handOver policy surface request handling).2 := by
  have called : Eased w (w.call request) := .of_eq rfl
  unfold handOver
  cases handling.work with
  | answer response | broken => exact ⟨called.trans (eased_release policy _), trivial⟩
  | pause milliseconds response => exact ⟨.of_eq rfl, Nat.one_lt_two⟩
  | hold key response => exact ⟨called, Nat.one_lt_two⟩

/-- A request has fewer stages left behind the gate. -/
theorem eased_passGate (setup : Setup) (w : World) (surface : Surface) (request : Http.Request)
    (first : Http.Request) :
    Eased w (w.passGate setup surface request).1
      ∧ Next.shorter (.arrive surface first) (w.passGate setup surface request).2 := by
  have entered := eased_enter setup.policy w
  unfold passGate
  split
  · rename_i h
    rw [h] at entered
    have handed := eased_handOver setup.policy (w.enter setup.policy).1 surface request
      (setup.site.delegate request) first
    rw [h] at handed
    exact ⟨entered.trans handed.1, handed.2⟩
  · rename_i h
    rw [h] at entered
    exact ⟨entered, trivial⟩

/-- A request that was received has fewer stages left. -/
theorem eased_receive (setup : Setup) (w : World) (surface : Surface) (request : Http.Request) :
    Eased w (w.receive setup surface request).1
      ∧ Next.shorter (.arrive surface request) (w.receive setup surface request).2 := by
  have identified := eased_identify w surface request
  unfold receive
  simp only
  split
  · exact ⟨identified.trans (eased_answerControl _ _ _ _), trivial⟩
  · exact ⟨identified, trivial⟩
  · have passed := eased_passGate setup (w.identify surface request).1 surface
      (w.identify surface request).2 request
    exact ⟨identified.trans passed.1, passed.2⟩
  · exact ⟨identified, trivial⟩

/-- A drain that is over has fewer stages left. -/
theorem eased_endDrain (policy : WakePolicy) (w : World) (sequel : Sequel) (timer : Timer) :
    Eased w (w.endDrain policy sequel).1
      ∧ Next.shorter (.awaitIdle sequel timer) (w.endDrain policy sequel).2 :=
  ⟨eased_advance policy w .stopped, by simp [endDrain, Next.shorter, Errand.stages]⟩

/-- A drain that has read the cause has fewer stages left. -/
theorem eased_turnReadCause (setup : Setup) (w : World) (sequel : Sequel) :
    Eased w (w.turnReadCause setup sequel).1
      ∧ Next.shorter (.readCause sequel) (w.turnReadCause setup sequel).2 := by
  cases sequel with
  | report => exact ⟨.refl w, trivial⟩
  | close surfaces =>
    exact ⟨.of_eq rfl, by simp [turnReadCause, Next.shorter, Errand.stages, Sequel.stages]⟩

/-- A server that is given up makes nothing harder. -/
theorem eased_abortServer (w : World) (surface : Surface) : Eased w (w.abortServer surface) := by
  constructor
  · simp only [abortServer]
    induction w.tasks with
    | nil => simp
    | cons task tasks ih =>
      simp only [List.filter_cons]
      split <;> simp only [stagesLeft] <;> omega
  · exact List.length_filter_le _ _

/-- A request that takes its turn has fewer stages left. -/
theorem eased_turnExchange {policy : WakePolicy} {w after : World} {looks : Bool} {x : Exchange}
    {next : Next} (h : w.turnExchange policy looks x = some (after, next)) :
    Eased w after ∧ Next.shorter (.exchange x) next := by
  have ended : ∀ answerer response,
      Eased w (w.endExchange policy x answerer response).1
        ∧ Next.shorter (.exchange x) (w.endExchange policy x answerer response).2 :=
    fun _ _ => ⟨eased_release policy w, trivial⟩
  unfold turnExchange at h
  simp only at h
  repeat' split at h
  all_goals first
    | contradiction
    | (cases Option.some.inj h; exact ended _ _)

/-- A drain that closes a server has fewer stages left. -/
theorem eased_turnCloseServers {policy : WakePolicy} {w after : World} {cause : Cause}
    {timer : Timer} {surfaces : List Surface} {next : Next}
    (h : w.turnCloseServers policy cause timer surfaces = some (after, next)) :
    Eased w after ∧ Next.shorter (.closeServers cause timer surfaces) next := by
  cases surfaces with
  | nil =>
    cases Option.some.inj h
    exact ⟨.of_eq rfl, trivial⟩
  | cons surface surfaces =>
    simp only [turnCloseServers] at h
    split at h
    · cases Option.some.inj h
      exact ⟨.refl w, by simp [Next.shorter, Errand.stages]⟩
    · split at h
      · cases Option.some.inj h
        refine ⟨?_, by simp [Next.shorter, Errand.stages]⟩
        exact ((eased_tell w .serverOverdue).trans (eased_abandon policy _)).trans
          (eased_abortServer _ surface)
      · cases h

/-- A watcher of signals that takes its turn has fewer stages left. -/
theorem eased_turnWatchSignals {policy : WakePolicy} {w after : World} {looks : Bool}
    {caught : Option String} {next : Next}
    (h : w.turnWatchSignals policy looks caught = some (after, next)) :
    Eased w after ∧ Next.shorter (.watchSignals caught) next := by
  cases caught with
  | some name =>
    have begun := (eased_tell w (.signalReceived name)).trans
      (eased_beginDrain policy _ (.signal name))
    cases Option.some.inj h
    exact ⟨begun, trivial⟩
  | none =>
    simp only [turnWatchSignals] at h
    split at h
    · cases Option.some.inj h
      exact ⟨.refl w, trivial⟩
    · cases h

/-- A turn that is not in vain adds nothing to what other tasks have to do and takes a stage away from
its own. -/
theorem eased_turn {setup : Setup} {w after : World} {looks : Bool} {errand : Errand} {next : Next}
    (h : w.turn setup looks errand = some (after, next)) :
    Eased w after ∧ Next.shorter errand next := by
  cases errand with
  | awaitPhase target =>
    simp only [turn] at h
    split at h
    · cases Option.some.inj h; exact ⟨.refl w, trivial⟩
    · cases h
  | awaitAbandonment =>
    simp only [turn] at h
    split at h
    · cases Option.some.inj h; exact ⟨.refl w, trivial⟩
    · cases h
  | awaitShutdown sequel =>
    simp only [turn] at h
    split at h
    · cases Option.some.inj h
      exact ⟨.of_eq rfl, by simp [Next.shorter, Errand.stages]⟩
    · cases h
  | awaitIdle sequel timer =>
    simp only [turn, turnAwaitIdle] at h
    split at h
    · have ended := eased_endDrain setup.policy w sequel timer
      rw [Option.some.inj h] at ended
      exact ended
    · split at h
      · have ended := eased_endDrain setup.policy
          (w.tell (.windowElapsed w.snapshot.inFlight setup.window)) sequel timer
        rw [Option.some.inj h] at ended
        exact ⟨(eased_tell w _).trans ended.1, ended.2⟩
      · cases h
  | readCause sequel =>
    have read := eased_turnReadCause setup w sequel
    rw [Option.some.inj h] at read
    exact read
  | closeServers cause timer surfaces => exact eased_turnCloseServers h
  | startServer surface address =>
    cases Option.some.inj h
    exact ⟨.of_eq rfl, by simp [Next.shorter, Errand.stages]⟩
  | serve surface address =>
    simp only [turn] at h
    split at h
    · cases Option.some.inj h; exact ⟨.refl w, by simp [Next.shorter, Errand.stages]⟩
    · cases h
  | finishServer surface =>
    simp only [turn] at h
    split at h
    · cases h
    · cases Option.some.inj h; exact ⟨.of_eq rfl, trivial⟩
  | watchSignals caught => exact eased_turnWatchSignals h
  | arrive surface request =>
    have received := eased_receive setup w surface request
    rw [Option.some.inj h] at received
    exact received
  | exchange x => exact eased_turnExchange h

/-- Every errand has a stage left. -/
theorem stages_pos (errand : Errand) : 0 < errand.stages := by
  cases errand <;> simp [Errand.stages]

/-- Taking one task out leaves the stages of the others. -/
theorem stagesLeft_split (before after : List Task) (task : Task) :
    stagesLeft (before ++ task :: after) = task.errand.stages + stagesLeft (before ++ after) := by
  simp only [stagesLeft_append, stagesLeft]
  omega

/-- A turn in vain leaves the world as it is but for its task, which comes last. -/
theorem takeTurn_vain {setup : Setup} {w : World} {task : Task} {others : List Task}
    (h : turn setup { w with tasks := others } task.looks task.errand = none) :
    w.takeTurn setup task others = { w with tasks := others ++ [task.asleep] } := by
  simp only [takeTurn, h]

/-- A turn that is not in vain takes at least one stage away. -/
theorem takeTurn_shorter {setup : Setup} {w : World} {task : Task} {others : List Task}
    (h : turn setup { w with tasks := others } task.looks task.errand ≠ none) :
    stagesLeft (w.takeTurn setup task others).tasks < task.errand.stages + stagesLeft others
      ∧ (w.takeTurn setup task others).tasks.length ≤ others.length + 1 := by
  obtain ⟨⟨after, next⟩, turned⟩ := Option.ne_none_iff_exists'.1 h
  obtain ⟨eased, shorter⟩ := eased_turn turned
  have fewer := eased.stages
  have fewerTasks := eased.length
  simp only at fewer fewerTasks
  cases next with
  | goOn errand =>
    simp only [takeTurn, turned, stagesLeft, Task.goOn, List.length_cons]
    simp only [Next.shorter] at shorter
    omega
  | finish outcome =>
    have positive := stages_pos task.errand
    simp only [takeTurn, turned, conclude, stagesLeft_map noticeTask_errand, List.length_map]
    omega

/-- At most all tasks are woken. -/
theorem wokenCount_le (tasks : List Task) : wokenCount tasks ≤ tasks.length :=
  List.countP_le_length

/-- With fewer stages and no more tasks, less is left to do. -/
theorem effort_lt {before after : World} (stages : stagesLeft after.tasks < stagesLeft before.tasks)
    (length : after.tasks.length ≤ before.tasks.length) : after.effort < before.effort := by
  unfold effort
  have woken := wokenCount_le after.tasks
  have product : (stagesLeft after.tasks + 1) * (after.tasks.length + 1)
      ≤ stagesLeft before.tasks * (before.tasks.length + 1) :=
    Nat.mul_le_mul stages (Nat.succ_le_succ length)
  rw [Nat.add_mul] at product
  omega

/-- Every turn that is due takes effort away. -/
theorem step?_effort {setup : Setup} {w after : World} (h : w.step? setup = some after) :
    after.effort < w.effort := by
  obtain ⟨⟨task, others⟩, found, same⟩ := Option.map_eq_some_iff.1 h
  obtain ⟨front, back, split, rest, woken, -⟩ := Task.takeFirst_eq_some found
  have stages := stagesLeft_split front back task
  rw [← split, ← rest] at stages
  simp only at same
  subst same
  by_cases turned : turn setup { w with tasks := others } task.looks task.errand = none
  · rw [takeTurn_vain turned]
    have asleep : task.asleep.woken = false := rfl
    have errand : task.asleep.errand = task.errand := rfl
    simp only [effort, wokenCount, stagesLeft_append, stagesLeft, errand, asleep, split, rest, woken,
      List.countP_append, List.countP_cons, List.countP_nil, List.length_append,
      List.length_cons, List.length_nil, reduceIte, Bool.false_eq_true]
    have same : stagesLeft front + stagesLeft back + (task.errand.stages + 0)
        = stagesLeft front + (task.errand.stages + stagesLeft back) := by omega
    rw [same]
    have length : front.length + back.length + (0 + 1) + 1 = front.length + (back.length + 1) + 1 := by
      omega
    rw [length]
    omega
  · obtain ⟨shorter, length⟩ := takeTurn_shorter turned
    have lengths : w.tasks.length = others.length + 1 := by
      rw [split, rest, List.length_append, List.length_append, List.length_cons]
      omega
    exact effort_lt (by omega) (by omega)

end World

end GracefulService
