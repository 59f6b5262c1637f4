import GracefulService.Proofs.Listeners
import GracefulService.Proofs.Window

/-!
# Servers and who closes them

On each surface that is served there is one server, from the moment at which it is started until it has closed
or is given up. It closes only after the stop, when no connection is left, so no request holds a slot on a
surface whose server has closed. Whoever listens goes over the surfaces one by one: a surface is passed
once its server has closed or, when the grace is over, by giving up the requests in flight together with
the server. Nobody else gives servers up.
-/

namespace GracefulService

open Http

namespace World

/-- How many servers run on a surface among some tasks. -/
def serversOn (surface : Surface) (tasks : List Task) : Nat :=
  tasks.countP fun task => task.errand.server? = some surface

/-- How many servers run on a surface. -/
def running (w : World) (surface : Surface) : Nat := serversOn surface w.tasks

/-- How many servers have closed on a surface. -/
def closed (w : World) (surface : Surface) : Nat :=
  w.finished.countP fun ending => ending.outcome = .closed surface

/-- A server runs on a surface exactly when some are counted there. -/
theorem hasServer_iff {w : World} {surface : Surface} : w.hasServer surface = true ↔ 0 < w.running surface := by
  simp only [hasServer, running, serversOn, List.countP_pos_iff, List.any_eq_true]

/-- No server runs on a surface exactly when no task serves it. -/
theorem running_eq_zero {w : World} {surface : Surface} :
    w.running surface = 0 ↔ ∀ task ∈ w.tasks, task.errand.server? ≠ some surface := by
  simp only [running, serversOn, List.countP_eq_zero, decide_eq_true_eq]

/-- A server has closed on a surface exactly when a task has ended so. -/
theorem closed_pos {w : World} {surface : Surface} :
    0 < w.closed surface ↔ ∃ ending ∈ w.finished, ending.outcome = .closed surface := by
  simp only [closed, List.countP_pos_iff, decide_eq_true_eq]

section Counts

variable {surface : Surface}

/-- The servers among two lists of tasks are those in one and in the other. -/
theorem serversOn_append (front back : List Task) :
    serversOn surface (front ++ back) = serversOn surface front + serversOn surface back :=
  List.countP_append

/-- One more task is one more server if it serves the surface. -/
theorem serversOn_cons (task : Task) (tasks : List Task) : serversOn surface (task :: tasks)
    = serversOn surface tasks + if task.errand.server? = some surface then 1 else 0 := by
  simp [serversOn, List.countP_cons]

/-- Tasks that are changed but for what they serve are as many servers. -/
theorem serversOn_map {f : Task → Task} (hf : ∀ task, (f task).errand.server? = task.errand.server?)
    (tasks : List Task) : serversOn surface (tasks.map f) = serversOn surface tasks := by
  simp only [serversOn, List.countP_map, Function.comp_def, hf]

/-- Telling tasks something leaves the servers there. -/
theorem serversOn_resembles {f : Task → Task} (hf : ∀ task : Task, task.Resembles (f task))
    (tasks : List Task) : serversOn surface (tasks.map f) = serversOn surface tasks :=
  serversOn_map (fun task => congrArg Errand.server? (hf task).errand) tasks

/-- To let a delegate go on changes no server. -/
theorem server?_releaseTask (key : String) (task : Task) :
    (Supervisor.releaseTask key task).errand.server? = task.errand.server? := by
  unfold Supervisor.releaseTask
  split
  · rename_i x herrand
    split
    · split
      · rw [herrand]
        rfl
      · rfl
    · rfl
  · rfl

/-- A signal changes no server. -/
theorem server?_catchSignal (name : String) (task : Task) :
    (Supervisor.catchSignal name task).errand.server? = task.errand.server? := by
  unfold Supervisor.catchSignal
  split
  · rename_i herrand
    rw [herrand]
    rfl
  · rfl

/-- A deed leaves as many servers. -/
theorem running_carryOut (policy : WakePolicy) (w : World) (deed : Deed) :
    (w.carryOut policy deed).running surface = w.running surface :=
  serversOn_resembles (Task.resembles_rouse policy w.snapshot deed) w.tasks

/-- The end of a task beside the others leaves as many servers among them. -/
theorem running_conclude (w : World) (ending : Ending) :
    (w.conclude ending).running surface = w.running surface :=
  serversOn_resembles Task.resembles_noticeTask w.tasks

/-- One more server has closed if a task has ended so. -/
theorem closed_conclude (w : World) (ending : Ending) : (w.conclude ending).closed surface
    = w.closed surface + if ending.outcome = .closed surface then 1 else 0 := by
  simp [closed, conclude, List.countP_append, List.countP_cons]

/-- A slot that is kept leaves as many servers. -/
theorem running_keepGuard (policy : WakePolicy) (w : World) (id : String) :
    (w.keepGuard policy id).running surface = w.running surface :=
  keepGuard_induction w (P := fun after => after.running surface = w.running surface) policy id
    (fun _ _ h => h) (fun after h => (running_carryOut policy after .leave).trans h) rfl

/-- A slot that is kept closes no server. -/
theorem closed_keepGuard (policy : WakePolicy) (w : World) (id : String) :
    (w.keepGuard policy id).closed surface = w.closed surface :=
  keepGuard_induction w (P := fun after => after.closed surface = w.closed surface) policy id
    (fun _ _ h => h) (fun _ h => h) rfl

/-- A task that is taken out may be a server. -/
theorem running_split {w : World} {front back : List Task} {task : Task}
    (hsplit : w.tasks = front ++ task :: back) : w.running surface
      = serversOn surface (front ++ back) + if task.errand.server? = some surface then 1 else 0 := by
  rw [running, hsplit, serversOn_append, serversOn_cons, serversOn_append]
  omega

/-- What a turn does beside its task leaves the servers there, apart from those that it gives up. -/
theorem running_apply (policy : WakePolicy) (effect : Effect) (w : World) :
    (effect.apply policy w).running surface
      = if effect.aborted = some surface then 0 else w.running surface := by
  have hdone : (w.carryOutAll policy effect.deeds).running surface = w.running surface :=
    carryOutAll_induction (P := fun after => after.running surface = w.running surface) policy w
      effect.deeds (fun before deed _ hbefore => (running_carryOut policy before deed).trans hbefore) rfl
  have hkept : (effect.apply policy w).running surface
      = (w.carryOutAll policy effect.deeds).tasks.countP
          fun task => task.errand.server? = some surface && effect.keeps task := by
    simp only [running, serversOn, Effect.apply, List.countP_filter]
  rw [hkept]
  cases haborted : effect.aborted with
  | none =>
    rw [if_neg (by simp), ← hdone]
    simp [Effect.keeps, haborted, running, serversOn]
  | some given =>
    by_cases hsame : given = surface
    · subst hsame
      rw [if_pos rfl, List.countP_eq_zero]
      intro task _
      simp [Effect.keeps, haborted]
    · rw [if_neg (by simpa using hsame), ← hdone]
      refine List.countP_congr fun task _ => ?_
      simp only [Effect.keeps, haborted]
      grind

/-- The servers that are there after a turn of a task that goes on. -/
theorem running_goOn {policy : WakePolicy} {effect : Effect} {w after : World} {others : List Task}
    {task : Task}
    (h : let beside := effect.apply policy { w.core with tasks := others }
      after.core = { beside with tasks := task :: beside.tasks }) (surface : Surface) :
    after.running surface = (if effect.aborted = some surface then 0 else serversOn surface others)
      + if task.errand.server? = some surface then 1 else 0 := by
  have hcore : after.running surface = after.core.running surface := rfl
  rw [hcore, h, running, serversOn_cons]
  exact congrArg (· + _) (running_apply policy effect _)

end Counts

end World

open World

/-- What one move makes of the servers on a surface, where no server is started. -/
inductive ServerFate (move : Move) (w after : World) (surface : Surface) : Prop where
  | same (hrunning : after.running surface = w.running surface)
      (hclosed : after.closed surface = w.closed surface) : ServerFate move w after surface
  | closes (hrunning : after.running surface + 1 = w.running surface)
      (hclosed : after.closed surface = w.closed surface + 1) : ServerFate move w after surface
  | givenUp {task : Task} {cause : Cause} {timer : Timer} {rest : List Surface} (hmem : task ∈ w.tasks)
      (hmove : move.isTurnOf task.serial = true)
      (herrand : task.errand = .closeServers cause timer (surface :: rest))
      (hserver : 0 < w.running surface) (hdue : timer.deadline ≤ w.clock)
      (hsnapshot : after.snapshot = Deed.abandon.result w.snapshot)
      (hnext : after.Runs task.serial task.owner (.closeServers cause timer rest))
      (hrunning : after.running surface = 0) (hclosed : after.closed surface = w.closed surface) :
      ServerFate move w after surface

/-- A stage of a task that is followed by another is that of a server where the other is. -/
theorem Turned.server? {setup : Setup} {w : World} {looks : Bool} {errand next : Errand} {effect : Effect}
    (hturned : Turned setup w looks errand effect (.goOn next)) : next.server? = errand.server? := by
  cases hturned <;> rfl

/-- The turns that give up a server close servers, at the end of their grace. -/
theorem Turned.aborted {setup : Setup} {w : World} {looks : Bool} {errand : Errand} {effect : Effect}
    {next : Next} (hturned : Turned setup w looks errand effect next) {surface : Surface}
    (haborted : effect.aborted = some surface) : ∃ cause timer rest,
      errand = .closeServers cause timer (surface :: rest) ∧ effect = ⟨[.abandon], some surface, []⟩
        ∧ next = .goOn (.closeServers cause timer rest) ∧ w.hasServer surface = true
        ∧ timer.deadline ≤ w.clock := by
  cases hturned with
  | endGrace hserver hdue =>
    cases haborted
    exact ⟨_, _, _, rfl, rfl, rfl, hserver, hdue⟩
  | _ => cases haborted

/-- A task that ends is a server only where it has closed. -/
theorem Turned.server?_finish {setup : Setup} {w : World} {looks : Bool} {errand : Errand} {effect : Effect}
    {outcome : Outcome} (hturned : Turned setup w looks errand effect (.finish outcome)) :
    effect.aborted = none ∧ ∀ surface, errand.server? = some surface ↔ outcome = .closed surface := by
  cases hturned with
  | endServing => exact ⟨rfl, fun surface => by simp [Errand.server?]⟩
  | _ => exact ⟨rfl, fun surface => by simp [Errand.server?]⟩

/-- Whatever happens, unless the service is listened on: a server goes on, closes, or is given up at the end of
the grace. -/
theorem Happening.serverFate {setup : Setup} {move : Move} {w after : World}
    (hhappening : Happening setup move w after) (hquiet : move.listens = false)
    (hown : ∀ task ∈ w.tasks, task.errand.server?.isSome = true → task.owner = .service)
    (surface : Surface) :
    ServerFate move w after surface := by
  -- The counts look at tasks and ends alone, which the core of a world has.
  have hrunning : after.running surface = after.core.running surface := rfl
  have hclosed : after.closed surface = after.core.closed surface := rfl
  cases hhappening with
  | idle h =>
    rw [h] at hrunning hclosed
    exact .same hrunning hclosed
  | deed hmove h | refuse hphase h =>
    rw [h] at hrunning hclosed
    exact .same (hrunning.trans (running_carryOut _ _ _)) hclosed
  | keep hphase h =>
    rw [h] at hrunning hclosed
    exact .same ((hrunning.trans (running_keepGuard _ _ _)).trans (running_carryOut _ _ _))
      (hclosed.trans (closed_keepGuard _ _ _))
  | drop hheld h =>
    rw [h] at hrunning hclosed
    exact .same (hrunning.trans (running_carryOut _ _ _)) hclosed
  | @start owner errand hbegins h hlistens =>
    have hserver : errand.server? = none := by
      cases errand with
      | startServer => exact absurd (hlistens rfl) (by rw [hquiet]; exact Bool.false_ne_true)
      | serve | finishServer => cases hbegins
      | _ => rfl
    rw [h] at hrunning hclosed
    have hfresh : serversOn surface [Task.fresh w.core.started owner errand] = 0 := by
      simp [serversOn, Task.fresh, hserver]
    refine .same (hrunning.trans ?_) hclosed
    exact (serversOn_append w.tasks _).trans (by rw [hfresh]; rfl)
  | @cancel front back task id hmove hsplit howner hholds h =>
    have hserver : task.errand.server? = none := by
      by_contra hserver
      have hservice := hown task (mem_of_split hsplit) (Option.isSome_iff_ne_none.2 hserver)
      rw [howner] at hservice
      cases hservice
    rw [h] at hrunning hclosed
    refine .same (hrunning.trans ?_) (hclosed.trans ?_)
    · rw [running_conclude, running_split hsplit, hserver]
      rfl
    · rw [closed_conclude]
      rfl
  | @interrupt front back task x outcome hsplit herrand hwhy h =>
    rw [h] at hrunning hclosed
    refine .same (hrunning.trans ?_) (hclosed.trans ?_)
    · rw [running_conclude, running_carryOut, running_split hsplit, herrand]
      rfl
    · rw [closed_conclude]
      cases hwhy <;> rfl
  | @vain front back task hsplit hturn h =>
    rw [h] at hrunning hclosed
    refine .same (hrunning.trans ?_) hclosed
    have hasleep : serversOn surface [task.asleep]
        = if task.errand.server? = some surface then 1 else 0 :=
      (serversOn_cons task.asleep []).trans (Nat.zero_add _)
    rw [running_split hsplit, ← hasleep]
    exact serversOn_append (front ++ back) [task.asleep]
  | @goOn front back task effect next hmove hsplit hturned h =>
    have hbeside := running_goOn h surface
    rw [h] at hclosed
    by_cases haborted : effect.aborted = some surface
    · obtain ⟨cause, timer, rest, herrand, rfl, hgoesOn, hserver, hdue⟩ := hturned.aborted haborted
      cases hgoesOn
      have hpositive : 0 < serversOn surface (front ++ back) := hasServer_iff.1 hserver
      have hsnapshot : after.snapshot = Deed.abandon.result w.snapshot :=
        (congrArg World.snapshot h).trans rfl
      have hnext : after.Runs task.serial task.owner (.closeServers cause timer rest) := by
        rw [← runs_core, h]
        exact ⟨_, List.mem_cons_self, rfl, rfl, rfl⟩
      refine .givenUp (mem_of_split hsplit) hmove herrand ?_ hdue hsnapshot hnext ?_ hclosed
      · rw [running_split hsplit]
        omega
      · rw [hbeside, if_pos haborted]
        rfl
    · refine .same ?_ hclosed
      rw [hbeside, if_neg haborted, running_split hsplit, ← hturned.server?]
      rfl
  | @finish front back task effect outcome hmove hsplit hturned h =>
    obtain ⟨haborted, hserver⟩ := hturned.server?_finish
    rw [h] at hrunning hclosed
    have hbeside : after.running surface = serversOn surface (front ++ back) := by
      rw [hrunning, running_conclude, running_apply, if_neg (by simp [haborted])]
      rfl
    have hended : after.closed surface = w.closed surface + if outcome = .closed surface then 1 else 0 := by
      rw [hclosed, closed_conclude]
      rfl
    have hbefore : w.running surface
        = serversOn surface (front ++ back) + if outcome = .closed surface then 1 else 0 := by
      rw [running_split hsplit]
      exact congrArg (_ + ·) (if_congr (hserver surface) rfl rfl)
    by_cases houtcome : outcome = .closed surface
    · rw [if_pos houtcome] at hended hbefore
      exact .closes (by rw [hbeside, hbefore]) hended
    · rw [if_neg houtcome] at hended hbefore
      exact .same (hbeside.trans hbefore.symm) hended
  | tick hmove hcan h =>
    rw [h] at hrunning hclosed
    exact .same hrunning hclosed
  | ring hdue h =>
    rw [h] at hrunning hclosed
    exact .same (hrunning.trans (serversOn_resembles (Task.resembles_noticeTime _) _)) hclosed
  | release hmove h =>
    rw [h] at hrunning hclosed
    exact .same (hrunning.trans (serversOn_map (server?_releaseTask _) _)) hclosed
  | signal hmove h =>
    rw [h] at hrunning hclosed
    exact .same (hrunning.trans (serversOn_map (server?_catchSignal _) _)) hclosed

end GracefulService
