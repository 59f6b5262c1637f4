import GracefulService.Proofs.Pasts
import GracefulService.Proofs.Scripts
import Mathlib.Algebra.GroupWithZero.Nat

/-!
# Scripts that go on from a past

What a caller gets for a step, and what becomes visible with it, is the same whatever lies behind the
service; only the recorded numbers tell of probes that were answered before. Which of the ids that lie
ahead are given out in a step is decided by the step alone: one for a request that needs one.
-/

namespace GracefulService

open Http

/-- How many ids a task gives out when its turn comes. -/
def Task.draws (task : Task) : Nat := if task.woken then task.errand.draws else 0

namespace Task

section Draws

variable (task : Task)

/-- Nobody who waits for something is given an id. -/
theorem draws_notice : task.notice.draws = task.draws := by
  cases herrand : task.errand <;>
    simp [notice, draws, herrand, Errand.watchesSnapshot, Errand.draws]

/-- A task that is told about the end of another draws as many ids. -/
theorem draws_noticeTask : task.noticeTask.draws = task.draws := by
  cases herrand : task.errand <;>
    simp [noticeTask, draws, herrand, Errand.watchesTasks, Errand.draws]

/-- A task that is told about a moment draws as many ids. -/
theorem draws_noticeTime (timer : Timer) : (task.noticeTime timer).draws = task.draws := by
  cases herrand : task.errand <;> unfold noticeTime <;> split <;>
    simp_all [draws, Errand.timer?, Errand.draws]

/-- A task that is told about a deed draws as many ids. -/
theorem draws_rouse (policy : WakePolicy) (s : Snapshot) (deed : Deed) :
    (deed.rouse policy s task).draws = task.draws := by
  unfold Deed.rouse
  split
  · split
    · exact draws_notice task
    · rfl
  · rfl

end Draws

end Task

/-- What a task goes on with is not the arrival of a request. -/
theorem Turned.draws {setup : Setup} {w : World} {looks : Bool} {errand next : Errand} {effect : Effect}
    (h : Turned setup w looks errand effect (.goOn next)) : next.draws = 0 := by
  cases h <;> rfl

namespace World

/-- How many ids tasks give out in the turns that are due. -/
def draws (w : World) : Nat := (w.tasks.map Task.draws).sum

section Draws

variable {setup : Setup} {w after : World}

/-- Tasks that are changed but for what they draw leave as many ids to draw. -/
theorem draws_mapTasks (w : World) {f : Task → Task} (hf : ∀ task : Task, (f task).draws = task.draws) :
    draws { w with tasks := w.tasks.map f } = w.draws := by
  simp only [draws, List.map_map]
  exact congrArg List.sum (List.map_congr_left fun task _ => hf task)

/-- A deed leaves as many ids to draw. -/
theorem draws_carryOut (policy : WakePolicy) (w : World) (deed : Deed) :
    (w.carryOut policy deed).draws = w.draws :=
  draws_mapTasks w fun task => Task.draws_rouse task policy w.snapshot deed

/-- The end of a task leaves as many ids to draw. -/
theorem draws_conclude (w : World) (ending : Ending) : (w.conclude ending).draws = w.draws :=
  draws_mapTasks w Task.draws_noticeTask

/-- No turn takes an arrival away from another task. -/
theorem draws_apply (policy : WakePolicy) (w : World) (effect : Effect) :
    (effect.apply policy w).draws = w.draws := by
  have hkept : ∀ tasks : List Task, ((tasks.filter effect.keeps).map Task.draws).sum
      = (tasks.map Task.draws).sum := by
    intro tasks
    induction tasks with
    | nil => rfl
    | cons task tasks ih =>
      by_cases hkeeps : effect.keeps task = true
      · rw [List.filter_cons_of_pos hkeeps, List.map_cons, List.map_cons, List.sum_cons,
          List.sum_cons, ih]
      · have hserver : task.draws = 0 := by
          unfold Effect.keeps at hkeeps
          split at hkeeps
          · exact absurd rfl hkeeps
          · cases herrand : task.errand <;>
              simp_all [Task.draws, Errand.draws, Errand.server?]
        rw [List.filter_cons_of_neg hkeeps, List.map_cons, List.sum_cons, ih, hserver, Nat.zero_add]
  have hdone : (w.carryOutAll policy effect.deeds).draws = w.draws :=
    carryOutAll_induction (P := fun after => after.draws = w.draws) policy w effect.deeds
      (fun before deed _ hbefore => (draws_carryOut policy before deed).trans hbefore) rfl
  exact (hkept _).trans hdone

/-- A turn gives out what its own task draws. -/
theorem draws_takeTurn (task : Task) (others : List Task) :
    (w.takeTurn setup task others).draws = draws { w with tasks := others } := by
  unfold takeTurn
  split
  · simp only [draws, List.map_append, List.sum_append]
    rfl
  · rename_i beside errand hturn
    obtain ⟨effect, hturned, hcore⟩ := turned_of_turn hturn
    have hbeside : beside.draws = draws { w with tasks := others } := by
      have happlied := draws_apply setup.policy ({ w with tasks := others } : World).core effect
      rw [← hcore] at happlied
      exact happlied
    have hgone : (task.goOn errand).draws = 0 := hturned.draws
    rw [← hbeside]
    simp only [draws, List.map_cons, List.sum_cons, hgone, Nat.zero_add]
  · rename_i beside outcome hturn
    obtain ⟨effect, -, hcore⟩ := turned_of_turn hturn
    have happlied := draws_apply setup.policy ({ w with tasks := others } : World).core effect
    rw [← hcore] at happlied
    exact (draws_conclude beside _).trans happlied

/-- Where all tasks sleep no id is given out. -/
theorem Settled.draws (h : w.Settled) : w.draws = 0 := by
  have hnone : w.tasks.map Task.draws = w.tasks.map fun _ => 0 :=
    List.map_congr_left fun task hmem => by simp only [Task.draws, h task hmem, Bool.false_eq_true, if_false]
  rw [World.draws, hnone, List.map_const', List.sum_replicate_nat, Nat.mul_zero]

end Draws

section Settling

variable (setup : Setup) {w after : World} (past : Past)

/-- Where all tasks sleep, they do so after any past. -/
theorem Settled.resume (h : w.Settled) : (w.resume past).Settled := by
  intro task hmem
  obtain ⟨source, hsource, rfl⟩ := List.mem_map.1 hmem
  exact h source hsource

/-- A turn that is due is due, and is taken alike, when the service goes on from a past. -/
theorem step?_resume (h : w.step? setup = some after) :
    (w.resume (past.ahead w.draws)).step? setup = some (after.resume (past.ahead after.draws)) := by
  obtain ⟨⟨task, others⟩, hfound, rfl⟩ := Option.map_eq_some_iff.1 h
  obtain ⟨front, back, hsplit, rfl, hwoken, -⟩ := Task.takeFirst_eq_some hfound
  have hdraws : w.draws = draws { w with tasks := front ++ back } + task.errand.draws := by
    have hown : task.draws = task.errand.draws := if_pos hwoken
    simp only [draws, hsplit, List.map_append, List.map_cons, List.sum_append, List.sum_cons, hown]
    omega
  have htaken := @Task.takeFirst_map Task.woken (Task.renumber past.number) (fun _ => rfl) w.tasks
  rw [hfound] at htaken
  have hturn := takeTurn_resume setup (past.ahead (draws { w with tasks := front ++ back })) w task
    (front ++ back)
  rw [Past.ahead_ahead, ← hdraws] at hturn
  rw [draws_takeTurn, step?]
  exact (congrArg (Option.map _) htaken).trans (congrArg some hturn)

/-- A service that has settled stays as it is. -/
theorem Settled.settle (h : w.Settled) : w.settle setup = w := by
  have hnone : w.step? setup = none := step?_eq_none.2 h
  unfold World.settle
  split
  · rfl
  · rename_i after hdue
    rw [hnone] at hdue
    cases hdue

/-- Where a turn is due, tasks come to rest as they do after it. -/
theorem settle_of_step? (h : w.step? setup = some after) : w.settle setup = after.settle setup := by
  rw [World.settle]
  split
  · rename_i hnone
    rw [hnone] at h
    cases h
  · rename_i next hnext
    rw [hnext] at h
    rw [Option.some.inj h]

/-- After the turns that are due all tasks sleep. -/
theorem settled_settle (w : World) : (w.settle setup).Settled := by
  fun_induction World.settle setup w with
  | case1 w hnone => exact step?_eq_none.1 hnone
  | case2 w after hdue ih => exact ih

/-- Tasks come to rest alike. -/
theorem settle_resume (w : World) :
    (w.resume (past.ahead w.draws)).settle setup = (w.settle setup).resume past := by
  fun_induction World.settle setup w with
  | case1 w hnone =>
    have hsettled := step?_eq_none.1 hnone
    rw [hsettled.draws]
    exact (hsettled.resume past).settle setup
  | case2 w after hdue ih => rw [settle_of_step? setup (step?_resume setup past hdue), ih]

/-- The first timer that goes off is the same after any past. -/
theorem nextTimer?_resume (w : World) (moment : Nat) :
    (w.resume past).nextTimer? moment = w.nextTimer? moment := by
  simp only [nextTimer?, resume_tasks, List.filterMap_map]
  rfl

/-- A timer goes off in the same way after any past. -/
theorem fire_resume (w : World) (timer : Timer) : (w.resume past).fire timer = (w.fire timer).resume past :=
  mapTasks_resume past { w with clock := max w.clock timer.deadline }
    fun task => Task.noticeTime_renumber past.number task timer

/-- Time passes alike. -/
theorem Settled.elapseFrom_resume (h : w.Settled) (moment fuel : Nat) :
    elapseFrom setup moment fuel (w.resume past) = (elapseFrom setup moment fuel w).resume past := by
  induction fuel generalizing w with
  | zero => rfl
  | succ fuel ih =>
    simp only [elapseFrom, nextTimer?_resume]
    cases w.nextTimer? moment with
    | none => rfl
    | some timer =>
      have hquiet : (w.fire timer).draws = 0 :=
        (draws_mapTasks w fun task => Task.draws_noticeTime task timer).trans h.draws
      have hsettled := settle_resume setup past (w.fire timer)
      rw [hquiet] at hsettled
      have hfired : ((w.resume past).fire timer).settle setup
          = ((w.fire timer).settle setup).resume past := by
        rw [fire_resume]
        exact hsettled
      simp only
      rw [hfired]
      exact ih (settled_settle setup _)

/-- Where all tasks sleep, time passes in the same way after any past. -/
theorem Settled.elapse_resume (h : w.Settled) (moment : Nat) :
    (w.resume past).elapse setup moment = (w.elapse setup moment).resume past := by
  have hstages : stagesLeft (w.resume past).tasks = stagesLeft w.tasks :=
    stagesLeft_map (f := Task.renumber past.number) (fun _ => rfl) w.tasks
  rw [elapse, hstages]
  exact h.elapseFrom_resume setup past moment _

/-- After time has passed all tasks sleep again. -/
theorem Settled.elapseFrom (h : w.Settled) (moment fuel : Nat) :
    (World.elapseFrom setup moment fuel w).Settled := by
  induction fuel generalizing w with
  | zero => exact h
  | succ fuel ih =>
    unfold World.elapseFrom
    split
    · exact h
    · exact ih (settled_settle setup _)

end Settling

end World

/-- How many ids are given out for a step: one for a request that needs one. -/
def Step.draws : Step → Nat
  | .request _ surface (some asked) => World.drawn surface asked
  | _ => 0

namespace World

section Acting

variable (setup : Setup) (past : Past) (w : World)

/-- A caller gives a slot back in the same way after any past. -/
theorem leaveGuard_resume (policy : WakePolicy) (name : String) :
    (w.resume past).leaveGuard policy name = Prod.map (resume past) id (w.leaveGuard policy name) := by
  by_cases hheld : w.guards.contains name = true
  · have hresumed : (w.resume past).guards.contains name = true := hheld
    rw [leaveGuard, if_pos hresumed, leaveGuard, if_pos hheld]
    exact Prod.ext (release_resume past { w with guards := w.guards.erase name } policy) rfl
  · have hresumed : ¬(w.resume past).guards.contains name = true := hheld
    rw [leaveGuard, if_neg hresumed, leaveGuard, if_neg hheld]
    rfl

/-- A caller keeps a slot in the same way after any past. -/
theorem keepGuard_resume (policy : WakePolicy) (name : String) :
    (w.resume past).keepGuard policy name = (w.keepGuard policy name).resume past := by
  simp only [keepGuard, leaveGuard_resume]
  rfl

/-- A task is cancelled in the same way after any past. -/
theorem cancel_resume (policy : WakePolicy) (name : String) :
    (w.resume past).cancel policy name = Prod.map (resume past) id (w.cancel policy name) := by
  have hfound := @Task.takeFirst_map (fun task => task.owner = .caller name)
    (Task.renumber past.number) (fun _ => rfl) w.tasks
  simp only [cancel, resume_tasks, hfound]
  cases Task.takeFirst (fun task => task.owner = .caller name) w.tasks with
  | none => rfl
  | some found =>
    obtain ⟨task, others⟩ := found
    have hreleased := release_resume past { w with tasks := others } policy
    have hconcluded := fun v => conclude_resume past v (task.ending .cancelled)
    by_cases hholds : holdsSlot task.errand = true
    · simp only [Option.map, Prod.map, id, Task.renumber, hholds, if_true]
      rw [← hconcluded, ← hreleased]
      rfl
    · simp only [Option.map, Prod.map, id, Task.renumber, if_neg hholds]
      rw [← hconcluded]
      rfl

/-- A task is started in the same way after any past that numbers it next. -/
theorem start_resume (hnumber : past.number (w.started + 1) = past.number w.started + 1)
    (owner : Owner) (errand : Errand) :
    (w.resume past).start owner errand = (w.start owner errand).resume past := by
  simp only [start, resume, List.map_append, hnumber]
  rfl

/-- What a caller gets for a step after a past. Only the recorded numbers tell of it. -/
def resultAfter : Step → StepResult
  | .metrics => .numbers (w.resume past).meters.published
  | step => (w.act setup step).2

/-- Callers take their steps alike, as long as no time passes. -/
theorem act_resume (hnumber : past.number (w.started + 1) = past.number w.started + 1) {step : Step}
    (hawake : ∀ milliseconds, step ≠ .sleep milliseconds) :
    (w.resume past).act setup step = ((w.act setup step).1.resume past, w.resultAfter setup past step) := by
  have hstarted := start_resume past w hnumber
  cases step with
  | sleep milliseconds => exact absurd rfl (hawake milliseconds)
  | advance target =>
    simp only [act, resultAfter, advance_resume]
    obtain ⟨v, did⟩ := w.advance setup.policy target
    cases did <;> rfl
  | enter name =>
    simp only [act, resultAfter, enter_resume]
    obtain ⟨v, did⟩ := w.enter setup.policy
    cases did with
    | true => exact Prod.ext (keepGuard_resume past v setup.policy name) rfl
    | false => rfl
  | leave name => simp only [act, resultAfter, leaveGuard_resume, Prod.map, id]
  | beginDrain cause => simp only [act, resultAfter, beginDrain_resume, Prod.map, id]
  | abandon => simp only [act, resultAfter, abandon_resume, Prod.map, id]
  | drain name => exact Prod.ext (hstarted _ _) rfl
  | awaitPhase name target => exact Prod.ext (hstarted _ _) rfl
  | awaitAbandonment name => exact Prod.ext (hstarted _ _) rfl
  | request name surface request =>
    cases request with
    | none => rfl
    | some request => exact Prod.ext (hstarted _ _) rfl
  | cancel name => simp only [act, resultAfter, cancel_resume, Prod.map, id]
  | health checkup =>
    cases hcheck : w.checkup.isSome <;>
      simp only [act, resultAfter, resume_checkup, hcheck] <;> rfl
  | report probe => rfl
  | metrics => rfl
  | inspect => rfl

/-- Callers take their steps alike. -/
theorem Settled.act_resume {w : World} (hsettled : w.Settled)
    (hnumber : past.number (w.started + 1) = past.number w.started + 1) (step : Step) :
    (w.resume past).act setup step = ((w.act setup step).1.resume past, w.resultAfter setup past step) := by
  cases step with
  | sleep milliseconds =>
    exact Prod.ext (hsettled.elapse_resume setup past (w.clock + milliseconds)) rfl
  | _ => exact World.act_resume setup past w hnumber (by simp)

/-- Before the turns that follow a step, as many ids are left to give out as the step says. -/
theorem Settled.draws_act {w : World} (hsettled : w.Settled) (step : Step) :
    (w.act setup step).1.draws = step.draws := by
  have hquiet := hsettled.draws
  have hdone : ∀ deed, (w.carryOut setup.policy deed).draws = 0 := fun deed =>
    (draws_carryOut setup.policy w deed).trans hquiet
  have hstarted : ∀ owner errand, (w.start owner errand).draws = errand.draws := by
    intro owner errand
    simp only [World.draws, start, List.map_append, List.sum_append]
    have hnone : (w.tasks.map Task.draws).sum = 0 := hquiet
    rw [hnone, Nat.zero_add]
    rfl
  cases step with
  | sleep milliseconds => exact (hsettled.elapseFrom setup _ _).draws
  | advance target =>
    have hadvanced := hdone (.advance target)
    rw [← advance_eq] at hadvanced
    have hacted : (w.act setup (.advance target)).1 = (w.advance setup.policy target).1 := by
      simp only [act]
      split <;> rename_i h <;> rw [h]
    rw [hacted]
    exact hadvanced
  | enter name =>
    have hentered : (w.enter setup.policy).1.draws = 0 := by
      have hcore := draws_carryOut setup.policy w.core .enter
      rw [← enter_eq] at hcore
      exact hcore.trans hquiet
    simp only [act]
    split
    · rename_i v h
      rw [h] at hentered
      exact keepGuard_induction v (P := fun after => after.draws = 0) setup.policy name
        (fun _ _ h => h) (fun after h => (draws_carryOut setup.policy after .leave).trans h) hentered
    · rename_i v h
      rw [h] at hentered
      exact hentered
  | leave name =>
    simp only [act, leaveGuard]
    split
    · rw [release_eq]
      exact (draws_carryOut setup.policy { w with guards := w.guards.erase name } .leave).trans hquiet
    · exact hquiet
  | beginDrain cause =>
    simp only [act, beginDrain_eq]
    exact hdone _
  | abandon =>
    simp only [act, abandon_eq]
    exact hdone _
  | drain name => exact hstarted _ _
  | awaitPhase name target => exact hstarted _ _
  | awaitAbandonment name => exact hstarted _ _
  | request name surface request =>
    cases request with
    | none => exact hquiet
    | some request => exact hstarted _ _
  | cancel name =>
    simp only [act, cancel]
    split
    · exact hquiet
    · rename_i task others hfound
      obtain ⟨front, back, hsplit, rfl, -, -⟩ := Task.takeFirst_eq_some hfound
      have hothers : World.Settled { w with tasks := front ++ back } := fun other hmem =>
        hsettled other (mem_of_beside hsplit hmem)
      refine (draws_conclude _ _).trans ?_
      split
      · rw [release_eq]
        exact (draws_carryOut setup.policy { w with tasks := front ++ back } .leave).trans hothers.draws
      · exact hothers.draws
  | health checkup =>
    simp only [act]
    split <;> exact hquiet
  | report probe => exact hquiet
  | metrics => exact hquiet
  | inspect => exact hquiet

/-- What a step shows is the same after any past. -/
theorem since_resume (before after : World) (n : Nat) (result : StepResult) :
    since (before.resume (past.ahead n)) (after.resume past) result = since before after result := by
  have hended : ((after.resume past).finished.drop (before.resume (past.ahead n)).finished.length)
      = (after.finished.drop before.finished.length).map (Ending.renumber past.number) := by
    simp only [resume, Past.ahead, List.length_append, List.length_map, List.drop_append,
      List.drop_of_length_le (Nat.le_add_right _ _), Nat.add_sub_cancel_left, List.nil_append,
      List.map_drop]
  have hlog : (after.resume past).log.drop (before.resume (past.ahead n)).log.length
      = after.log.drop before.log.length := by
    simp only [resume, Past.ahead, List.length_append, List.drop_append,
      List.drop_of_length_le (Nat.le_add_right _ _), Nat.add_sub_cancel_left, List.nil_append]
  have hpending : (after.resume past).pending = after.pending := by
    simp only [pending, resume_tasks, List.filterMap_map]
    rfl
  simp only [since, hended, hlog, hpending, List.filterMap_map, resume_snapshot]
  rfl

/-- A step and the turns that follow it come to the same when the service goes on from a past. -/
theorem Settled.take_resume {w : World} (hsettled : w.Settled)
    (hnumber : past.number (w.started + 1) = past.number w.started + 1) (step : Step) :
    (w.resume (past.ahead step.draws)).take setup step
      = ((w.take setup step).1.resume past,
        since w (w.take setup step).1 (w.resultAfter setup past step)) := by
  have hacted := hsettled.act_resume setup (past.ahead step.draws) hnumber step
  have hrested := settle_resume setup past (w.act setup step).1
  rw [hsettled.draws_act setup] at hrested
  have hresult : w.resultAfter setup (past.ahead step.draws) step = w.resultAfter setup past step := by
    cases step <;> rfl
  simp only [take, hacted, hrested, hresult, since_resume]

end Acting

end World

end GracefulService
