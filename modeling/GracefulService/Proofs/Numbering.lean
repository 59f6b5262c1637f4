import GracefulService.Proofs.Attention
import Mathlib.Data.List.Nodup
import Mathlib.Data.List.Perm.Subperm

/-!
# The numbers of tasks

Tasks are told apart by their numbers: no two tasks share one, and none has the number of a task that is
over. Numbers are given in the order in which tasks are started, and a task keeps its own until the end.
-/

namespace GracefulService

namespace World

/-- A task with a number and an owner is about an errand. -/
def Runs (w : World) (serial : Nat) (owner : Owner) (errand : Errand) : Prop :=
  ∃ task ∈ w.tasks, task.serial = serial ∧ task.owner = owner ∧ task.errand = errand

/-- The numbers of the tasks, those that are over included. -/
def serials (w : World) : List Nat := w.tasks.map Task.serial ++ w.finished.map Ending.serial

/-- No number was given twice. -/
structure Numbered (w : World) : Prop where
  /-- No two tasks share a number. -/
  distinct : w.serials.Nodup
  /-- Numbers are given in the order in which tasks are started. -/
  below : ∀ serial ∈ w.serials, serial < w.started

/-- Whether numbers are given twice is decided by the core. -/
theorem numbered_core {w : World} : w.core.Numbered ↔ w.Numbered :=
  ⟨fun h => ⟨h.distinct, h.below⟩, fun h => ⟨h.distinct, h.below⟩⟩

/-- A service that has just been created has given no numbers. -/
theorem numbered_initial (checkup : Option Checkup) : (initial checkup).Numbered :=
  ⟨List.nodup_nil, fun _ hmem => by cases hmem⟩

/-- A world whose numbers are among those of another, and which has started as many tasks. -/
structure Renumbers (before after : World) : Prop where
  /-- No number is new or repeated. -/
  serials : after.serials.Subperm before.serials
  /-- No task was started. -/
  started : after.started = before.started

/-- Changes that give no number twice do not do so together. -/
theorem Renumbers.trans {a b c : World} (hab : Renumbers a b) (hbc : Renumbers b c) :
    Renumbers a c :=
  ⟨hbc.serials.trans hab.serials, hbc.started.trans hab.started⟩

/-- A change that gives no number twice leaves all numbers different. -/
theorem Renumbers.numbered {before after : World} (h : Renumbers before after)
    (hnumbered : before.Numbered) : after.Numbered := by
  obtain ⟨middle, hperm, hsublist⟩ := h.serials
  constructor
  · exact hperm.nodup_iff.1 (hnumbered.distinct.sublist hsublist)
  · intro serial hmem
    rw [h.started]
    exact hnumbered.below serial (h.serials.subset hmem)

/-- To change tasks but for their numbers gives no number twice. -/
theorem renumbers_mapTasks (w : World) {f : Task → Task} (hf : ∀ task, (f task).serial = task.serial) :
    Renumbers w { w with tasks := w.tasks.map f } := by
  refine ⟨List.Perm.subperm (List.Perm.of_eq ?_), rfl⟩
  have hmap : (w.tasks.map f).map Task.serial = w.tasks.map Task.serial := by
    rw [List.map_map]
    exact List.map_congr_left fun task _ => hf task
  simp only [serials, hmap]

/-- A delegate that may go on leaves the number of its task. -/
theorem serial_releaseTask (key : String) (task : Task) :
    (Supervisor.releaseTask key task).serial = task.serial := by
  unfold Supervisor.releaseTask
  split
  · split
    · split <;> rfl
    · rfl
  · rfl

/-- A signal leaves the number of the task that it reaches. -/
theorem serial_catchSignal (name : String) (task : Task) :
    (Supervisor.catchSignal name task).serial = task.serial := by
  unfold Supervisor.catchSignal
  split <;> rfl

/-- A deed gives no number twice. -/
theorem renumbers_carryOut (policy : WakePolicy) (w : World) (deed : Deed) :
    Renumbers w (w.carryOut policy deed) := by
  have hmapped := renumbers_mapTasks w fun task =>
    (Task.resembles_rouse policy w.snapshot deed task).serial
  exact ⟨hmapped.serials, rfl⟩

/-- What a turn does besides gives no number twice. -/
theorem renumbers_apply (policy : WakePolicy) (w : World) (effect : Effect) :
    Renumbers w (effect.apply policy w) := by
  have hcarried : ∀ deeds, Renumbers w (w.carryOutAll policy deeds) := fun deeds =>
    carryOutAll_induction (P := Renumbers w) policy w deeds
      (fun after deed _ h => h.trans (renumbers_carryOut policy after deed)) ⟨.refl _, rfl⟩
  have hfinished : (effect.apply policy w).finished = (w.carryOutAll policy effect.deeds).finished :=
    (congrArg finished (carryOutAll_frame policy w effect.deeds)).symm
  refine ⟨List.Subperm.trans (List.Sublist.subperm ?_) (hcarried effect.deeds).serials, rfl⟩
  simp only [serials, hfinished]
  exact ((List.filter_sublist).map _).append_right _

/-- A slot that is kept gives no number twice. -/
theorem renumbers_keepGuard (policy : WakePolicy) (w : World) (id : String) :
    Renumbers w (w.keepGuard policy id) :=
  keepGuard_induction w (P := Renumbers w) policy id (fun _ _ h => ⟨h.serials, h.started⟩)
    (fun after h => h.trans (renumbers_carryOut policy after .leave)) ⟨.refl _, rfl⟩

/-- A task that ends takes its number with it. -/
theorem renumbers_conclude (w : World) (task : Task) (outcome : Outcome) :
    Renumbers { w with tasks := task :: w.tasks } (w.conclude (task.ending outcome)) := by
  refine ⟨List.Perm.subperm ?_, rfl⟩
  have hmap : (w.tasks.map Task.noticeTask).map Task.serial = w.tasks.map Task.serial := by
    rw [List.map_map]
    exact List.map_congr_left fun other _ => (Task.resembles_noticeTask other).serial
  simp only [serials, conclude, hmap, List.map_append, List.map_cons, List.map_nil,
    List.cons_append, Task.ending]
  rw [← List.append_assoc]
  exact List.perm_append_singleton _ _

/-- A task that is taken out and put in front keeps its number. -/
theorem renumbers_moveFront {w : World} {front back : List Task} {task : Task}
    (hsplit : w.tasks = front ++ task :: back) :
    Renumbers w { w with tasks := task :: (front ++ back) } := by
  refine ⟨List.Perm.subperm ?_, rfl⟩
  simp only [serials, hsplit]
  exact ((List.perm_middle.symm).map _).append_right _

/-- What a task beside it does takes no number away from a task. -/
theorem renumbers_beside {w beside : World} {front back : List Task} {task : Task}
    (hsplit : w.tasks = front ++ task :: back)
    (hbeside : Renumbers { w with tasks := front ++ back } beside) (task' : Task)
    (hserial : task'.serial = task.serial) :
    Renumbers w { beside with tasks := task' :: beside.tasks } := by
  refine (renumbers_moveFront hsplit).trans ⟨?_, hbeside.started⟩
  have hcons := (List.subperm_cons task.serial).2 hbeside.serials
  simpa only [serials, List.map_cons, List.cons_append, hserial] using hcons

end World

open World

/-- Whatever happens, no number is given twice. -/
theorem Happening.numbered {setup : Setup} {move : Move} {w after : World}
    (hhappening : Happening setup move w after) (hnumbered : w.Numbered) : after.Numbered := by
  rw [← numbered_core] at hnumbered ⊢
  cases hhappening with
  | idle h =>
    rw [h]
    exact hnumbered
  | @deed deed hmove h =>
    rw [h]
    exact (renumbers_carryOut _ _ _).numbered hnumbered
  | refuse hphase h =>
    rw [h]
    exact (renumbers_carryOut _ _ _).numbered hnumbered
  | keep hphase h =>
    rw [h]
    exact ((renumbers_carryOut _ _ _).trans (renumbers_keepGuard _ _ _)).numbered hnumbered
  | @drop id hheld h =>
    rw [h]
    have hdropped : Renumbers w.core { w.core with guards := w.guards.erase id } := ⟨.refl _, rfl⟩
    exact (hdropped.trans (renumbers_carryOut _ _ _)).numbered hnumbered
  | @start owner errand hbegins h =>
    rw [h]
    have hserials : (w.core.start owner errand).serials.Perm (w.started :: w.core.serials) := by
      simp only [serials, World.start, List.map_append, List.map_cons, List.map_nil, Task.fresh,
        core_started, List.append_assoc, List.singleton_append]
      exact List.perm_middle
    constructor
    · rw [hserials.nodup_iff, List.nodup_cons]
      exact ⟨fun hmem => Nat.lt_irrefl _ (hnumbered.below _ hmem), hnumbered.distinct⟩
    · intro serial hmem
      have hstarted : (w.core.start owner errand).started = w.started + 1 := rfl
      rw [hstarted]
      rcases List.mem_cons.1 (hserials.mem_iff.1 hmem) with rfl | hold
      · exact Nat.lt_succ_self _
      · exact Nat.lt_succ_of_lt (hnumbered.below serial hold)
  | @cancel front back task id hmove hsplit howner hholds h =>
    rw [h]
    exact ((renumbers_moveFront (w := w.core) hsplit).trans
      (renumbers_conclude { w.core with tasks := front ++ back } task _)).numbered hnumbered
  | @interrupt front back task x outcome hsplit herrand hwhy h =>
    rw [h]
    have hreleased := renumbers_carryOut setup.policy { w.core with tasks := front ++ back } .leave
    exact ((renumbers_beside (w := w.core) hsplit hreleased task rfl).trans
      (renumbers_conclude _ task _)).numbered hnumbered
  | @vain front back task hsplit hturn h =>
    rw [h]
    have hasleep : Renumbers w.core { w.core with tasks := front ++ back ++ [task.asleep] } := by
      refine (renumbers_moveFront (w := w.core) hsplit).trans ⟨List.Perm.subperm ?_, rfl⟩
      exact (((List.perm_append_singleton task.asleep (front ++ back)).map _).append_right _)
    exact hasleep.numbered hnumbered
  | @goOn front back task effect errand hmove hsplit hturned h =>
    rw [h]
    have happlied := renumbers_apply setup.policy { w.core with tasks := front ++ back } effect
    exact (renumbers_beside (w := w.core) hsplit happlied (task.goOn errand) rfl).numbered hnumbered
  | @finish front back task effect outcome hmove hsplit hturned h =>
    rw [h]
    have happlied := renumbers_apply setup.policy { w.core with tasks := front ++ back } effect
    exact ((renumbers_beside (w := w.core) hsplit happlied task rfl).trans
      (renumbers_conclude _ task _)).numbered hnumbered
  | tick hmove hcan h =>
    rw [h]
    exact ⟨hnumbered.distinct, hnumbered.below⟩
  | ring hdue h =>
    rw [h]
    exact (renumbers_mapTasks w.core
      fun task => (Task.resembles_noticeTime _ task).serial).numbered hnumbered
  | release hmove h =>
    rw [h]
    exact (renumbers_mapTasks w.core (serial_releaseTask _)).numbered hnumbered
  | signal hmove h =>
    rw [h]
    exact (renumbers_mapTasks w.core (serial_catchSignal _)).numbered hnumbered

/-- A move starts tasks or leaves their number as it is. -/
theorem Happening.started_le {setup : Setup} {move : Move} {w after : World}
    (hhappening : Happening setup move w after) : w.started ≤ after.started := by
  cases hhappening with
  | start hbegins h hlistens =>
    have hstarted : after.started = w.started + 1 := congrArg World.started h
    omega
  | @keep name hphase h hmove =>
    have hkept := (World.renumbers_keepGuard setup.policy (w.core.carryOut setup.policy .enter) name).started
    rw [← h] at hkept
    exact Nat.le_of_eq hkept.symm
  | refuse hphase h => exact Nat.le_of_eq (congrArg World.started h).symm
  | _ =>
    rename_i h
    exact Nat.le_of_eq (congrArg World.started h).symm

namespace World

/-- In every run no number is given twice. -/
theorem numbered_run {setup : Setup} {w : World} (h : w.Numbered) (moves : List Move) :
    (w.run setup moves).Numbered :=
  run_induction setup w (P := Numbered) moves (fun _ _ _ _ hhappening => hhappening.numbered) h

section Numbered

variable {w : World} (hnumbered : w.Numbered)
include hnumbered

/-- Two tasks with one number are one task. -/
theorem Numbered.task_unique {a b : Task} (ha : a ∈ w.tasks) (hb : b ∈ w.tasks)
    (hserial : a.serial = b.serial) : a = b :=
  List.inj_on_of_nodup_map (List.nodup_append.1 hnumbered.distinct).1 ha hb hserial

/-- A task that goes on is not over. -/
theorem Numbered.not_over {task : Task} {ending : Ending} (htask : task ∈ w.tasks)
    (hending : ending ∈ w.finished) : task.serial ≠ ending.serial :=
  (List.nodup_append.1 hnumbered.distinct).2.2 _ (List.mem_map_of_mem htask) _
    (List.mem_map_of_mem hending)

/-- A task ends once. -/
theorem Numbered.ending_unique {a b : Ending} (ha : a ∈ w.finished) (hb : b ∈ w.finished)
    (hserial : a.serial = b.serial) : a = b :=
  List.inj_on_of_nodup_map (List.nodup_append.1 hnumbered.distinct).2.1 ha hb hserial

/-- The end of a task is the only one with its number. -/
theorem Numbered.endings_filter {ending : Ending} (hmem : ending ∈ w.finished) :
    w.finished.filter (fun other => other.serial = ending.serial) = [ending] := by
  have hdistinct := (List.nodup_append.1 hnumbered.distinct).2.1
  generalize w.finished = finished at hmem hdistinct
  induction finished with
  | nil => cases hmem
  | cons first others ih =>
    rw [List.map_cons, List.nodup_cons] at hdistinct
    obtain ⟨hfirst, hothers⟩ := hdistinct
    rcases List.mem_cons.1 hmem with rfl | hlater
    · have hnone : others.filter (fun other => other.serial = ending.serial) = [] := by
        refine List.filter_eq_nil_iff.2 fun other hother hsame => hfirst ?_
        rw [← of_decide_eq_true hsame]
        exact List.mem_map_of_mem hother
      rw [List.filter_cons_of_pos (by simp), hnone]
    · have hother : ¬first.serial = ending.serial := by
        intro hsame
        rw [hsame] at hfirst
        exact hfirst (List.mem_map_of_mem hlater)
      rw [List.filter_cons_of_neg (by simpa using hother)]
      exact ih hlater hothers

/-- A task is about one errand. -/
theorem Numbered.errand_unique {serial : Nat} {owner owner' : Owner} {errand errand' : Errand}
    (h : w.Runs serial owner errand) (h' : w.Runs serial owner' errand') : errand = errand' := by
  obtain ⟨task, hmem, hserial, -, rfl⟩ := h
  obtain ⟨task', hmem', hserial', -, rfl⟩ := h'
  rw [hnumbered.task_unique hmem hmem' (hserial.trans hserial'.symm)]

/-- The first task with the number of a task is that task. -/
theorem Numbered.takeFirst_serial {front back : List Task} {task : Task}
    (hsplit : w.tasks = front ++ task :: back) :
    Task.takeFirst (fun other => other.serial = task.serial) w.tasks = some (task, front ++ back) := by
  have hdistinct := (List.nodup_append.1 hnumbered.distinct).1
  rw [hsplit, List.map_append, List.map_cons] at hdistinct
  have hbefore := (List.nodup_append.1 hdistinct).2.2
  rw [hsplit]
  refine Task.takeFirst_split ?_ (decide_eq_true rfl) back
  intro other hmem
  exact decide_eq_false (hbefore _ (List.mem_map_of_mem hmem) _ List.mem_cons_self)

/-- The turn of a number is the turn of the task that has it. -/
theorem Numbered.move_turn_eq (setup : Setup) {front back : List Task} {task : Task}
    (hsplit : w.tasks = front ++ task :: back) :
    w.move setup (.turn task.serial) = w.takeTurn setup task (front ++ back) := by
  simp only [World.move, hnumbered.takeFirst_serial hsplit]

/-- Only for a task that holds a slot it matters what the gate asks about first. -/
theorem Numbered.move_isTurnOf_eq (setup : Setup) {front back : List Task} {task : Task}
    (hsplit : w.tasks = front ++ task :: back) {move : Move}
    (hmove : move.isTurnOf task.serial = true) (hexchange : ∀ x, task.errand ≠ .exchange x) :
    w.move setup move = w.takeTurn setup task (front ++ back) := by
  cases move with
  | turn serial =>
    rw [of_decide_eq_true hmove]
    exact hnumbered.move_turn_eq setup hsplit
  | preempt serial =>
    have hpreempted : w.preempt setup task (front ++ back)
        = w.takeTurn setup task (front ++ back) := by
      unfold preempt
      split
      · rename_i x herrand
        exact absurd herrand (hexchange x)
      · rfl
    rw [of_decide_eq_true hmove, ← hpreempted]
    simp only [World.move, hnumbered.takeFirst_serial hsplit]
  | _ => cases hmove

/-- The turn of a number whose errand holds no slot is the turn of the task with that errand. -/
theorem Numbered.move_runs_eq (setup : Setup) {serial : Nat} {owner : Owner} {errand : Errand}
    (hruns : w.Runs serial owner errand) (hexchange : ∀ x, errand ≠ .exchange x) {move : Move}
    (hmove : move.isTurnOf serial = true) :
    ∃ task front back, task.serial = serial ∧ task.owner = owner ∧ task.errand = errand
      ∧ w.tasks = front ++ task :: back ∧ w.move setup move = w.takeTurn setup task (front ++ back) := by
  obtain ⟨task, hmem, rfl, rfl, rfl⟩ := hruns
  obtain ⟨front, back, hsplit⟩ := List.append_of_mem hmem
  exact ⟨task, front, back, rfl, rfl, rfl, hsplit, hnumbered.move_isTurnOf_eq setup hsplit hmove hexchange⟩

end Numbered

/-- The turn of a number that no task has comes to nothing. -/
theorem move_turn_absent (setup : Setup) {w : World} {serial : Nat} {move : Move}
    (hmove : move.isTurnOf serial = true) (habsent : ∀ task ∈ w.tasks, task.serial ≠ serial) :
    w.move setup move = w := by
  have hnone : Task.takeFirst (fun task => task.serial = serial) w.tasks = none :=
    Task.takeFirst_eq_none.2 fun task hmem => decide_eq_false (habsent task hmem)
  cases move with
  | turn other =>
    rw [of_decide_eq_true hmove]
    simp only [World.move, hnone]
  | preempt other =>
    rw [of_decide_eq_true hmove]
    simp only [World.move, hnone]
  | _ => cases hmove

end World

end GracefulService
