import GracefulService.Proofs.Numbering

/-!
# What becomes of a task

A task goes on until it ends, is cancelled or, if it is a server, is given up. What one move makes of it is
its fate there: it stays at its errand, is told something that changes the errand, or has taken a turn.
Ends are final.
-/

namespace GracefulService

namespace World

section Runs

variable {policy : WakePolicy} {w : World} {serial : Nat} {owner : Owner} {errand : Errand}

/-- Telling tasks something leaves them at their errands. -/
theorem Runs.mapTasks (h : w.Runs serial owner errand) {f : Task → Task}
    (hf : ∀ task : Task, task.Resembles (f task)) :
    Runs { w with tasks := w.tasks.map f } serial owner errand := by
  obtain ⟨task, hmem, rfl, rfl, rfl⟩ := h
  exact ⟨f task, List.mem_map_of_mem hmem, (hf task).serial, (hf task).owner, (hf task).errand⟩

/-- Whatever deed is carried out, a task is still at its errand. -/
theorem Runs.carryOut (h : w.Runs serial owner errand) (deed : Deed) :
    (w.carryOut policy deed).Runs serial owner errand :=
  Runs.mapTasks h (Task.resembles_rouse policy w.snapshot deed)

/-- Whatever task ends, those that go on are still at their errands. -/
theorem Runs.conclude (h : w.Runs serial owner errand) (ending : Ending) :
    (w.conclude ending).Runs serial owner errand :=
  Runs.mapTasks h Task.resembles_noticeTask

/-- Whatever slot a caller keeps, a task is still at its errand. -/
theorem Runs.keepGuard (h : w.Runs serial owner errand) (id : String) :
    (w.keepGuard policy id).Runs serial owner errand :=
  keepGuard_induction w (P := fun after => after.Runs serial owner errand) policy id
    (fun _ _ hruns => hruns) (fun _ hruns => hruns.carryOut .leave) h

/-- A turn of another task takes nothing but a server away. -/
theorem Runs.apply (policy : WakePolicy) (h : w.Runs serial owner errand) (effect : Effect) :
    (effect.apply policy w).Runs serial owner errand ∨ ∃ surface, errand.server? = some surface := by
  have hcarried : (w.carryOutAll policy effect.deeds).Runs serial owner errand :=
    carryOutAll_induction (P := fun after => after.Runs serial owner errand) policy w effect.deeds
      (fun _ deed _ hruns => hruns.carryOut deed) h
  obtain ⟨task, hmem, hserial, howner, herrand⟩ := hcarried
  by_cases hkeeps : effect.keeps task = true
  · exact Or.inl ⟨task, List.mem_filter.2 ⟨hmem, hkeeps⟩, hserial, howner, herrand⟩
  · right
    unfold Effect.keeps at hkeeps
    split at hkeeps
    · exact absurd rfl hkeeps
    · rename_i surface _
      refine ⟨surface, ?_⟩
      rw [← herrand]
      simpa using hkeeps

/-- Among the tasks is the one that is taken out, or it is one of the others. -/
theorem Runs.takeOut (h : w.Runs serial owner errand) {front back : List Task} {task : Task}
    (hsplit : w.tasks = front ++ task :: back) :
    (task.serial = serial ∧ task.owner = owner ∧ task.errand = errand)
      ∨ Runs { w with tasks := front ++ back } serial owner errand := by
  obtain ⟨found, hmem, hserial, howner, herrand⟩ := h
  rw [hsplit] at hmem
  rcases List.mem_append.1 hmem with hfront | hrest
  · exact Or.inr ⟨found, List.mem_append_left _ hfront, hserial, howner, herrand⟩
  · rcases List.mem_cons.1 hrest with rfl | hback
    · exact Or.inl ⟨hserial, howner, herrand⟩
    · exact Or.inr ⟨found, List.mem_append_right _ hback, hserial, howner, herrand⟩

/-- A task that is put in front is at its errand, and the others are at theirs. -/
theorem Runs.cons (h : w.Runs serial owner errand) (task : Task) :
    Runs { w with tasks := task :: w.tasks } serial owner errand := by
  obtain ⟨found, hmem, hfound⟩ := h
  exact ⟨found, List.mem_cons_of_mem _ hmem, hfound⟩

end Runs

end World

open World

/-- What one move makes of a task with a number and an owner, by the errand that it is about. -/
inductive Fate (setup : Setup) (move : Move) (w after : World) (serial : Nat) (owner : Owner) :
    Errand → Prop where
  | stays {errand : Errand} (h : after.Runs serial owner errand) :
      Fate setup move w after serial owner errand
  | released {x : Exchange} {key : String} {response : Http.Response}
      (hmove : move = .release key) (hheld : x.progress = .held key response)
      (h : after.Runs serial owner (.exchange { x with progress := .done response })) :
      Fate setup move w after serial owner (.exchange x)
  | signalled {name : String} (hmove : move = .signal name)
      (h : after.Runs serial owner (.watchSignals (some name))) :
      Fate setup move w after serial owner (.watchSignals none)
  | goesOn {errand next : Errand} {others : List Task} {looks : Bool} {effect : Effect}
      (hmove : move.isTurnOf serial = true)
      (hturned : Turned setup { w with tasks := others } looks errand effect (.goOn next))
      (hsnapshot : after.snapshot = effect.result w.snapshot) (hclock : after.clock = w.clock)
      (h : after.Runs serial owner next)
      (hothers : ∃ front back task, w.tasks = front ++ task :: back ∧ others = front ++ back
        ∧ task.errand = errand)
      (hcore : let beside := effect.apply setup.policy { w.core with tasks := others }
        after.core = { beside with tasks := ⟨serial, owner, next, true, true⟩ :: beside.tasks }) :
      Fate setup move w after serial owner errand
  | ends {errand : Errand} {others : List Task} {looks : Bool} {effect : Effect}
      {outcome : Outcome} (hmove : move.isTurnOf serial = true)
      (hturned : Turned setup { w with tasks := others } looks errand effect (.finish outcome))
      (hsnapshot : after.snapshot = effect.result w.snapshot) (hclock : after.clock = w.clock)
      (h : ⟨serial, owner, outcome⟩ ∈ after.finished)
      (hothers : ∃ front back task, w.tasks = front ++ task :: back ∧ others = front ++ back
        ∧ task.errand = errand) : Fate setup move w after serial owner errand
  | preempted {x : Exchange} (hmove : move = .preempt serial)
      (habandoned : w.snapshot.abandoned = true)
      (h : ⟨serial, owner, .answered .abandonment (x.send .unavailable)⟩ ∈ after.finished) :
      Fate setup move w after serial owner (.exchange x)
  | cancelled {errand : Errand} {id : String} (hmove : move = .act (.cancel id))
      (howner : owner = .caller id) (h : ⟨serial, owner, .cancelled⟩ ∈ after.finished) :
      Fate setup move w after serial owner errand
  | aborted {errand : Errand} {surface : Surface} (hserver : errand.server? = some surface) :
      Fate setup move w after serial owner errand

/-- What tasks are at is decided by the core. -/
theorem World.runs_core {w : World} {serial : Nat} {owner : Owner} {errand : Errand} :
    w.core.Runs serial owner errand ↔ w.Runs serial owner errand := Iff.rfl

/-- What a release makes of a task. -/
theorem fate_releaseTask {setup : Setup} {w after : World} {serial : Nat} {owner : Owner}
    {errand : Errand} {key : String}
    (h : after.core = { w.core with tasks := w.tasks.map (Supervisor.releaseTask key) })
    (hruns : w.Runs serial owner errand) :
    Fate setup (.release key) w after serial owner errand := by
  obtain ⟨task, hmem, rfl, rfl, rfl⟩ := hruns
  have htasks : after.tasks = w.tasks.map (Supervisor.releaseTask key) := by
    rw [← core_tasks after, h]
  have hmem' : Supervisor.releaseTask key task ∈ after.tasks := by
    rw [htasks]
    exact List.mem_map_of_mem hmem
  have hsame : Supervisor.releaseTask key task = task →
      Fate setup (.release key) w after task.serial task.owner task.errand := by
    intro hsame
    rw [hsame] at hmem'
    exact .stays ⟨task, hmem', rfl, rfl, rfl⟩
  cases herrand : task.errand with
  | exchange x =>
    cases hprogress : x.progress with
    | held held response =>
      by_cases hkey : held = key
      · have hreleased : Supervisor.releaseTask key task
            = { task with errand := .exchange { x with progress := .done response },
                          woken := true } := by
          simp only [Supervisor.releaseTask, herrand, hprogress, if_pos hkey]
        rw [hreleased] at hmem'
        exact .released (by rw [hkey]) hprogress ⟨_, hmem', rfl, rfl, rfl⟩
      · rw [← herrand]
        exact hsame (by simp only [Supervisor.releaseTask, herrand, hprogress, if_neg hkey])
    | _ =>
      rw [← herrand]
      exact hsame (by simp only [Supervisor.releaseTask, herrand, hprogress])
  | _ =>
    rw [← herrand]
    exact hsame (by simp only [Supervisor.releaseTask, herrand])

/-- What a signal makes of a task. -/
theorem fate_catchSignal {setup : Setup} {w after : World} {serial : Nat} {owner : Owner}
    {errand : Errand} {name : String}
    (h : after.core = { w.core with tasks := w.tasks.map (Supervisor.catchSignal name) })
    (hruns : w.Runs serial owner errand) :
    Fate setup (.signal name) w after serial owner errand := by
  obtain ⟨task, hmem, rfl, rfl, rfl⟩ := hruns
  have htasks : after.tasks = w.tasks.map (Supervisor.catchSignal name) := by
    rw [← core_tasks after, h]
  have hmem' : Supervisor.catchSignal name task ∈ after.tasks := by
    rw [htasks]
    exact List.mem_map_of_mem hmem
  by_cases hwatches : task.errand = .watchSignals none
  · have hcaught : Supervisor.catchSignal name task
        = { task with errand := .watchSignals (some name), woken := true } := by
      simp only [Supervisor.catchSignal, hwatches]
    rw [hcaught] at hmem'
    rw [hwatches]
    exact .signalled rfl ⟨_, hmem', rfl, rfl, rfl⟩
  · have hsame : Supervisor.catchSignal name task = task := by
      unfold Supervisor.catchSignal
      split
      · contradiction
      · rfl
    rw [hsame] at hmem'
    exact .stays ⟨task, hmem', rfl, rfl, rfl⟩

/-- Every task meets one of the fates listed. -/
theorem Happening.fate {setup : Setup} {move : Move} {w after : World}
    (hhappening : Happening setup move w after) {serial : Nat} {owner : Owner} {errand : Errand}
    (hruns : w.Runs serial owner errand) : Fate setup move w after serial owner errand := by
  have hcore : w.core.Runs serial owner errand := hruns
  cases hhappening with
  | idle h =>
    refine .stays ?_
    rw [← runs_core, h]
    exact hcore
  | @deed deed hmove h =>
    refine .stays ?_
    rw [← runs_core, h]
    exact hcore.carryOut deed
  | refuse hphase h =>
    refine .stays ?_
    rw [← runs_core, h]
    exact hcore.carryOut .enter
  | keep hphase h =>
    refine .stays ?_
    rw [← runs_core, h]
    exact (hcore.carryOut .enter).keepGuard _
  | @drop id hheld h =>
    refine .stays ?_
    rw [← runs_core, h]
    exact Runs.carryOut (w := { w.core with guards := w.guards.erase id }) hcore .leave
  | start hbegins h =>
    refine .stays ?_
    rw [← runs_core, h]
    obtain ⟨task, hmem, hfound⟩ := hcore
    exact ⟨task, List.mem_append_left _ hmem, hfound⟩
  | @cancel front back task id hmove hsplit howner hholds h =>
    rcases Runs.takeOut (w := w.core) hcore hsplit with ⟨rfl, rfl, rfl⟩ | hother
    · refine .cancelled hmove howner ?_
      rw [← core_finished, h]
      exact List.mem_append_right _ List.mem_cons_self
    · refine .stays ?_
      rw [← runs_core, h]
      exact hother.conclude _
  | @interrupt front back task x outcome hsplit herrand hwhy h =>
    rcases Runs.takeOut (w := w.core) hcore hsplit with ⟨rfl, rfl, rfl⟩ | hother
    · have hended : ⟨task.serial, task.owner, outcome⟩ ∈ after.finished := by
        rw [← core_finished, h]
        exact List.mem_append_right _ List.mem_cons_self
      cases hwhy with
      | cancelled howner => exact .cancelled rfl howner hended
      | preempted habandoned =>
        rw [herrand]
        exact .preempted rfl habandoned hended
    · refine .stays ?_
      rw [← runs_core, h]
      exact (hother.carryOut .leave).conclude _
  | @vain front back task hsplit hturn h =>
    refine .stays ?_
    rw [← runs_core, h]
    rcases Runs.takeOut (w := w.core) hcore hsplit with ⟨rfl, rfl, rfl⟩ | hother
    · exact ⟨task.asleep, List.mem_append_right _ List.mem_cons_self, rfl, rfl, rfl⟩
    · obtain ⟨found, hmem, hfound⟩ := hother
      exact ⟨found, List.mem_append_left _ hmem, hfound⟩
  | @goOn front back task effect next hmove hsplit hturned h =>
    rcases Runs.takeOut (w := w.core) hcore hsplit with ⟨rfl, rfl, rfl⟩ | hother
    · refine .goesOn hmove hturned ?_ ?_ ?_ ⟨front, back, task, hsplit, rfl, rfl⟩ h
      · rw [← core_snapshot, h]
        exact snapshot_apply _ _ _
      · rw [← core_clock, h]
        rfl
      · rw [← runs_core, h]
        exact ⟨task.goOn next, List.mem_cons_self, rfl, rfl, rfl⟩
    · rcases hother.apply setup.policy effect with hkept | ⟨surface, hserver⟩
      · refine .stays ?_
        rw [← runs_core, h]
        exact Runs.cons hkept (task.goOn next)
      · exact .aborted hserver
  | @finish front back task effect outcome hmove hsplit hturned h =>
    rcases Runs.takeOut (w := w.core) hcore hsplit with ⟨rfl, rfl, rfl⟩ | hother
    · refine .ends hmove hturned ?_ ?_ ?_ ⟨front, back, task, hsplit, rfl, rfl⟩
      · rw [← core_snapshot, h]
        exact snapshot_apply _ _ _
      · rw [← core_clock, h]
        rfl
      · rw [← core_finished, h]
        exact List.mem_append_right _ List.mem_cons_self
    · rcases hother.apply setup.policy effect with hkept | ⟨surface, hserver⟩
      · refine .stays ?_
        rw [← runs_core, h]
        exact hkept.conclude _
      · exact .aborted hserver
  | tick hmove hcan h =>
    refine .stays ?_
    rw [← runs_core, h]
    exact hcore
  | ring hdue h =>
    refine .stays ?_
    rw [← runs_core, h]
    exact Runs.mapTasks hcore (Task.resembles_noticeTime _)
  | release hmove h =>
    rw [hmove]
    exact fate_releaseTask h hruns
  | signal hmove h =>
    rw [hmove]
    exact fate_catchSignal h hruns

/-- Ends are final. -/
theorem Happening.finished {setup : Setup} {move : Move} {w after : World}
    (hhappening : Happening setup move w after) {ending : Ending} (hmem : ending ∈ w.finished) :
    ending ∈ after.finished := by
  rw [← core_finished] at hmem ⊢
  cases hhappening with
  | @keep id hphase h =>
    rw [h]
    exact keepGuard_induction _ (P := fun after => ending ∈ after.finished) setup.policy id
      (fun _ _ hended => hended) (fun _ hended => hended) hmem
  | cancel _ _ _ _ h | interrupt _ _ _ h | finish _ _ _ h =>
    rw [h]
    exact List.mem_append_left _ hmem
  | idle h | deed _ h | refuse _ h | drop _ h | start _ h | vain _ _ h | goOn _ _ _ h | tick _ _ h
  | ring _ h | release _ h | signal _ h =>
    rw [h]
    exact hmem

/-- The clock stands still, or the move is a tick and nothing else changes. -/
theorem Happening.clock {setup : Setup} {move : Move} {w after : World}
    (hhappening : Happening setup move w after) :
    after.clock = w.clock ∨ ∃ milliseconds, move = .tick milliseconds ∧ w.canTick milliseconds = true
      ∧ after.core = { w.core with clock := w.clock + milliseconds } := by
  rw [← core_clock, ← core_clock w]
  cases hhappening with
  | @keep id hphase h =>
    left
    rw [h]
    exact keepGuard_induction _ (P := fun after => after.clock = w.core.clock) setup.policy id
      (fun _ _ hclock => hclock) (fun _ hclock => hclock) rfl
  | tick hmove hcan h => exact Or.inr ⟨_, hmove, hcan, h⟩
  | idle h | deed _ h | refuse _ h | drop _ h | start _ h | cancel _ _ _ _ h | interrupt _ _ _ h
  | vain _ _ h | goOn _ _ _ h | finish _ _ _ h | ring _ h | release _ h | signal _ h =>
    exact Or.inl ((congrArg World.clock h).trans rfl)

/-- The clock does not go back. -/
theorem Happening.clock_le {setup : Setup} {move : Move} {w after : World}
    (hhappening : Happening setup move w after) : w.clock ≤ after.clock := by
  rcases hhappening.clock with hstill | ⟨milliseconds, -, -, hticked⟩
  · exact Nat.le_of_eq hstill.symm
  · have hclock : after.clock = w.clock + milliseconds := by
      rw [← core_clock after, hticked]
    omega

namespace World

/-- Ends stay the same in every run. -/
theorem finished_run (setup : Setup) {w : World} {ending : Ending} (hmem : ending ∈ w.finished)
    (moves : List Move) : ending ∈ (w.run setup moves).finished :=
  run_induction setup w (P := fun after => ending ∈ after.finished) moves
    (fun _ _ _ _ hhappening hended => hhappening.finished hended) hmem

end World

end GracefulService
