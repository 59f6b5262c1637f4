import GracefulService.Proofs.Fates

/-!
# Where tasks and ends come from

Looking back, every task that is there after a move was there before it or has just been started, and every
end is an old one or that of a task which has just ended. What holds of the errands of tasks and of
their ends, and stays true while the snapshot goes on, can so be followed through a whole run.
-/

namespace GracefulService

/-- Where a task that is there after a move comes from. -/
inductive Origin (setup : Setup) (move : Move) (w after : World) (task : Task) : Prop where
  | same {source : Task} (hmem : source ∈ w.tasks) (hresembles : source.Resembles task) :
      Origin setup move w after task
  | vain {source : Task} {others : List Task} (hmem : source ∈ w.tasks)
      (hturn : { w with tasks := others }.turn setup source.looks source.errand = none)
      (htask : task = source.asleep) : Origin setup move w after task
  | begun (hbegins : task.errand.begins = true)
      (hlistens : task.errand.isListening = true → move.listens = true) :
      Origin setup move w after task
  | released {source : Task} {x : Exchange} {key : String} {response : Http.Response}
      (hmem : source ∈ w.tasks) (hsource : source.errand = .exchange x)
      (hheld : x.progress = .held key response)
      (htask : task.errand = .exchange { x with progress := .done response }) :
      Origin setup move w after task
  | signalled {name : String} (htask : task.errand = .watchSignals (some name)) :
      Origin setup move w after task
  | goesOn {source : Task} {others : List Task} {effect : Effect} (hmem : source ∈ w.tasks)
      (hturned : Turned setup { w with tasks := others } source.looks source.errand effect
        (.goOn task.errand))
      (hwoken : task.woken = true) (hsnapshot : after.snapshot = effect.result w.snapshot)
      (hserial : task.serial = source.serial) (howner : task.owner = source.owner) :
      Origin setup move w after task

/-- Where an end that is there after a move comes from. -/
inductive EndOrigin (setup : Setup) (w after : World) (ending : Ending) : Prop where
  | same (hmem : ending ∈ w.finished) : EndOrigin setup w after ending
  | interrupted {task : Task} {x : Exchange} {move : Move}
      (hwhy : task.Interrupted w.snapshot x move ending.outcome) : EndOrigin setup w after ending
  | cancelled (houtcome : ending.outcome = .cancelled) : EndOrigin setup w after ending
  | ends {source : Task} {others : List Task} {effect : Effect} (hmem : source ∈ w.tasks)
      (hturned : Turned setup { w with tasks := others } source.looks source.errand effect
        (.finish ending.outcome))
      (hsnapshot : after.snapshot = effect.result w.snapshot)
      (hothers : ∃ front back, w.tasks = front ++ source :: back ∧ others = front ++ back) :
      EndOrigin setup w after ending

namespace World

/-- Every task of a world is one of another, at the same errand. -/
def Echoes (w after : World) : Prop :=
  ∀ task ∈ after.tasks, ∃ source ∈ w.tasks, source.Resembles task

section Echoes

variable {policy : WakePolicy} {w : World}

/-- A world echoes itself. -/
theorem echoes_refl (w : World) : w.Echoes w := fun task hmem => ⟨task, hmem, .refl task⟩

/-- To change tasks but for their marks leaves an echo of them. -/
theorem echoes_mapTasks (w : World) {f : Task → Task} (hf : ∀ task : Task, task.Resembles (f task)) :
    w.Echoes { w with tasks := w.tasks.map f } := by
  intro task hmem
  obtain ⟨source, hsource, rfl⟩ := List.mem_map.1 hmem
  exact ⟨source, hsource, hf source⟩

/-- An echo of an echo is one. -/
theorem Echoes.trans {a b c : World} (hab : a.Echoes b) (hbc : b.Echoes c) : a.Echoes c := by
  intro task hmem
  obtain ⟨middle, hmiddle, hlast⟩ := hbc task hmem
  obtain ⟨source, hsource, hfirst⟩ := hab middle hmiddle
  exact ⟨source, hsource, hlast.serial.trans hfirst.serial, hlast.owner.trans hfirst.owner,
    hlast.errand.trans hfirst.errand, fun hasleep => hfirst.woken (hlast.woken hasleep)⟩

/-- A deed leaves an echo of all tasks. -/
theorem echoes_carryOut (policy : WakePolicy) (w : World) (deed : Deed) :
    w.Echoes (w.carryOut policy deed) :=
  echoes_mapTasks w (Task.resembles_rouse policy w.snapshot deed)

/-- What a turn does besides leaves an echo of all tasks. -/
theorem echoes_apply (policy : WakePolicy) (w : World) (effect : Effect) :
    w.Echoes (effect.apply policy w) := by
  have hcarried : w.Echoes (w.carryOutAll policy effect.deeds) :=
    carryOutAll_induction (P := w.Echoes) policy w effect.deeds
      (fun after deed _ h => h.trans (echoes_carryOut policy after deed)) (echoes_refl w)
  intro task hmem
  exact hcarried task (List.mem_filter.1 hmem).1

/-- The end of a task leaves an echo of the others. -/
theorem echoes_conclude (w : World) (ending : Ending) : w.Echoes (w.conclude ending) :=
  echoes_mapTasks w Task.resembles_noticeTask

/-- A slot that is kept leaves an echo of all tasks. -/
theorem echoes_keepGuard (policy : WakePolicy) (w : World) (id : String) :
    w.Echoes (w.keepGuard policy id) :=
  keepGuard_induction w (P := w.Echoes) policy id (fun _ _ h => h)
    (fun after h => h.trans (echoes_carryOut policy after .leave)) (echoes_refl w)

/-- The tasks beside one that is taken out are among the tasks. -/
theorem echoes_takeOut {front back : List Task} {task : Task} (hsplit : w.tasks = front ++ task :: back) :
    w.Echoes { w with tasks := front ++ back } := by
  intro other hmem
  exact ⟨other, mem_of_beside hsplit hmem, .refl other⟩

end Echoes

end World

open World

/-- Every task that is there after a move comes from somewhere. -/
theorem Happening.origin {setup : Setup} {move : Move} {w after : World}
    (hhappening : Happening setup move w after) {task : Task} (hmem : task ∈ after.tasks) :
    Origin setup move w after task := by
  have hechoes : w.core.Echoes after.core → Origin setup move w after task := by
    intro h
    obtain ⟨source, hsource, hresembles⟩ := h task hmem
    exact .same hsource hresembles
  cases hhappening with
  | idle h => exact hechoes (h ▸ echoes_refl w.core)
  | deed hmove h => exact hechoes (h ▸ echoes_carryOut _ _ _)
  | refuse hphase h => exact hechoes (h ▸ echoes_carryOut _ _ _)
  | keep hphase h => exact hechoes (h ▸ (echoes_carryOut _ _ _).trans (echoes_keepGuard _ _ _))
  | @drop id hheld h =>
    exact hechoes (h ▸ echoes_carryOut setup.policy { w.core with guards := w.guards.erase id } .leave)
  | start hbegins h hlistens =>
    rw [← core_tasks, h] at hmem
    rcases List.mem_append.1 hmem with hold | hnew
    · exact .same hold (.refl task)
    · rw [List.mem_singleton.1 hnew]
      exact .begun hbegins hlistens
  | cancel hmove hsplit howner hholds h =>
    have hothers : w.core.Echoes _ := echoes_takeOut hsplit
    exact hechoes (h ▸ hothers.trans (echoes_conclude _ _))
  | interrupt hsplit herrand hwhy h =>
    have hothers : w.core.Echoes _ := echoes_takeOut hsplit
    exact hechoes (h ▸ (hothers.trans (echoes_carryOut _ _ _)).trans (echoes_conclude _ _))
  | @vain front back source hsplit hturn h =>
    have hothers : w.core.Echoes _ := echoes_takeOut hsplit
    rw [← core_tasks, h] at hmem
    rcases List.mem_append.1 hmem with hold | hnew
    · obtain ⟨other, hother, hresembles⟩ := hothers task hold
      exact .same hother hresembles
    · exact .vain (mem_of_split hsplit) hturn (List.mem_singleton.1 hnew)
  | @goOn front back source effect errand hmove hsplit hturned h =>
    have hothers : w.core.Echoes _ := echoes_takeOut hsplit
    have hsnapshot : after.snapshot = effect.result w.snapshot :=
      (congrArg World.snapshot h).trans (snapshot_apply _ _ _)
    rw [← core_tasks, h] at hmem
    rcases List.mem_cons.1 hmem with rfl | hold
    · exact .goesOn (mem_of_split hsplit) hturned rfl hsnapshot rfl rfl
    · obtain ⟨other, hother, hresembles⟩ := (hothers.trans (echoes_apply _ _ _)) task hold
      exact .same hother hresembles
  | finish hmove hsplit hturned h =>
    have hothers : w.core.Echoes _ := echoes_takeOut hsplit
    exact hechoes (h ▸ (hothers.trans (echoes_apply _ _ _)).trans (echoes_conclude _ _))
  | tick hmove hcan h => exact hechoes (h ▸ echoes_refl w.core)
  | ring hdue h => exact hechoes (h ▸ echoes_mapTasks w.core (Task.resembles_noticeTime _))
  | release hmove h =>
    rw [← core_tasks, h] at hmem
    obtain ⟨source, hsource, rfl⟩ := List.mem_map.1 hmem
    unfold Supervisor.releaseTask
    split
    · rename_i x herrand
      split
      · rename_i held response hheld
        split
        · exact .released hsource herrand hheld rfl
        · exact .same hsource (.refl source)
      · exact .same hsource (.refl source)
    · exact .same hsource (.refl source)
  | signal hmove h =>
    rw [← core_tasks, h] at hmem
    obtain ⟨source, hsource, rfl⟩ := List.mem_map.1 hmem
    unfold Supervisor.catchSignal
    split
    · exact .signalled rfl
    · exact .same hsource (.refl source)

/-- Every end that is there after a move comes from somewhere. -/
theorem Happening.endOrigin {setup : Setup} {move : Move} {w after : World}
    (hhappening : Happening setup move w after) {ending : Ending} (hmem : ending ∈ after.finished) :
    EndOrigin setup w after ending := by
  rw [← core_finished] at hmem
  cases hhappening with
  | @keep id hphase h =>
    rw [h] at hmem
    have hkept : ((w.core.carryOut setup.policy .enter).keepGuard setup.policy id).finished
        = w.core.finished :=
      keepGuard_induction _ (P := fun after => after.finished = w.core.finished) setup.policy id
        (fun _ _ hsame => hsame) (fun _ hsame => hsame) rfl
    rw [hkept] at hmem
    exact .same hmem
  | cancel hmove hsplit howner hholds h =>
    rw [h] at hmem
    rcases List.mem_append.1 hmem with hold | hnew
    · exact .same hold
    · rw [List.mem_singleton.1 hnew]
      exact .cancelled rfl
  | interrupt hsplit herrand hwhy h =>
    rw [h] at hmem
    rcases List.mem_append.1 hmem with hold | hnew
    · exact .same hold
    · rw [List.mem_singleton.1 hnew]
      exact .interrupted hwhy
  | @finish front back source effect outcome hmove hsplit hturned h =>
    have hsnapshot : after.snapshot = effect.result w.snapshot :=
      (congrArg World.snapshot h).trans (snapshot_apply _ _ _)
    rw [h] at hmem
    rcases List.mem_append.1 hmem with hold | hnew
    · exact .same hold
    · rw [List.mem_singleton.1 hnew]
      exact .ends (mem_of_split hsplit) hturned hsnapshot ⟨front, back, hsplit, rfl⟩
  | idle h | deed _ h | refuse _ h | drop _ h | start _ h | vain _ _ h | goOn _ _ _ h | tick _ _ h
  | ring _ h | release _ h | signal _ h =>
    rw [h] at hmem
    exact .same hmem

end GracefulService
