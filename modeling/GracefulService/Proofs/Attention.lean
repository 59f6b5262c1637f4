import GracefulService.Proofs.Precedence

/-!
# No change is missed

Tasks are told about the snapshot only by changes that say so, and they look at it only when they were told.
All the same no task sleeps through what it waits for: the changes that tell nobody, an admission and a
release that is not the last, make no awaited condition true. So when every task waits, none of them waits
for something that has come.
-/

namespace GracefulService

namespace Errand

/-- Whoever sees what it waits for on the snapshot watches it. -/
theorem watchesSnapshot_of_sees {errand : Errand} {s : Snapshot} (h : errand.sees s = true) :
    errand.watchesSnapshot = true := by
  cases errand <;> first | rfl | exact absurd h Bool.false_ne_true

end Errand

namespace Deed

/-- A change that tells nobody makes no awaited condition true. -/
theorem sees_of_quiet {s : Snapshot} {deed : Deed} {change : Change} {errand : Errand}
    (hchange : deed.change s = some change) (hquiet : change.notifies = false)
    (hsees : errand.sees (deed.result s) = true) : errand.sees s = true := by
  have hafter : deed.result s = change.after := by
    simp only [result, hchange, Option.map_some, Option.getD_some]
  rw [hafter] at hsees
  have hphase : change.after.phase = s.phase ∧ change.after.abandoned = s.abandoned
      ∧ change.after.inFlight ≠ 0 := by
    cases deed with
    | nothing => cases hchange
    | advance target =>
      simp only [Deed.change, Snapshot.advance] at hchange
      split at hchange
      · cases Option.some.inj hchange
        cases hquiet
      · cases hchange
    | enter =>
      simp only [Deed.change, Snapshot.enter] at hchange
      split at hchange
      · cases Option.some.inj hchange
        exact ⟨rfl, rfl, Nat.succ_ne_zero _⟩
      · cases hchange
    | leave =>
      simp only [Deed.change, Snapshot.leave] at hchange
      split at hchange
      · cases hchange
      · cases Option.some.inj hchange
        exact ⟨rfl, rfl, of_decide_eq_false hquiet⟩
    | beginDrain cause =>
      simp only [Deed.change, Snapshot.beginDrain] at hchange
      split at hchange
      · cases Option.some.inj hchange
        cases hquiet
      · cases hchange
    | abandon =>
      simp only [Deed.change, Snapshot.abandon] at hchange
      split at hchange
      · cases Option.some.inj hchange
        cases hquiet
      · cases hchange
  obtain ⟨hphase, habandoned, hflying⟩ := hphase
  cases errand with
  | awaitIdle sequel timer => exact absurd (of_decide_eq_true hsees) hflying
  | watchSignals caught =>
    rw [← hsees]
    cases caught <;> simp only [Errand.sees, hphase]
  | _ =>
    rw [← hsees]
    simp only [Errand.sees, hphase, habandoned]

end Deed

/-- A task that misses nothing: it is about to look when what it waits for has come, and its turn comes
when it is about to look or has nothing to wait for. -/
structure Task.Attends (s : Snapshot) (task : Task) : Prop where
  /-- What it waits for has not come unless it is about to look. -/
  looks : task.errand.sees s = true → task.looks = true
  /-- It is about to look only when its turn comes. -/
  woken : task.looks = true → task.woken = true
  /-- Its turn comes when it has nothing to wait for. -/
  busy : task.errand.waits = false → task.woken = true

namespace Task

section Told

variable {s : Snapshot} {task : Task}

/-- A task that goes on with its next stage is about to look at it, so it misses nothing. -/
theorem attends_goOn (s : Snapshot) (task : Task) (errand : Errand) :
    (task.goOn errand).Attends s :=
  ⟨fun _ => rfl, fun _ => rfl, fun _ => rfl⟩

/-- A task that has just been started is about to look, so it misses nothing. -/
theorem attends_fresh (s : Snapshot) (serial : Nat) (owner : Owner) (errand : Errand) :
    (fresh serial owner errand).Attends s :=
  ⟨fun _ => rfl, fun _ => rfl, fun _ => rfl⟩

/-- A task that is told about a change attends to whatever the change has made of the snapshot. -/
theorem Attends.notice (h : task.Attends s) (s' : Snapshot) : task.notice.Attends s' := by
  unfold Task.notice
  split
  · exact ⟨fun _ => rfl, fun _ => rfl, fun _ => rfl⟩
  · rename_i hblind
    refine ⟨fun hsees => ?_, h.woken, h.busy⟩
    exact absurd (Errand.watchesSnapshot_of_sees hsees) hblind

/-- A task that is told about the end of another misses nothing. -/
theorem Attends.noticeTask (h : task.Attends s) : task.noticeTask.Attends s := by
  unfold Task.noticeTask
  split
  · exact ⟨h.looks, fun _ => rfl, fun _ => rfl⟩
  · exact h

/-- A task that is told about a moment misses nothing. -/
theorem Attends.noticeTime (h : task.Attends s) (timer : Timer) :
    (task.noticeTime timer).Attends s := by
  unfold Task.noticeTime
  split
  · exact ⟨h.looks, fun _ => rfl, fun _ => rfl⟩
  · exact h

/-- A task whose delegate may go on misses nothing. -/
theorem Attends.releaseTask (h : task.Attends s) (key : String) :
    (Supervisor.releaseTask key task).Attends s := by
  unfold Supervisor.releaseTask
  split
  · rename_i x herrand
    have hlooks := h.looks
    rw [herrand] at hlooks
    split
    · split
      · exact ⟨hlooks, fun _ => rfl, fun _ => rfl⟩
      · exact h
    · exact h
  · exact h

/-- A task that a signal reaches misses nothing. -/
theorem Attends.catchSignal (h : task.Attends s) (name : String) :
    (Supervisor.catchSignal name task).Attends s := by
  unfold Supervisor.catchSignal
  split
  · exact ⟨fun hsees => (by cases hsees), fun _ => rfl, fun _ => rfl⟩
  · exact h

/-- A deed tells everybody whom it concerns. -/
theorem Attends.rouse (h : task.Attends s) (policy : WakePolicy) (deed : Deed) :
    (deed.rouse policy s task).Attends (deed.result s) := by
  cases hchange : deed.change s with
  | none =>
    have hresult : deed.result s = s := by simp [Deed.result, hchange]
    rw [hresult, Deed.rouse_eq_id_of_refused hchange]
    exact h
  | some change =>
    by_cases htold : change.notifies ∨ policy = .always
    · rw [Deed.rouse_eq_notice hchange htold]
      exact h.notice _
    · have hquiet : change.notifies = false := by
        cases hnotifies : change.notifies with
        | false => rfl
        | true => exact absurd (Or.inl hnotifies) htold
      rw [Deed.rouse_eq_id_of_quiet hchange htold]
      exact ⟨fun hsees => h.looks (Deed.sees_of_quiet hchange hquiet hsees), h.woken, h.busy⟩

/-- A task whose turn came to nothing may sleep. -/
theorem Attends.asleep (h : task.Attends s) {setup : Setup} {w : World}
    (hturn : w.turn setup task.looks task.errand = none) (hs : w.snapshot = s) :
    task.asleep.Attends s := by
  obtain ⟨hblind, hwaits, -⟩ := World.turn_eq_none hturn
  rw [hs] at hblind
  refine ⟨fun hsees => ?_, fun hlooks => (by cases hlooks), fun hbusy => ?_⟩
  · have hsees' : task.errand.sees s = true := hsees
    rw [hblind (h.looks hsees')] at hsees'
    cases hsees'
  · have hbusy' : task.errand.waits = false := hbusy
    rw [hwaits] at hbusy'
    cases hbusy'

/-- A task that sleeps waits for something that has not come. -/
theorem Attends.waits (h : task.Attends s) (hasleep : task.woken = false) :
    task.errand.sees s = false ∧ task.errand.waits = true := by
  constructor
  · cases hsees : task.errand.sees s with
    | false => rfl
    | true =>
      rw [h.woken (h.looks hsees)] at hasleep
      cases hasleep
  · cases hwaits : task.errand.waits with
    | true => rfl
    | false =>
      rw [h.busy hwaits] at hasleep
      cases hasleep

end Told

end Task

namespace World

/-- No task misses anything. -/
def Attentive (w : World) : Prop := ∀ task ∈ w.tasks, task.Attends w.snapshot

section Attentive

variable {policy : WakePolicy} {w : World}

/-- A service that has just been created has no task that could miss anything. -/
theorem attentive_initial (checkup : Option Checkup) : (initial checkup).Attentive :=
  fun _ hmem => by cases hmem

/-- Whether tasks miss anything is decided by the core. -/
theorem attentive_core : w.core.Attentive ↔ w.Attentive := Iff.rfl

/-- Other tasks, told something that they attend to. -/
theorem Attentive.mapTasks (h : w.Attentive) {f : Task → Task}
    (hf : ∀ task : Task, task.Attends w.snapshot → (f task).Attends w.snapshot) :
    Attentive { w with tasks := w.tasks.map f } := by
  intro task hmem
  obtain ⟨source, hsource, rfl⟩ := List.mem_map.1 hmem
  exact hf source (h source hsource)

/-- Whatever deed is carried out, the tasks that see its result are told. -/
theorem Attentive.carryOut (h : w.Attentive) (deed : Deed) : (w.carryOut policy deed).Attentive := by
  intro task hmem
  obtain ⟨source, hsource, rfl⟩ := List.mem_map.1 hmem
  exact (h source hsource).rouse policy deed

/-- Whatever a turn does besides, no task misses it. -/
theorem Attentive.apply (h : w.Attentive) (effect : Effect) : (effect.apply policy w).Attentive := by
  have hcarried : (w.carryOutAll policy effect.deeds).Attentive :=
    carryOutAll_induction policy w effect.deeds (fun _ deed _ hattentive => hattentive.carryOut deed) h
  intro task hmem
  exact hcarried task (List.mem_filter.1 hmem).1

/-- No task misses the end of another. -/
theorem Attentive.conclude (h : w.Attentive) (ending : Ending) : (w.conclude ending).Attentive :=
  Attentive.mapTasks h fun _ hattends => hattends.noticeTask

/-- No task misses that a caller keeps a slot. -/
theorem Attentive.keepGuard (h : w.Attentive) (id : String) : (w.keepGuard policy id).Attentive :=
  keepGuard_induction w (P := Attentive) policy id (fun _ _ hattentive => hattentive)
    (fun _ hattentive => hattentive.carryOut .leave) h

/-- Without one of its tasks a world still misses nothing. -/
theorem Attentive.takeOut (h : w.Attentive) {front back : List Task} {task : Task}
    (hsplit : w.tasks = front ++ task :: back) :
    Attentive { w with tasks := front ++ back } ∧ task.Attends w.snapshot := by
  constructor
  · intro other hmem
    exact h other (mem_of_beside hsplit hmem)
  · exact h task (mem_of_split hsplit)

end Attentive

end World

open World

/-- Whatever happens, no task misses anything. -/
theorem Happening.attentive {setup : Setup} {move : Move} {w after : World}
    (hhappening : Happening setup move w after) (hattentive : w.Attentive) : after.Attentive := by
  rw [← attentive_core] at hattentive ⊢
  cases hhappening with
  | idle h =>
    rw [h]
    exact hattentive
  | @deed deed hmove h =>
    rw [h]
    exact hattentive.carryOut deed
  | refuse hphase h =>
    rw [h]
    exact hattentive.carryOut .enter
  | keep hphase h =>
    rw [h]
    exact (hattentive.carryOut .enter).keepGuard _
  | @drop id hheld h =>
    rw [h]
    exact Attentive.carryOut (w := { w.core with guards := w.guards.erase id }) hattentive .leave
  | start hbegins h =>
    rw [h]
    intro task hmem
    rcases List.mem_append.1 hmem with hold | hnew
    · exact hattentive task hold
    · rw [List.mem_singleton.1 hnew]
      exact Task.attends_fresh _ _ _ _
  | cancel hmove hsplit howner hholds h =>
    rw [h]
    exact (hattentive.takeOut hsplit).1.conclude _
  | interrupt hsplit herrand hwhy h =>
    rw [h]
    exact ((hattentive.takeOut hsplit).1.carryOut .leave).conclude _
  | vain hsplit hturn h =>
    rw [h]
    obtain ⟨hothers, htask⟩ := hattentive.takeOut hsplit
    intro task hmem
    rcases List.mem_append.1 hmem with hold | hnew
    · exact hothers task hold
    · rw [List.mem_singleton.1 hnew]
      exact htask.asleep hturn rfl
  | goOn hmove hsplit hturned h =>
    rw [h]
    intro task hmem
    rcases List.mem_cons.1 hmem with rfl | hold
    · exact Task.attends_goOn _ _ _
    · exact (hattentive.takeOut hsplit).1.apply _ task hold
  | finish hmove hsplit hturned h =>
    rw [h]
    exact ((hattentive.takeOut hsplit).1.apply _).conclude _
  | tick hmove hcan h =>
    rw [h]
    exact hattentive
  | ring hdue h =>
    rw [h]
    exact hattentive.mapTasks fun _ hattends => hattends.noticeTime _
  | release hmove h =>
    rw [h]
    exact hattentive.mapTasks fun _ hattends => hattends.releaseTask _
  | signal hmove h =>
    rw [h]
    exact hattentive.mapTasks fun _ hattends => hattends.catchSignal _

namespace World

/-- In every run no task misses anything. -/
theorem attentive_run {setup : Setup} {w : World} (h : w.Attentive) (moves : List Move) :
    (w.run setup moves).Attentive :=
  run_induction setup w (P := Attentive) moves (fun _ _ _ _ hhappening => hhappening.attentive) h

/-- When every task waits, each has something to wait for that has not come. -/
theorem Attentive.waits_at_rest {w : World} (h : w.Attentive) (hrest : w.isResting = true)
    {task : Task} (hmem : task ∈ w.tasks) :
    task.errand.sees w.snapshot = false ∧ task.errand.waits = true
      ∧ ∀ timer, task.errand.timer? = some timer → w.clock < timer.deadline := by
  have hresting := List.all_eq_true.1 hrest task hmem
  simp only [Bool.and_eq_true, Bool.not_eq_true'] at hresting
  obtain ⟨hwoken, htimer⟩ := hresting
  obtain ⟨hsees, hwaits⟩ := (h task hmem).waits hwoken
  refine ⟨hsees, hwaits, fun timer hset => ?_⟩
  rw [hset] at htimer
  simpa using htimer

end World

end GracefulService
