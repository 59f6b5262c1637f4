import GracefulService.Proofs.FirstCause
import GracefulService.Proofs.Marks

/-!
# Telling is as good as asking again

Tasks look at the snapshot when a stage begins and when a change is announced. Compared with it is a
service in which every task that waits for something on the snapshot is asked again after every single
operation, also where nothing changed or nothing was announced. Both do the same at every point of a
run: they differ only in the marks that say whose turn is due. So no announcement is missing, and what a
task waits for does not go away before its turn.
-/

namespace GracefulService

open Http

namespace World

/-! The service in which everybody is asked again after every operation. -/

/-- A task that watches the snapshot is asked again: it looks, and its turn is due exactly when something
would come of it. -/
def askAgain (setup : Setup) (w : World) (task : Task) : Task :=
  if task.errand.watchesSnapshot then
    { task with woken := (w.turn setup true task.errand).isSome, looks := true }
  else task

/-- A move, after which every task that watches the snapshot is asked again, whatever the move was and
whoever was told about it. -/
def moveAndRecheck (setup : Setup) (w : World) (move : Move) : World :=
  let after := w.move setup move
  { after with tasks := after.tasks.map (after.askAgain setup) }

/-- Every task that watches the snapshot has been asked. -/
def Rechecked (setup : Setup) (w : World) : Prop :=
  ∀ task ∈ w.tasks, task.errand.watchesSnapshot = true →
    task.woken = (w.turn setup true task.errand).isSome ∧ task.looks = true

/-- The moves of a run without the ticks that are refused because they come too early. -/
def withoutEarlyTicks (setup : Setup) (w : World) : List Move → List Move
  | [] => []
  | move :: moves =>
    let rest := (w.move setup move).withoutEarlyTicks setup moves
    match move with
    | .tick milliseconds => if w.canTick milliseconds then move :: rest else rest
    | _ => move :: rest

/-- Whoever watches the snapshot and waits for something that has not come, not in time either, has nothing
to do. -/
theorem turn_eq_none_of_waiting (setup : Setup) {w : World} {errand : Errand}
    (hwatches : errand.watchesSnapshot = true) (hblind : errand.sees w.snapshot = false)
    (hwaits : errand.waits = true)
    (htimer : ∀ timer, errand.timer? = some timer → w.clock < timer.deadline) :
    w.turn setup true errand = none := by
  cases errand with
  | awaitIdle sequel timer =>
    have hearly : ¬timer.deadline ≤ w.clock := Nat.not_le.2 (htimer timer rfl)
    simp_all [turn, turnAwaitIdle, isDue, Errand.sees]
  | watchSignals caught => cases caught <;> simp_all [turn, turnWatchSignals, Errand.sees, Errand.waits]
  | exchange x =>
    cases hprogress : x.progress with
    | paused timer response =>
      have hearly : ¬timer.deadline ≤ w.clock :=
        Nat.not_le.2 (htimer timer (by simp [Errand.timer?, hprogress]))
      simp_all [turn, turnExchange, isDue, Errand.sees]
    | _ => simp_all [turn, turnExchange, Errand.sees, Errand.waits]
  | _ => simp_all [turn, Errand.sees, Errand.watchesSnapshot]

section Rechecking

variable {a b : World} (setup : Setup) (q : WakePolicy)

/-- Whether something would come of a turn does not depend on the marks. -/
theorem Alike.turn_isSome (h : a.Alike b) (errand : Errand) :
    (a.turn setup true errand).isSome
      = (b.turn { setup with policy := q } true errand).isSome := by
  have hturn := Alike.turn setup q h true errand
  generalize a.turn setup true errand = turned at hturn
  generalize b.turn { setup with policy := q } true errand = turned' at hturn
  cases hturn <;> rfl

/-- To ask a task again is a matter of marks. -/
theorem dormant_askAgain (w : World) (task : Task) :
    (w.askAgain setup task).dormant = task.dormant := by
  unfold askAgain
  split
  · rename_i hwatches
    rw [Task.dormant_of_watches hwatches]
    exact (if_pos hwatches).symm
  · rfl

/-- To ask again changes the marks alone. -/
theorem alike_recheck (w : World) : Alike w { w with tasks := w.tasks.map (w.askAgain setup) } := by
  have hrefl : w.Alike w := rfl
  refine hrefl.withTasks ?_
  rw [List.map_map]
  exact List.map_congr_left fun task _ => (dormant_askAgain setup w task).symm

/-- After a move with which all are asked again, all have been asked. -/
theorem rechecked_moveAndRecheck (w : World) (move : Move) :
    (w.moveAndRecheck setup move).Rechecked setup := by
  intro task hmem hwatches
  obtain ⟨source, -, rfl⟩ := List.mem_map.1 hmem
  have herrand : ((w.move setup move).askAgain setup source).errand = source.errand := by
    unfold askAgain
    split <;> rfl
  rw [herrand] at hwatches ⊢
  have hsome := (alike_recheck setup (w.move setup move)).turn_isSome setup setup.policy
    source.errand
  rw [askAgain, if_pos hwatches]
  exact ⟨hsome, rfl⟩

/-- Whoever has been asked misses nothing. -/
theorem Rechecked.watchful {w : World} (h : w.Rechecked setup) : w.Watchful := by
  intro task hmem hsees
  exact (h task hmem (Errand.watchesSnapshot_of_sees hsees)).2

/-- Tasks that attend to the snapshot miss nothing either. -/
theorem Attentive.watchful {w : World} (h : w.Attentive) : w.Watchful :=
  fun task hmem => (h task hmem).looks

/-- When time may pass where tasks are told, it may pass where they are asked again. -/
theorem Alike.canTick (h : a.Alike b) (ha : a.Attentive)
    (hb : b.Rechecked { setup with policy := q }) {milliseconds : Nat}
    (hcan : a.canTick milliseconds = true) : b.canTick milliseconds = true := by
  have hrest : a.isResting = true := (Bool.and_eq_true_iff.1 hcan).1
  rw [World.canTick, World.isResting, Bool.and_eq_true, List.all_eq_true, List.all_eq_true] at hcan ⊢
  -- the same task, with other marks, is there where tasks are told
  have hsource : ∀ task' ∈ b.tasks, ∃ task ∈ a.tasks, task.dormant = task'.dormant := by
    intro task' hmem
    have hdormant : task'.dormant ∈ a.tasks.map Task.dormant := by
      rw [h.tasks]
      exact List.mem_map_of_mem hmem
    exact List.mem_map.1 hdormant
  rw [← h.clock]
  constructor
  · intro task' hmem'
    obtain ⟨task, hmem, hsame⟩ := hsource task' hmem'
    have herrand := (Task.same_of_dormant hsame).2.2
    have hresting := hcan.1 task hmem
    rw [Bool.and_eq_true, herrand] at hresting
    refine Bool.and_eq_true_iff.2 ⟨?_, hresting.2⟩
    cases hwatches : task'.errand.watchesSnapshot with
    | true =>
      obtain ⟨hblind, hwaits, htimer⟩ := ha.waits_at_rest hrest hmem
      rw [herrand] at hblind hwaits htimer
      have hnone := turn_eq_none_of_waiting setup hwatches hblind hwaits htimer
      rw [(hb task' hmem' hwatches).1, ← h.turn_isSome setup q, hnone]
      rfl
    | false =>
      have hmarks : task = task' := by
        rw [Task.dormant, Task.dormant, herrand, hwatches] at hsame
        exact hsame
      rw [← hmarks]
      exact hresting.1
  · intro task' hmem'
    obtain ⟨task, hmem, hsame⟩ := hsource task' hmem'
    have htimer := hcan.2 task hmem
    rw [(Task.same_of_dormant hsame).2.2] at htimer
    exact htimer

/-- What a run without its early ticks comes to. -/
theorem run_withoutEarlyTicks (w : World) (moves : List Move) :
    w.run setup (w.withoutEarlyTicks setup moves) = w.run setup moves := by
  induction moves generalizing w with
  | nil => rfl
  | cons move moves ih =>
    have hrest := ih (w.move setup move)
    have hkept : w.run setup (move :: (w.move setup move).withoutEarlyTicks setup moves)
        = w.run setup (move :: moves) := hrest
    cases move with
    | tick milliseconds =>
      simp only [withoutEarlyTicks]
      split
      · exact hkept
      · rename_i hearly
        have hstill : w.move setup (.tick milliseconds) = w := by
          simp only [World.move, if_neg hearly]
        rw [hstill] at hrest ⊢
        rw [hrest]
        exact (congrArg (World.run setup · moves) hstill).symm
    | _ => exact hkept

/-- Step by step, telling the tasks does what asking all of them again does. -/
theorem Alike.course (h : a.Alike b) (ha : a.Attentive)
    (hb : b.Rechecked { setup with policy := q }) (moves : List Move) :
    ((a.withoutEarlyTicks setup moves).scanl (World.move setup) a).map World.dormant
      = ((a.withoutEarlyTicks setup moves).scanl
        (moveAndRecheck { setup with policy := q }) b).map World.dormant := by
  induction moves generalizing a b with
  | nil => simp only [withoutEarlyTicks, List.scanl_nil, List.map_cons, h.dormant, List.map_nil]
  | cons move moves ih =>
    -- a move that is not an early tick does the same in both
    have hstep : (∀ milliseconds, move = .tick milliseconds → a.canTick milliseconds = true) →
        ((move :: (a.move setup move).withoutEarlyTicks setup moves).scanl
          (World.move setup) a).map World.dormant
        = ((move :: (a.move setup move).withoutEarlyTicks setup moves).scanl
          (moveAndRecheck { setup with policy := q }) b).map World.dormant := by
      intro htimely
      have hmoved := h.move setup q ha.watchful hb.watchful move
        fun milliseconds htick => by
          rw [htimely milliseconds htick, h.canTick setup q ha hb (htimely milliseconds htick)]
      have hasked : (a.move setup move).Alike (b.moveAndRecheck { setup with policy := q } move) :=
        hmoved.trans (alike_recheck _ _)
      have hrest := ih hasked ((move_happens setup a move).attentive ha)
        (rechecked_moveAndRecheck _ b move)
      rw [List.scanl_cons, List.scanl_cons, List.map_cons, List.map_cons, hrest, h.dormant]
    cases move with
    | tick milliseconds =>
      simp only [withoutEarlyTicks]
      split
      · rename_i hcan
        refine hstep fun milliseconds' hsame => ?_
        cases hsame
        exact hcan
      · rename_i hearly
        have hstill : a.move setup (.tick milliseconds) = a := by
          simp only [World.move, if_neg hearly]
        rw [hstill]
        exact ih h ha hb
    | _ =>
      refine hstep fun milliseconds hsame => ?_
      cases hsame

end Rechecking

/-- What a task waits for on the snapshot does not go away again. -/
theorem sees_later {s s' : Snapshot} (hprecedes : s.Precedes s') {errand : Errand}
    (hagrees : errand.Agrees s) (hsees : errand.sees s = true) : errand.sees s' = true := by
  have hreached : ∀ target, s.phase.hasReached target = true → s'.phase.hasReached target = true := by
    intro target hreached
    have hphase := hprecedes.phase
    simp only [Phase.hasReached, decide_eq_true_eq] at hreached ⊢
    omega
  cases errand with
  | awaitPhase target => exact hreached target hsees
  | awaitAbandonment => exact hprecedes.abandoned hsees
  | awaitShutdown sequel => exact hprecedes.isShuttingDown hsees
  | awaitIdle sequel timer =>
    have hfewer := hprecedes.inFlight hagrees
    simp only [Errand.sees, decide_eq_true_eq] at hsees ⊢
    omega
  | serve surface address => exact hreached .stopped hsees
  | watchSignals caught =>
    cases caught with
    | none => exact hreached .stopped hsees
    | some name => cases hsees
  | exchange x => exact hprecedes.abandoned hsees
  | _ => cases hsees

/-- In every run all tasks and all ends agree with what is recorded. -/
theorem agreed_run {setup : Setup} {w : World} (h : w.Agreed) (moves : List Move) :
    (w.run setup moves).Agreed :=
  run_induction setup w (P := Agreed) moves (fun _ _ _ _ hhappening => hhappening.agreed) h

end World

open World

/-- Telling those who wait only of the changes that concern somebody does, at every point of every run,
what asking all of them again after every operation does: tasks go on and end at the same points, and
nothing else differs but whose turn is due. A task for which what it waits for has come is about to
look; it does not go away again, so the task goes on or ends when its turn comes. When every task waits,
nothing that any of them waits for on the snapshot has come. -/
theorem rechecking_adds_nothing (setup : Setup) (checkup : Option Checkup) (policy : WakePolicy)
    (moves : List Move) :
    let created := World.initial checkup
    let kept := created.withoutEarlyTicks setup moves
    let w := created.run setup moves
    created.run setup kept = w
      ∧ (kept.scanl (World.move setup) created).map dormant
        = (kept.scanl (moveAndRecheck { setup with policy := policy }) created).map dormant
      ∧ (∀ task ∈ w.tasks, task.errand.sees w.snapshot = true →
        task.woken = true ∧ task.looks = true
          ∧ ∀ later, task.errand.sees (w.run setup later).snapshot = true
            ∧ (w.run setup later).turn setup true task.errand ≠ none)
      ∧ (w.isResting = true → ∀ task ∈ w.tasks, task.errand.sees w.snapshot = false) := by
  intro created kept w
  have hattentive : w.Attentive := attentive_run (attentive_initial checkup) moves
  have hagreed : w.Agreed :=
    agreed_run ⟨List.forall_mem_nil _, List.forall_mem_nil _⟩ moves
  have hcreated : created.Rechecked { setup with policy := policy } := List.forall_mem_nil _
  have hcourse := Alike.course setup policy (a := created) rfl
    (attentive_initial checkup) hcreated moves
  refine ⟨run_withoutEarlyTicks setup created moves, hcourse, ?_, ?_⟩
  · intro task hmem hsees
    have hlooks := (hattentive task hmem).looks hsees
    refine ⟨(hattentive task hmem).woken hlooks, hlooks, fun later => ?_⟩
    have hlater : task.errand.sees (w.run setup later).snapshot = true :=
      sees_later (precedes_run setup w later) (hagreed.tasks task hmem) hsees
    refine ⟨hlater, fun hnone => ?_⟩
    have hblind := (turn_eq_none hnone).1 rfl
    rw [hlater] at hblind
    cases hblind
  · intro hrest task hmem
    exact (hattentive.waits_at_rest hrest hmem).1

end GracefulService
