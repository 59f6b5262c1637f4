import GracefulService.Proofs.Fates

/-!
# When a drain is over

A drain waits for the shutdown and then, no longer than its window, for the last slot. The window begins at
the first moment at which the drain runs and the shutdown has begun. When every task waits, the drain
goes on exactly as long as slots are held and the window has not ended. Where a drain is over the service
has stopped, and no drain stops the service early while slots are held.
-/

namespace GracefulService

/-- A drain that is not over. -/
def Errand.drains : Errand → Bool
  | awaitShutdown _ | awaitIdle .. | readCause _ => true
  | _ => false

/-- The move starts a drain. -/
inductive Move.StartsDrain : Move → Owner → Sequel → Prop where
  | drain (id : String) : StartsDrain (.act (.drain id)) (.caller id) .report
  | listen (surfaces : List Surface) : StartsDrain (.listen surfaces) .service (.close surfaces)

namespace World

/-- The drain with a number goes on. -/
def Drains (w : World) (serial : Nat) (owner : Owner) : Prop :=
  ∃ errand, w.Runs serial owner errand ∧ errand.drains = true

/-- The first moment of a run at which the shutdown has begun. -/
def shutdownMoment (setup : Setup) (w : World) : List Move → Option Nat
  | [] => if w.snapshot.phase.isShuttingDown then some w.clock else none
  | first :: later =>
    if w.snapshot.phase.isShuttingDown then some w.clock
    else (w.move setup first).shutdownMoment setup later

/-- A drain for which the window has begun at some moment. -/
inductive Timely (setup : Setup) (since : Nat) (serial : Nat) (owner : Owner) (w : World) : Prop where
  | told {sequel : Sequel} (hruns : w.Runs serial owner (.awaitShutdown sequel))
      (hshutting : w.snapshot.phase.isShuttingDown = true) (hclock : w.clock = since)
  | timed {sequel : Sequel} {timer : Timer} (hruns : w.Runs serial owner (.awaitIdle sequel timer))
      (hshutting : w.snapshot.phase.isShuttingDown = true)
      (hdeadline : timer.deadline = since + setup.window) (hclock : w.clock ≤ timer.deadline)
  | ended (hdone : (∃ sequel, w.Runs serial owner (.readCause sequel))
        ∨ (∃ cause timer surfaces, w.Runs serial owner (.closeServers cause timer surfaces))
        ∨ (∃ cause, ⟨serial, owner, .drained cause⟩ ∈ w.finished)
        ∨ ∃ cause, ⟨serial, owner, .stopped cause⟩ ∈ w.finished)
      (hstopped : w.snapshot.phase = .stopped)
      (hwhy : w.snapshot.inFlight = 0 ∨ since + setup.window ≤ w.clock)
  | cancelled (h : ⟨serial, owner, .cancelled⟩ ∈ w.finished)

section Timely

variable {setup : Setup} {move : Move} {w after : World} {since serial : Nat} {owner : Owner}

/-- Time does not pass over an awaited moment. -/
theorem clock_le_of_awaited (hhappening : Happening setup move w after) {errand : Errand}
    {timer : Timer} (hruns : w.Runs serial owner errand) (hawaited : errand.timer? = some timer)
    (hclock : w.clock ≤ timer.deadline) : after.clock ≤ timer.deadline := by
  rcases hhappening.clock with hstill | ⟨milliseconds, -, hcan, hticked⟩
  · rw [hstill]
    exact hclock
  · obtain ⟨task, hmem, -, -, rfl⟩ := hruns
    simp only [canTick, Bool.and_eq_true, List.all_eq_true] at hcan
    have hbound := hcan.2 task hmem
    rw [hawaited] at hbound
    simp only [Option.all_some, decide_eq_true_eq] at hbound
    have hafter : after.clock = w.clock + milliseconds := by
      rw [← core_clock after, hticked]
    omega

/-- Time does not pass while a task has what it waits for. -/
theorem clock_of_seen (hhappening : Happening setup move w after) (hattentive : w.Attentive)
    {errand : Errand} (hruns : w.Runs serial owner errand) (hsees : errand.sees w.snapshot = true) :
    after.clock = w.clock := by
  rcases hhappening.clock with hstill | ⟨milliseconds, -, hcan, -⟩
  · exact hstill
  · obtain ⟨task, hmem, -, -, rfl⟩ := hruns
    simp only [canTick, Bool.and_eq_true] at hcan
    rw [(hattentive.waits_at_rest hcan.1 hmem).1] at hsees
    cases hsees

/-- A drain that was told of the shutdown begins its window before time passes. -/
theorem Timely.step_told (hhappening : Happening setup move w after) (hattentive : w.Attentive)
    {sequel : Sequel} (hruns : w.Runs serial owner (.awaitShutdown sequel))
    (hshutting : w.snapshot.phase.isShuttingDown = true) :
    Timely setup w.clock serial owner after := by
  have hafter := hhappening.precedes.isShuttingDown hshutting
  have hclock := clock_of_seen hhappening hattentive hruns hshutting
  cases hhappening.fate hruns with
  | stays h => exact .told h hafter hclock
  | goesOn hmove hturned hsnapshot hstill h =>
    cases hturned with
    | seeShutdown hlooks hbegun =>
      refine .timed h hafter rfl ?_
      rw [hclock]
      exact Nat.le_add_right _ _
  | ends hmove hturned hsnapshot hstill h => cases hturned
  | cancelled hmove howner h => exact .cancelled h
  | aborted hserver => cases hserver

/-- A drain in its window goes on or is over in time. -/
theorem Timely.step_timed (hhappening : Happening setup move w after) {sequel : Sequel}
    {timer : Timer} (hruns : w.Runs serial owner (.awaitIdle sequel timer))
    (hshutting : w.snapshot.phase.isShuttingDown = true)
    (hdeadline : timer.deadline = since + setup.window) (hclock : w.clock ≤ timer.deadline) :
    Timely setup since serial owner after := by
  have hafter := hhappening.precedes.isShuttingDown hshutting
  cases hhappening.fate hruns with
  | stays h => exact .timed h hafter hdeadline (clock_le_of_awaited hhappening hruns rfl hclock)
  | goesOn hmove hturned hsnapshot hstill h =>
    obtain ⟨hstopped, hsame⟩ := Deed.stopped_of_advance hshutting
    cases hturned with
    | seeIdle hlooks hidle =>
      have hsnapshot' : after.snapshot = (Deed.advance .stopped).result w.snapshot := hsnapshot
      refine .ended (Or.inl ⟨_, h⟩) ?_ (Or.inl ?_)
      · rw [hsnapshot']
        exact hstopped
      · rw [hsnapshot', hsame]
        exact hidle
    | endWindow hdue =>
      have hsnapshot' : after.snapshot = (Deed.advance .stopped).result w.snapshot := hsnapshot
      have hdue' : timer.deadline ≤ w.clock := hdue
      refine .ended (Or.inl ⟨_, h⟩) ?_ (Or.inr ?_)
      · rw [hsnapshot']
        exact hstopped
      · rw [hstill, ← hdeadline]
        exact hdue'
  | ends hmove hturned hsnapshot hstill h => cases hturned
  | cancelled hmove howner h => exact .cancelled h
  | aborted hserver => cases hserver

/-- A drain that is over stays so. -/
theorem Timely.step_ended (hhappening : Happening setup move w after)
    (hdone : (∃ sequel, w.Runs serial owner (.readCause sequel))
      ∨ (∃ cause timer surfaces, w.Runs serial owner (.closeServers cause timer surfaces))
      ∨ (∃ cause, ⟨serial, owner, .drained cause⟩ ∈ w.finished)
      ∨ ∃ cause, ⟨serial, owner, .stopped cause⟩ ∈ w.finished)
    (hstopped : w.snapshot.phase = .stopped)
    (hwhy : w.snapshot.inFlight = 0 ∨ since + setup.window ≤ w.clock) :
    Timely setup since serial owner after := by
  have hprecedes := hhappening.precedes
  have hafter := hprecedes.stopped hstopped
  have hwhy' : after.snapshot.inFlight = 0 ∨ since + setup.window ≤ after.clock := by
    have hfewer := hprecedes.inFlight (by rw [hstopped]; rfl)
    have hlater := hhappening.clock_le
    omega
  rcases hdone with ⟨sequel, hruns⟩ | ⟨cause, timer, surfaces, hruns⟩ | ⟨cause, hended⟩ |
      ⟨cause, hended⟩
  · cases hhappening.fate hruns with
    | stays h => exact .ended (Or.inl ⟨_, h⟩) hafter hwhy'
    | goesOn hmove hturned hsnapshot hstill h =>
      cases hturned with
      | beginClosing => exact .ended (Or.inr (Or.inl ⟨_, _, _, h⟩)) hafter hwhy'
    | ends hmove hturned hsnapshot hstill h =>
      cases hturned with
      | report => exact .ended (Or.inr (Or.inr (Or.inl ⟨_, h⟩))) hafter hwhy'
    | cancelled hmove howner h => exact .cancelled h
    | aborted hserver => cases hserver
  · cases hhappening.fate hruns with
    | stays h => exact .ended (Or.inr (Or.inl ⟨_, _, _, h⟩)) hafter hwhy'
    | goesOn hmove hturned hsnapshot hstill h =>
      cases hturned with
      | seeClosed hgone => exact .ended (Or.inr (Or.inl ⟨_, _, _, h⟩)) hafter hwhy'
      | endGrace hserver hdue => exact .ended (Or.inr (Or.inl ⟨_, _, _, h⟩)) hafter hwhy'
    | ends hmove hturned hsnapshot hstill h =>
      cases hturned with
      | endClosing => exact .ended (Or.inr (Or.inr (Or.inr ⟨_, h⟩))) hafter hwhy'
    | cancelled hmove howner h => exact .cancelled h
    | aborted hserver => cases hserver
  · exact .ended (Or.inr (Or.inr (Or.inl ⟨_, hhappening.finished hended⟩))) hafter hwhy'
  · exact .ended (Or.inr (Or.inr (Or.inr ⟨_, hhappening.finished hended⟩))) hafter hwhy'

/-- Whatever happens, a drain keeps to its window. -/
theorem Timely.step (h : Timely setup since serial owner w)
    (hhappening : Happening setup move w after) (hattentive : w.Attentive) :
    Timely setup since serial owner after := by
  cases h with
  | told hruns hshutting hclock =>
    rw [← hclock]
    exact Timely.step_told hhappening hattentive hruns hshutting
  | timed hruns hshutting hdeadline hclock =>
    exact Timely.step_timed hhappening hruns hshutting hdeadline hclock
  | ended hdone hstopped hwhy => exact Timely.step_ended hhappening hdone hstopped hwhy
  | cancelled h => exact .cancelled (hhappening.finished h)

/-- In every run a drain keeps to its window. -/
theorem Timely.run (h : Timely setup since serial owner w) (hattentive : w.Attentive)
    (moves : List Move) : Timely setup since serial owner (w.run setup moves) := by
  have hboth : (w.run setup moves).Attentive
      ∧ Timely setup since serial owner (w.run setup moves) :=
    run_induction setup w (P := fun after => after.Attentive ∧ Timely setup since serial owner after)
      moves
      (fun _ _ _ _ hhappening hw => ⟨hhappening.attentive hw.1, hw.2.step hhappening hw.1⟩)
      ⟨hattentive, h⟩
  exact hboth.2

/-- A drain that waits for the shutdown does so, or is cancelled, until the shutdown has begun. -/
def Early (w : World) (serial : Nat) (owner : Owner) : Prop :=
  (∃ sequel, w.Runs serial owner (.awaitShutdown sequel))
    ∨ ⟨serial, owner, .cancelled⟩ ∈ w.finished

/-- Before the shutdown begins, a drain that is early stays so. -/
theorem Early.step (h : w.Early serial owner) (hhappening : Happening setup move w after)
    (hopen : w.snapshot.phase.isShuttingDown = false) : after.Early serial owner := by
  rcases h with ⟨sequel, hruns⟩ | hcancelled
  · cases hhappening.fate hruns with
    | stays h => exact Or.inl ⟨sequel, h⟩
    | goesOn hmove hturned hsnapshot hstill h =>
      cases hturned with
      | seeShutdown hlooks hbegun =>
        have hbegun' : w.snapshot.phase.isShuttingDown = true := hbegun
        rw [hopen] at hbegun'
        cases hbegun'
    | ends hmove hturned hsnapshot hstill h => cases hturned
    | cancelled hmove howner h => exact Or.inr h
    | aborted hserver => cases hserver
  · exact Or.inr (hhappening.finished hcancelled)

/-- As long as the shutdown has not begun, a drain waits for it. -/
theorem early_run (hearly : w.Early serial owner) {moves : List Move}
    (hnone : w.shutdownMoment setup moves = none) :
    (w.run setup moves).Early serial owner
      ∧ (w.run setup moves).snapshot.phase.isShuttingDown = false := by
  induction moves generalizing w with
  | nil =>
    unfold shutdownMoment at hnone
    cases hshutting : w.snapshot.phase.isShuttingDown with
    | false => exact ⟨hearly, hshutting⟩
    | true =>
      rw [hshutting] at hnone
      cases hnone
  | cons first later ih =>
    unfold shutdownMoment at hnone
    cases hshutting : w.snapshot.phase.isShuttingDown with
    | false =>
      rw [hshutting] at hnone
      exact ih (hearly.step (move_happens setup w first) hshutting) hnone
    | true =>
      rw [hshutting] at hnone
      cases hnone

/-- From the first moment on at which the shutdown has begun, a drain keeps to its window. -/
theorem timely_run (hattentive : w.Attentive) (hearly : w.Early serial owner) {moves : List Move}
    (hsome : w.shutdownMoment setup moves = some since) :
    Timely setup since serial owner (w.run setup moves) := by
  -- What is at hand at the moment itself, whichever moves follow.
  have hbegin : ∀ w : World, w.Early serial owner → w.snapshot.phase.isShuttingDown = true →
      Timely setup w.clock serial owner w := by
    intro w hearly hshutting
    rcases hearly with ⟨sequel, hruns⟩ | hcancelled
    · exact .told hruns hshutting rfl
    · exact .cancelled hcancelled
  induction moves generalizing w with
  | nil =>
    unfold shutdownMoment at hsome
    cases hshutting : w.snapshot.phase.isShuttingDown with
    | false =>
      rw [hshutting] at hsome
      cases hsome
    | true =>
      rw [hshutting] at hsome
      cases hsome
      exact hbegin w hearly hshutting
  | cons first later ih =>
    unfold shutdownMoment at hsome
    cases hshutting : w.snapshot.phase.isShuttingDown with
    | false =>
      rw [hshutting] at hsome
      have hhappening := move_happens setup w first
      exact ih (hhappening.attentive hattentive) (hearly.step hhappening hshutting) hsome
    | true =>
      rw [hshutting] at hsome
      cases hsome
      exact (hbegin w hearly hshutting).run hattentive (first :: later)

/-- When every task waits, a drain goes on exactly as long as slots are held and its window has not
ended. -/
theorem Timely.drains_iff (h : Timely setup since serial owner w) (hnumbered : w.Numbered)
    (hattentive : w.Attentive) (hrest : w.isResting = true)
    (hcancelled : ⟨serial, owner, .cancelled⟩ ∉ w.finished) :
    w.Drains serial owner
      ↔ 0 < w.snapshot.inFlight ∧ w.clock < since + setup.window := by
  have hwaits : ∀ {errand}, w.Runs serial owner errand → errand.sees w.snapshot = false
      ∧ errand.waits = true ∧ ∀ timer, errand.timer? = some timer → w.clock < timer.deadline := by
    intro errand hruns
    obtain ⟨task, hmem, -, -, rfl⟩ := hruns
    exact hattentive.waits_at_rest hrest hmem
  cases h with
  | told hruns hshutting hclock =>
    have hblind : w.snapshot.phase.isShuttingDown = false := (hwaits hruns).1
    rw [hshutting] at hblind
    cases hblind
  | timed hruns hshutting hdeadline hclock =>
    obtain ⟨hblind, -, htimer⟩ := hwaits hruns
    have hflying : ¬w.snapshot.inFlight = 0 := of_decide_eq_false hblind
    have hlater := htimer _ rfl
    constructor
    · intro _
      omega
    · intro _
      exact ⟨_, hruns, rfl⟩
  | ended hdone hstopped hwhy =>
    constructor
    · rintro ⟨errand, hruns, hdrains⟩
      have hended : ∀ outcome, ⟨serial, owner, outcome⟩ ∉ w.finished := by
        intro outcome hmem
        obtain ⟨task, htask, hserial, -, -⟩ := hruns
        exact hnumbered.not_over htask hmem hserial
      rcases hdone with ⟨sequel, hreads⟩ | ⟨cause, timer, surfaces, hcloses⟩ | ⟨cause, hmem⟩ |
          ⟨cause, hmem⟩
      · have hbusy := (hwaits hreads).2.1
        cases hbusy
      · have hsame := hnumbered.errand_unique hruns hcloses
        rw [hsame] at hdrains
        cases hdrains
      · exact absurd hmem (hended _)
      · exact absurd hmem (hended _)
    · omega
  | cancelled h => exact absurd h hcancelled

/-- Past its window a drain is over, and the service has stopped. -/
theorem Timely.stopped (h : Timely setup since serial owner w)
    (hcancelled : ⟨serial, owner, .cancelled⟩ ∉ w.finished)
    (hpast : ¬w.Drains serial owner ∨ since + setup.window < w.clock) :
    w.snapshot.phase = .stopped := by
  cases h with
  | told hruns hshutting hclock =>
    rcases hpast with hdone | hlater
    · exact absurd ⟨_, hruns, rfl⟩ hdone
    · omega
  | timed hruns hshutting hdeadline hclock =>
    rcases hpast with hdone | hlater
    · exact absurd ⟨_, hruns, rfl⟩ hdone
    · omega
  | ended hdone hstopped hwhy => exact hstopped
  | cancelled h => exact absurd h hcancelled

/-- A turn of a drain that stops the service while slots are held ends the window. -/
theorem due_of_stop (hnumbered : w.Numbered) {errand : Errand}
    (hruns : w.Runs serial owner errand) (hdrains : errand.drains = true)
    (hmove : move.isTurnOf serial = true) (hdraining : w.snapshot.phase = .draining)
    (hstops : (w.move setup move).snapshot.phase = .stopped) (hflying : 0 < w.snapshot.inFlight) :
    ∃ sequel timer, errand = .awaitIdle sequel timer ∧ timer.deadline ≤ w.clock := by
  have hexchange : ∀ x, errand ≠ .exchange x := by
    rintro x rfl
    cases hdrains
  obtain ⟨task, front, back, rfl, rfl, rfl, -, hmoved⟩ := hnumbered.move_runs_eq setup hruns hexchange hmove
  have hstays : ¬(w.move setup move).snapshot = w.snapshot := by
    intro hsame
    rw [hsame, hdraining] at hstops
    cases hstops
  rw [hmoved] at hstays
  cases hturn : turn setup { w with tasks := front ++ back } task.looks task.errand with
  | none =>
    rw [takeTurn_vain hturn] at hstays
    exact absurd rfl hstays
  | some result =>
    obtain ⟨after, next⟩ := result
    obtain ⟨effect, hturned, hcore⟩ := turned_of_turn hturn
    have hsnapshot : (w.takeTurn setup task (front ++ back)).snapshot
        = effect.result w.snapshot := by
      have hafter : after.snapshot = effect.result w.snapshot :=
        (congrArg snapshot hcore).trans (snapshot_apply _ _ _)
      simp only [takeTurn, hturn]
      cases next <;> exact hafter
    rw [hsnapshot] at hstays
    cases herrand : task.errand with
    | awaitShutdown sequel =>
      rw [herrand] at hturned
      cases hturned with
      | seeShutdown hlooks hshutting => exact absurd rfl hstays
    | awaitIdle sequel timer =>
      rw [herrand] at hturned
      cases hturned with
      | seeIdle hlooks hidle =>
        have hidle' : w.snapshot.inFlight = 0 := hidle
        omega
      | endWindow hdue => exact ⟨sequel, timer, rfl, hdue⟩
    | readCause sequel =>
      rw [herrand] at hturned
      cases hturned with
      | report => exact absurd rfl hstays
      | beginClosing => exact absurd rfl hstays
    | _ =>
      rw [herrand] at hdrains
      cases hdrains

end Timely

/-- The turns of a number whose drain is over, or was cancelled, do not stop a service that drains. -/
theorem not_stop_of_ended {setup : Setup} {move : Move} {w : World} {serial : Nat} {owner : Owner}
    (hnumbered : w.Numbered) {outcome : Outcome} (hended : ⟨serial, owner, outcome⟩ ∈ w.finished)
    (hmove : move.isTurnOf serial = true) (hdraining : w.snapshot.phase = .draining) :
    (w.move setup move).snapshot.phase ≠ .stopped := by
  have habsent : ∀ task ∈ w.tasks, task.serial ≠ serial :=
    fun task hmem => hnumbered.not_over hmem hended
  rw [move_turn_absent setup hmove habsent, hdraining]
  intro hsame
  cases hsame

section Windows

variable {setup : Setup} {w : World} {since serial : Nat} {owner : Owner}

/-- A drain does not stop the service while slots are held before its window has ended. -/
theorem Timely.window_of_stop (h : Timely setup since serial owner w) (hnumbered : w.Numbered)
    {move : Move} (hmove : move.isTurnOf serial = true) (hdraining : w.snapshot.phase = .draining)
    (hstops : (w.move setup move).snapshot.phase = .stopped) (hflying : 0 < w.snapshot.inFlight) :
    since + setup.window ≤ w.clock := by
  cases h with
  | told hruns hshutting hclock =>
    obtain ⟨sequel, timer, hsame, -⟩ :=
      due_of_stop hnumbered hruns rfl hmove hdraining hstops hflying
    cases hsame
  | timed hruns hshutting hdeadline hclock =>
    obtain ⟨sequel, timer, hsame, hdue⟩ :=
      due_of_stop hnumbered hruns rfl hmove hdraining hstops hflying
    cases hsame
    omega
  | ended hdone hstopped hwhy =>
    rw [hdraining] at hstopped
    cases hstopped
  | cancelled h => exact absurd hstops (not_stop_of_ended hnumbered h hmove hdraining)

/-- Either the shutdown has not begun since a drain was started, or its window is known. -/
theorem Early.run_or_timely (hearly : w.Early serial owner) (hattentive : w.Attentive)
    (moves : List Move) :
    (w.shutdownMoment setup moves = none ∧ (w.run setup moves).Early serial owner
        ∧ (w.run setup moves).snapshot.phase.isShuttingDown = false)
      ∨ ∃ since, w.shutdownMoment setup moves = some since
        ∧ Timely setup since serial owner (w.run setup moves) := by
  cases hmoment : w.shutdownMoment setup moves with
  | none => exact Or.inl ⟨rfl, early_run hearly hmoment⟩
  | some since => exact Or.inr ⟨since, rfl, timely_run hattentive hearly hmoment⟩

/-- A drain that has just been started waits for the shutdown. -/
theorem early_start {start : Move} {sequel : Sequel} (hstart : start.StartsDrain owner sequel) :
    (w.move setup start).Early w.started owner := by
  left
  cases hstart with
  | drain id => exact ⟨_, _, List.mem_append_right _ List.mem_cons_self, rfl, rfl, rfl⟩
  | listen surfaces => exact ⟨_, _, List.mem_append_right _ List.mem_cons_self, rfl, rfl, rfl⟩

end Windows

end World

open World

/-- In every run a drain that is not cancelled goes on until the shutdown has begun. From the first moment
on at which it runs and the shutdown has begun, it goes on, when every task waits, exactly as long as
slots are held and its window has not ended, and past its window the service has stopped. Where a drain is
over the service has stopped, and no drain stops it while slots are held before its window has ended. -/
theorem drain_over_exactly (setup : Setup) (checkup : Option Checkup) (before : List Move)
    {start : Move} {owner : Owner} {sequel : Sequel} (hstart : start.StartsDrain owner sequel)
    (later : List Move) :
    let begun := (World.initial checkup).run setup before
    let serial := begun.started
    let moment := (begun.move setup start).shutdownMoment setup later
    let w := (World.initial checkup).run setup (before ++ start :: later)
    (⟨serial, owner, .cancelled⟩ ∉ w.finished →
        (moment = none → w.Drains serial owner)
        ∧ (∀ since, moment = some since → w.isResting = true →
          (w.Drains serial owner
            ↔ 0 < w.snapshot.inFlight ∧ w.clock < since + setup.window))
        ∧ (∀ since, moment = some since →
          since + setup.window < w.clock ∨ (w.isResting = true ∧ since + setup.window = w.clock) →
          w.snapshot.phase = .stopped)
        ∧ (¬w.Drains serial owner → w.snapshot.phase = .stopped))
      ∧ (∀ cause, ⟨serial, owner, .drained cause⟩ ∈ w.finished → w.snapshot.phase = .stopped)
      ∧ ∀ move, move.isTurnOf serial = true → w.snapshot.phase = .draining →
        (w.move setup move).snapshot.phase = .stopped → 0 < w.snapshot.inFlight →
        ∃ since, moment = some since ∧ since + setup.window ≤ w.clock := by
  intro begun serial moment w
  have hbegun_numbered : begun.Numbered := numbered_run (numbered_initial checkup) before
  have hbegun_attentive : begun.Attentive := attentive_run (attentive_initial checkup) before
  have hhappening := move_happens setup begun start
  have hw : w = (begun.move setup start).run setup later := by
    have hsplit := run_append setup (World.initial checkup) before (start :: later)
    exact hsplit
  have hnumbered : w.Numbered := by
    rw [hw]
    exact numbered_run (hhappening.numbered hbegun_numbered) later
  have hattentive : w.Attentive := by
    rw [hw]
    exact attentive_run (hhappening.attentive hbegun_attentive) later
  have hcases : (moment = none ∧ w.Early serial owner ∧ w.snapshot.phase.isShuttingDown = false)
      ∨ ∃ since, moment = some since ∧ Timely setup since serial owner w := by
    rw [hw]
    exact (early_start hstart).run_or_timely (hhappening.attentive hbegun_attentive) later
  refine ⟨fun hcancelled => ⟨?_, ?_, ?_, ?_⟩, ?_, ?_⟩
  · intro hnone
    rcases hcases with ⟨-, ⟨sequel, hwaits⟩ | hended, -⟩ | ⟨since, hsome, -⟩
    · exact ⟨_, hwaits, rfl⟩
    · exact absurd hended hcancelled
    · rw [hnone] at hsome
      cases hsome
  · intro since hsome hrest
    rcases hcases with ⟨hnone, -⟩ | ⟨since', hsome', htimely⟩
    · rw [hnone] at hsome
      cases hsome
    · rw [hsome] at hsome'
      cases hsome'
      exact htimely.drains_iff hnumbered hattentive hrest hcancelled
  · intro since hsome hpast
    rcases hcases with ⟨hnone, -⟩ | ⟨since', hsome', htimely⟩
    · rw [hnone] at hsome
      cases hsome
    · rw [hsome] at hsome'
      cases hsome'
      rcases hpast with hlater | ⟨hrest, hended⟩
      · exact htimely.stopped hcancelled (Or.inr hlater)
      · have hiff := htimely.drains_iff hnumbered hattentive hrest hcancelled
        refine htimely.stopped hcancelled (Or.inl fun hdrains => ?_)
        have hearlier := (hiff.1 hdrains).2
        omega
  · intro hdone
    rcases hcases with ⟨-, ⟨sequel, hwaits⟩ | hended, -⟩ | ⟨since, -, htimely⟩
    · exact absurd ⟨_, hwaits, rfl⟩ hdone
    · exact absurd hended hcancelled
    · exact htimely.stopped hcancelled (Or.inl hdone)
  · intro cause hended
    have hdone : ¬w.Drains serial owner := by
      rintro ⟨errand, ⟨task, hmem, hserial, -, -⟩, -⟩
      exact hnumbered.not_over hmem hended hserial
    have hcancelled : ⟨serial, owner, .cancelled⟩ ∉ w.finished := by
      intro hmem
      have hsame := hnumbered.ending_unique hmem hended rfl
      cases hsame
    rcases hcases with ⟨-, ⟨sequel, hwaits⟩ | hmem, -⟩ | ⟨since, -, htimely⟩
    · exact absurd ⟨_, hwaits, rfl⟩ hdone
    · exact absurd hmem hcancelled
    · exact htimely.stopped hcancelled (Or.inl hdone)
  · intro move hmove hdraining hstops hflying
    have hshutting : w.snapshot.phase.isShuttingDown = true := by
      rw [hdraining]
      rfl
    rcases hcases with ⟨-, -, hopen⟩ | ⟨since, hsome, htimely⟩
    · rw [hshutting] at hopen
      cases hopen
    · exact ⟨since, hsome, htimely.window_of_stop hnumbered hmove hdraining hstops hflying⟩

/-- A service that lets slots be held for one second after the shutdown has begun. -/
def patient : Setup := ⟨⟨.empty, true, fun _ => ⟨none, .broken⟩⟩, 1000, 1000, .onNotice⟩

/-- While a slot is held, a drain of the patient service goes on up to the last moment of its window. -/
theorem drain_over_exactly_patient :
    ((World.initial none).run patient
      [.act (.advance .opened), .act (.advance .listening), .act (.enter "a"), .act (.drain "b"),
        .turn 0, .act (.beginDrain .manualStop), .turn 0, .turn 0, .tick 999]).Drains 0
      (.caller "b") :=
  (((drain_over_exactly patient none
    [.act (.advance .opened), .act (.advance .listening), .act (.enter "a")] (.drain "b")
    [.turn 0, .act (.beginDrain .manualStop), .turn 0, .turn 0, .tick 999]).1
    List.not_mem_nil).2.1 0 rfl rfl).2 ⟨by decide, by decide⟩

end GracefulService
