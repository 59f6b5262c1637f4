import GracefulService.Proofs.Scripts
import GracefulService.Proofs.Supervision
import GracefulService.Supervisor.Script

/-!
# Scripts for supervised services are runs

Whoever drives a supervised service step by step takes it through one of its runs. An opening that nobody
comes between is its stages one after the other, listening is its parts, a request is sent by starting a
task, and between the steps the tasks take their turns until the service rests. So a script for a
supervised service shows only what a run of it comes to.
-/

namespace GracefulService

open Http

/-- A world without a task that sleeps past its moment, where no number was given twice. -/
structure World.Prompt (w : World) : Prop where
  /-- No number was given twice. -/
  numbered : w.Numbered
  /-- The moments of tasks that sleep lie ahead. -/
  punctual : w.Punctual (w.clock + 1)

/-- What nobody reads back is not the clock. -/
theorem World.clock_of_core {w after : World} (h : after.core = w.core) : after.clock = w.clock := by
  rw [← core_clock, h, core_clock]

namespace Supervisor

open World

/-- A supervised service comes to another by a run. -/
def Reaches (s after : Supervisor) : Prop := ∃ moves, after = s.run moves

/-- A supervised service comes to itself by doing nothing. -/
theorem Reaches.refl (s : Supervisor) : s.Reaches s := ⟨[], rfl⟩

/-- What a supervised service comes to by two runs it comes to by one. -/
theorem Reaches.trans {a b c : Supervisor} (hab : a.Reaches b) (hbc : b.Reaches c) : a.Reaches c := by
  obtain ⟨moves, rfl⟩ := hab
  obtain ⟨later, rfl⟩ := hbc
  exact ⟨moves ++ later, (run_append a moves later).symm⟩

/-- One move is a run. -/
theorem reaches_move (s : Supervisor) (step : SupervisorMove) : s.Reaches (s.move step) :=
  ⟨[step], rfl⟩

/-- What runs goes on while the supervisor does nothing. -/
theorem reaches_world (s : Supervisor) (moves : List Move) :
    s.Reaches { s with world := s.world.run s.setup moves } := by
  induction moves generalizing s with
  | nil => exact .refl s
  | cons first later ih => exact (reaches_move s (.run first)).trans (ih (s.move (.run first)))

/-- Only a tick moves the clock. -/
theorem clock_move (s : Supervisor) {step : SupervisorMove}
    (hstep : ∀ milliseconds, step ≠ .run (.tick milliseconds)) :
    (s.move step).world.clock = s.world.clock := by
  have hadvance : ∀ target, (s.world.advance s.setup.policy target).1.clock = s.world.clock := by
    intro target
    rw [advance_eq]
    rfl
  unfold Supervisor.move
  cases step with
  | run move =>
    rcases (move_happens s.setup s.world move).clock with hstill | ⟨milliseconds, rfl, -⟩
    · exact hstill
    · exact absurd rfl (hstep milliseconds)
  | openStage binding stage =>
    cases stage with
    | check => rw [world_check]
    | bind => exact clock_of_core (core_bind s binding)
    | commit sockets => rw [world_commit, hadvance]
    | publish sockets => rfl
  | takeSockets => rfl
  | admitRequests => exact (clock_of_core (core_admitRequests s)).trans (hadvance _)
  | startServing sockets site =>
    exact startServing_induction s (P := fun w => w.clock = s.world.clock) sockets site
      (fun _ _ _ hclock => hclock) rfl
  | trigger cause =>
    have hbegun : (s.world.beginDrain s.setup.policy (Cause.orManual cause)).1.clock
        = s.world.clock := by
      rw [beginDrain_eq]
      rfl
    exact hbegun
  | callMarkdown control request =>
    obtain ⟨effect, -, hcore⟩ := turned_receive
      { s.setup with site := ⟨control, true, closedSite.delegate⟩ } s.world true .management request
    rw [← callMarkdown_world] at hcore
    have hclock := congrArg World.clock hcore
    exact hclock

/-- After a move other than a tick no task sleeps past its moment. -/
theorem prompt_move {s : Supervisor} (hprompt : s.world.Prompt) {step : SupervisorMove}
    (hstep : ∀ milliseconds, step ≠ .run (.tick milliseconds)) : (s.move step).world.Prompt := by
  have hleads := move_leads s step
  constructor
  · exact hleads.preserves (fun _ _ _ _ hhappening => hhappening.numbered) hprompt.numbered
  · rw [clock_move s hstep]
    refine (hleads.preserves (P := fun w => s.world.clock + 1 ≤ w.clock + 1
      ∧ w.Punctual (s.world.clock + 1)) ?_ ⟨Nat.le_refl _, hprompt.punctual⟩).2
    intro setup move w after hhappening ⟨hclock, hpunctual⟩
    have hlater := hhappening.clock_le
    exact ⟨by omega, hhappening.punctual hclock hpunctual⟩

/-- The tasks take their turns until a prompt world rests. -/
theorem settle_reaches {s : Supervisor} (hprompt : s.world.Prompt) :
    s.Reaches s.settle ∧ s.settle.world.Prompt ∧ s.settle.world.isResting = true := by
  obtain ⟨moves, -, hsame, hrest⟩ := hprompt.numbered.settle_rests s.setup hprompt.punctual
  have hsettled : s.settle = { s with world := s.world.run s.setup moves } := by
    unfold settle
    rw [hsame]
  rw [hsettled]
  exact ⟨reaches_world s moves,
    ⟨numbered_run hprompt.numbered moves, (isResting_iff.1 hrest).2⟩, hrest⟩

/-- Time passes from rest to rest. -/
theorem elapse_reaches {s : Supervisor} (hprompt : s.world.Prompt)
    (hrest : s.world.isResting = true) {moment : Nat} (hlater : s.world.clock ≤ moment) :
    s.Reaches { s with world := s.world.elapse s.setup moment }
      ∧ (s.world.elapse s.setup moment).Prompt
      ∧ (s.world.elapse s.setup moment).isResting = true := by
  obtain ⟨moves, -, hsame, hend⟩ := hprompt.numbered.elapse_run s.setup hrest hlater
  rw [hsame]
  exact ⟨reaches_world s moves,
    ⟨numbered_run hprompt.numbered moves, (isResting_iff.1 hend).2⟩, hend⟩

/-- What a supervised service comes to by a run, and comes to rest from. -/
structure Leaves (s after : Supervisor) : Prop where
  /-- There is a run. -/
  reaches : s.Reaches after
  /-- Its world can come to rest. -/
  prompt : after.world.Prompt

/-- A move other than a tick skips no moment. -/
theorem Leaves.move {s after : Supervisor} (h : s.Leaves after) (step : SupervisorMove)
    (hstep : ∀ milliseconds, step ≠ .run (.tick milliseconds)) : s.Leaves (after.move step) :=
  ⟨h.reaches.trans (reaches_move after step), prompt_move h.prompt hstep⟩

/-- The turns that are due lead to rest. -/
theorem Leaves.settle {s after : Supervisor} (h : s.Leaves after) :
    s.Leaves after.settle ∧ after.settle.world.isResting = true := by
  obtain ⟨hreaches, hprompt, hrest⟩ := settle_reaches h.prompt
  exact ⟨⟨h.reaches.trans hreaches, hprompt⟩, hrest⟩

/-- From rest, time passes up to rest. -/
theorem Leaves.elapse {s after : Supervisor} (h : s.Leaves after)
    (hrest : after.world.isResting = true) (milliseconds : Nat) :
    s.Leaves (after.elapse milliseconds) ∧ (after.elapse milliseconds).world.isResting = true := by
  obtain ⟨hreaches, hprompt, hend⟩ := elapse_reaches h.prompt hrest (Nat.le_add_right _ milliseconds)
  exact ⟨⟨h.reaches.trans hreaches, hprompt⟩, hend⟩

/-- A supervised service that can come to rest does so between the steps. -/
theorem Leaves.comeToRest {s after : Supervisor} (h : s.Leaves after) :
    s.Leaves after.comeToRest ∧ after.comeToRest.world.isResting = true := by
  obtain ⟨hsettled, hrest⟩ := h.settle
  unfold Supervisor.comeToRest
  dsimp only
  split
  · exact hsettled.elapse hrest _
  · exact ⟨hsettled, hrest⟩

/-- An opening that nobody comes between is a run. -/
theorem Leaves.openFrom {s after : Supervisor} (h : s.Leaves after) (binding : Binding) (stage : Opening) :
    s.Leaves (after.openFrom binding stage).1 := by
  fun_induction Supervisor.openFrom after binding stage with
  | case1 before stage opened result hstage =>
    have hmoved := h.move (.openStage binding stage) fun _ htick => by cases htick
    have hopened : before.move (.openStage binding stage) = opened := congrArg Prod.fst hstage
    rw [hopened] at hmoved
    exact hmoved
  | case2 before stage opened next hstage ih =>
    have hmoved := h.move (.openStage binding stage) fun _ htick => by cases htick
    have hopened : before.move (.openStage binding stage) = opened := congrArg Prod.fst hstage
    rw [hopened] at hmoved
    exact ih hmoved

/-- Listening is a run of its parts. -/
theorem Leaves.listen {s after : Supervisor} (h : s.Leaves after) (delegate : Delegate) :
    s.Leaves (after.listen delegate).1 := by
  unfold Supervisor.listen
  split
  · exact h
  · rename_i taken sockets htaken
    have hmoved := h.move (.takeSockets) fun _ htick => by cases htick
    have htook : after.move .takeSockets = taken := congrArg Prod.fst htaken
    rw [htook] at hmoved
    have hadmitted := hmoved.move (.admitRequests) fun _ htick => by cases htick
    unfold Supervisor.serveSockets
    dsimp only
    split
    · exact hadmitted
    · rename_i control _
      exact hadmitted.move
        (.startServing sockets ⟨control, sockets.management.isSome, delegate⟩)
        fun _ htick => by cases htick

/-- The moment for which a request waits lies ahead of a service at rest. -/
theorem le_answerTime {s : Supervisor} (hrest : s.world.isResting = true) {id : String}
    {moment : Nat} (h : s.answerTime? id = some moment) : s.world.clock ≤ moment := by
  obtain ⟨task, hmem, htime⟩ := List.exists_of_findSome?_eq_some h
  obtain ⟨hsettled, hpunctual⟩ := isResting_iff.1 hrest
  split at htime
  · obtain ⟨timer, hset, rfl⟩ := Option.map_eq_some_iff.1 htime
    have hahead := hpunctual task hmem (hsettled task hmem) timer hset
    omega
  · cases htime

/-- To wait for an answer is to let time pass. -/
theorem Leaves.awaitAnswer {s after : Supervisor} (h : s.Leaves after)
    (hrest : after.world.isResting = true) (id : String) :
    s.Leaves (after.awaitAnswer id).1 := by
  unfold Supervisor.awaitAnswer
  split
  · exact h
  · rename_i moment hmoment
    obtain ⟨hreaches, hprompt, -⟩ := elapse_reaches h.prompt hrest (le_answerTime hrest hmoment)
    exact ⟨h.reaches.trans hreaches, hprompt⟩

/-- A request is sent by starting a task. -/
theorem Leaves.send {s after : Supervisor} (h : s.Leaves after) (id : String) (surface : Surface)
    (request : Request) : s.Leaves (after.send id surface request)
      ∧ (after.send id surface request).world.isResting = true :=
  Leaves.settle (h.move (.run (.act (.request id surface (some request))))
    fun _ htick => by cases htick)

/-- To wait for the end of listening as a step of a script. -/
theorem Leaves.joinStep {s after : Supervisor} (h : s.Leaves after)
    (hrest : after.world.isResting = true) : s.Leaves after.joinStep.1 := by
  have hwaited : s.Leaves (if after.phase.isShuttingDown then
      after.elapse (after.config.drain.window + after.config.drain.grace) else after) := by
    split
    · exact (h.elapse hrest _).1
    · exact h
  unfold Supervisor.joinStep
  dsimp only
  split <;> exact hwaited

end Supervisor

namespace Rehearsal

open Supervisor World

variable {s : Supervisor} {r : Rehearsal}

/-- To wait for an answer as a step of a script. -/
theorem leaves_await (h : s.Leaves r.supervisor) (hrest : r.supervisor.world.isResting = true)
    (id : String) : s.Leaves (r.await id).1.supervisor :=
  h.awaitAnswer hrest id

/-- What a client gets for a request is a step of a script. -/
theorem leaves_yield (h : s.Leaves r.supervisor) (hrest : r.supervisor.world.isResting = true)
    (id : String) (holding : Holding) : s.Leaves (r.yield id holding).1.supervisor := by
  cases holding with
  | sent => exact leaves_await h hrest id
  | queued | answered | missed => exact h

/-- To fetch an answer as a step of a script. -/
theorem leaves_fetch (h : s.Leaves r.supervisor) (hrest : r.supervisor.world.isResting = true)
    (id : String) : s.Leaves (r.fetch id).1.supervisor := by
  unfold fetch
  split
  · exact h
  · exact leaves_yield (r := r.forget id) h hrest id _

/-- A server that takes a request hands it to the routes, or answers it by itself. -/
theorem leaves_serveRequest (h : s.Leaves r.supervisor) (id : String) (surface : Surface)
    (request : Request) : s.Leaves (r.serveRequest id surface request).1.supervisor := by
  unfold serveRequest
  split
  · exact h
  · exact (h.send id surface request).1

/-- Then everything is at rest again. -/
theorem resting_serveRequest (h : s.Leaves r.supervisor) (hrest : r.supervisor.world.isResting = true)
    (id : String) (surface : Surface) (request : Request) :
    (r.serveRequest id surface request).1.supervisor.world.isResting = true := by
  unfold serveRequest
  split
  · exact hrest
  · exact (h.send id surface request).2

/-- To send a request as a step of a script. -/
theorem leaves_sendStep (h : s.Leaves r.supervisor) (hrest : r.supervisor.world.isResting = true)
    (id : String) (held : Bool) (surface : Surface) (request : Option Request) :
    s.Leaves (r.sendStep id held surface request).1.supervisor := by
  unfold sendStep
  split
  · rename_i fault _
    cases fault with
    | noAddress => exact h
    | refused =>
      unfold missStep
      dsimp only
      split <;> exact h
  · exact h
  · dsimp only
    split <;> exact h
  · rename_i request _
    have hserved := leaves_serveRequest h id surface request
    dsimp only
    split
    · exact hserved
    · exact leaves_yield hserved (resting_serveRequest h hrest id surface request) id _

/-- A held request goes on by being sent, if it goes on. -/
theorem leaves_goOnHolding (h : s.Leaves r.supervisor) (entry : String × Holding) :
    s.Leaves (r.goOnHolding entry).supervisor := by
  obtain ⟨id, holding⟩ := entry
  cases holding with
  | queued surface address request =>
    unfold goOnHolding
    dsimp only
    split
    · exact leaves_serveRequest h id surface request
    · exact h
    · exact h
  | sent | answered | missed => exact h

/-- All held requests go on by being sent, if they go on. -/
theorem leaves_goOnAll (h : s.Leaves r.supervisor) : s.Leaves r.goOnAll.supervisor :=
  List.foldlRecOn (motive := fun later => s.Leaves later.supervisor) (b := { r with held := [] })
    r.held.reverse goOnHolding h fun _ hlater entry _ => leaves_goOnHolding hlater entry

/-- To listen as a step of a script. -/
theorem leaves_listenStep (h : s.Leaves r.supervisor) : s.Leaves r.listenStep.1.supervisor := by
  have hlistened := h.listen r.delegate
  unfold listenStep
  split
  · rename_i hresult
    rw [hresult] at hlistened
    exact hlistened
  · rename_i after fault hresult
    rw [hresult] at hlistened
    exact leaves_goOnAll (r := { r with supervisor := after }) hlistened
  · rename_i after hresult
    rw [hresult] at hlistened
    have hgoOn := leaves_goOnAll (r := { r with supervisor := after }) hlistened
    dsimp only
    split <;> exact hgoOn.comeToRest.1

/-- To call the mark-down route as a step of a script. -/
theorem leaves_markdownStep {after : Supervisor} (h : s.Leaves after) (method : Option String)
    (request : Request) : s.Leaves (markdownStep after method request).1 := by
  unfold markdownStep
  split
  · exact h
  · split
    · exact h
    · rename_i control _
      exact h.move (.callMarkdown control request) fun _ htick => by cases htick

/-- Whatever a caller does with a supervised service at rest is a run of it. -/
theorem leaves_act (h : s.Leaves r.supervisor) (hrest : r.supervisor.world.isResting = true)
    (step : SupervisorStep) : s.Leaves (r.act step).1.supervisor := by
  cases step with
  | openSurfaces =>
    have hopened : s.Leaves r.supervisor.openSurfaces.1 := h.openFrom _ .check
    simp only [act]
    split <;> rename_i hresult <;> rw [hresult] at hopened <;> exact hopened
  | listen => exact leaves_listenStep h
  | join =>
    have hjoined := h.joinStep hrest
    simp only [act]
    split
    · split <;> rename_i hresult <;> rw [hresult] at hjoined <;> exact hjoined
    · exact h
  | shutdown cause => exact h.move (.trigger cause) fun _ htick => by cases htick
  | trigger cause => exact h.move (.trigger cause) fun _ htick => by cases htick
  | addresses => exact h
  | config => exact h
  | describe => exact h
  | health checkup =>
    have hmoved := h.move (.run (.act (.health checkup))) fun _ htick => by cases htick
    simp only [Supervisor.move, World.move, World.act] at hmoved
    simp only [act]
    split <;> rename_i hchecked
    · rw [if_pos hchecked] at hmoved
      exact hmoved
    · exact h
  | watchSignals => exact h.move (.run .watchSignals) fun _ htick => by cases htick
  | signal name =>
    exact (h.move (.run (.signal name)) fun _ htick => by cases htick).settle.1
  | request id held surface request => exact leaves_sendStep h hrest id held surface request
  | release id =>
    obtain ⟨hreleased, hrest⟩ :=
      (h.move (.run (.release id)) fun _ htick => by cases htick).settle
    exact leaves_fetch (r := { r with supervisor := r.supervisor.release id }) hreleased hrest id
  | fetch id => exact leaves_fetch h hrest id
  | disconnect id => exact h.move (.run (.act (.cancel id))) fun _ htick => by cases htick
  | markdown method request =>
    cases request with
    | none => exact h
    | some request => exact leaves_markdownStep h method request

/-- A step of a script for a supervised service is a run of it, from rest to rest. -/
theorem leaves_take (h : s.Leaves r.supervisor) (hrest : r.supervisor.world.isResting = true)
    (step : SupervisorStep) : s.Leaves (r.take step).1.supervisor
      ∧ (r.take step).1.supervisor.world.isResting = true :=
  (leaves_act h hrest step).comeToRest

/-- Whatever a script for a supervised service shows is what a run of it comes to, at rest. -/
theorem perform_run (h : s.Leaves r.supervisor) (hrest : r.supervisor.world.isResting = true)
    (steps : List SupervisorStep) :
    ∀ record ∈ r.perform steps, ∃ moves, (s.run moves).world.isResting = true
      ∧ record.phase = (s.run moves).phase
      ∧ record.inFlight = (s.run moves).world.snapshot.inFlight := by
  induction steps generalizing r with
  | nil =>
    intro record hmem
    cases hmem
  | cons step steps ih =>
    intro record hmem
    obtain ⟨htaken, hend⟩ := leaves_take h hrest step
    rcases List.mem_cons.1 hmem with rfl | hlater
    · obtain ⟨moves, hsame⟩ := htaken.reaches
      refine ⟨moves, ?_, ?_, ?_⟩
      · rw [← hsame]
        exact hend
      · rw [← hsame]
        rfl
      · rw [← hsame]
        rfl
    · exact ih (r := (r.take step).1) htaken hend record hlater

/-- Whatever a script shows of a supervised service that has just been created is what a run of it comes
to, at rest. -/
theorem start_perform_run (config : Config) (machine : Machine) (checkup : Option Checkup)
    (delegate : Delegate) (steps : List SupervisorStep) :
    ∀ record ∈ (start (create config machine checkup) delegate).perform steps, ∃ moves,
      ((create config machine checkup).run moves).world.isResting = true
        ∧ record.phase = ((create config machine checkup).run moves).phase
        ∧ record.inFlight = ((create config machine checkup).run moves).world.snapshot.inFlight :=
  perform_run ⟨.refl _, numbered_initial checkup, fun _ hmem => by cases hmem⟩ rfl steps

end Rehearsal

end GracefulService
