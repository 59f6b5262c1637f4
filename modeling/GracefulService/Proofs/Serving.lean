import GracefulService.Proofs.Closing
import GracefulService.Proofs.Slots
import GracefulService.Proofs.Verdicts
import Mathlib.Data.List.Induction

/-!
# Services that are listened on

Every call in a session is one happening to what runs, apart from the one that starts the servers. Before that
there are no servers and no drain that would close any, and from then on the one drain that was started
tends the surfaces, as long as nobody else begins to listen.
-/

namespace GracefulService

open Http

/-- A move that stands for what a call does by itself: a step forward, a request for the shutdown, or nothing. -/
def Move.isFormal : Move → Bool
  | act (.advance _) | act (.beginDrain _) | watchSignals => true
  | _ => false

/-- The surfaces of a site, in the order in which their servers are closed. -/
def Site.surfaces (site : Site) : List Surface :=
  if site.separate then [.management, .primary] else [.primary]

namespace Supervisor

open World

variable {s after : Supervisor} {stage : Opening} {next : OpeningNext}

/-- A stage of an opening is a step forward to what runs, or nothing. -/
theorem StageDone.core (h : StageDone s stage after next) : after.world.core = s.world.core
    ∨ after.world.core = (s.world.advance s.setup.policy .opened).1.core := by
  cases h with
  | bound hcore hfits => exact Or.inl hcore
  | unbound hcore => exact Or.inl hcore
  | committed hphase => exact Or.inr rfl
  | _ => exact Or.inl rfl

/-- Opening a service does not change what it offers. -/
theorem StageDone.setup (h : StageDone s stage after next) : after.setup = s.setup := by
  cases h <;> rfl

end Supervisor

/-- Where nobody holds a slot outside the gate, somebody comes to hold one only by asking for it. -/
theorem Happening.guards {setup : Setup} {move : Move} {w after : World}
    (hhappening : Happening setup move w after) (hnone : w.guards = []) :
    after.guards = [] ∨ ∃ id, move = .act (.enter id) := by
  rw [← World.core_guards]
  cases hhappening with
  | keep hphase h hmove => exact Or.inr ⟨_, hmove⟩
  | @drop id hheld h =>
    rw [hnone] at hheld
    cases hheld
  | idle h | deed _ h | refuse _ h | start _ h | cancel _ _ _ _ h | interrupt _ _ _ h | vain _ _ h
  | goOn _ _ _ h | finish _ _ _ h | tick _ _ h | ring _ h | release _ h | signal _ h =>
    exact Or.inl ((congrArg World.guards h).trans hnone)

namespace Session

open World

/-- A call other than the one that starts the servers: it is one happening, and nobody begins to listen. -/
structure Proceeds (s : Session) (call : Call) (move : Move) (after : Session) : Prop where
  /-- What happens is what the move comes to. -/
  happens : Happening s.supervisor.setup move s.supervisor.world after.supervisor.world
  /-- The move starts no server. -/
  quiet : move.listens = false
  /-- The move is made aside, or it stands for what the call does by itself. -/
  made : call = .aside (.run move) ∨ move.isFormal = true
  /-- What is offered, and for how long, stays the same. -/
  setup : after.supervisor.setup = s.supervisor.setup
  /-- Nobody begins to listen. -/
  listeners : after.listeners = s.listeners

section Proceeds

variable {s : Session} {call : Call}

/-- A move that no call makes by itself is made aside. -/
theorem Proceeds.aside {move : Move} {after : Session} (h : s.Proceeds call move after)
    (hinformal : move.isFormal = false) : call = .aside (.run move) := by
  refine h.made.resolve_right fun hformal => ?_
  rw [hinformal] at hformal
  cases hformal

/-- No call gives a task its turn by itself. -/
theorem Proceeds.turn_aside {move : Move} {after : Session} (h : s.Proceeds call move after) {serial : Nat}
    (hturn : move.isTurnOf serial = true) : call = .aside (.run move) := by
  refine h.aside ?_
  cases move with
  | turn | preempt => rfl
  | _ => cases hturn

/-- What nobody reads back may change with a call. -/
theorem proceeds_of_core {after : Session}
    (hcore : after.supervisor.world.core = s.supervisor.world.core)
    (hsetup : after.supervisor.setup = s.supervisor.setup) (hlisteners : after.listeners = s.listeners) :
    s.Proceeds call .watchSignals after :=
  ⟨.idle hcore, rfl, Or.inr rfl, hsetup, hlisteners⟩

/-- A step forward, or an attempt at one. -/
theorem proceeds_of_advance {after : Session} (target : Phase)
    (hcore : after.supervisor.world.core
      = (s.supervisor.world.advance s.supervisor.setup.policy target).1.core)
    (hsetup : after.supervisor.setup = s.supervisor.setup) (hlisteners : after.listeners = s.listeners) :
    s.Proceeds call (.act (.advance target)) after := by
  refine ⟨.deed rfl ?_, rfl, Or.inr rfl, hsetup, hlisteners⟩
  rw [hcore, advance_eq, core_carryOut]

/-- A stage of an opening. -/
theorem proceeds_takeStage (binding : Binding) (stage : Opening) (before after : List Opening) :
    ∃ move, s.Proceeds call move (s.takeStage binding stage before after) := by
  have hdone := Supervisor.stageDone s.supervisor binding stage
  have hsupervisor : (s.takeStage binding stage before after).supervisor
      = (s.supervisor.openStage binding stage).1 := by
    unfold takeStage
    split <;> rename_i hstage <;> rw [hstage]
  have hlisteners : (s.takeStage binding stage before after).listeners = s.listeners := by
    unfold takeStage
    split <;> rfl
  rw [← hsupervisor] at hdone
  have hsetup := hdone.setup
  rcases hdone.core with hcore | hcore
  · exact ⟨_, proceeds_of_core hcore hsetup hlisteners⟩
  · exact ⟨_, proceeds_of_advance .opened hcore hsetup hlisteners⟩

/-- What is done apart from the calls is one happening. -/
theorem proceeds_aside (s : Session) {move : SupervisorMove} (haside : move.isAside = true) :
    ∃ step, s.Proceeds (.aside move) step { s with supervisor := s.supervisor.move move } := by
  have hworld := Supervisor.move_aside (s := s.supervisor) haside
  have hsetup : (s.supervisor.move move).setup = s.supervisor.setup := by
    rw [hworld]
    rfl
  cases move with
  | run move =>
    have hquiet : move.listens = false := by
      cases move <;> first | rfl | cases haside
    exact ⟨move, move_happens s.supervisor.setup s.supervisor.world move, hquiet, Or.inl rfl, hsetup, rfl⟩
  | trigger cause =>
    refine ⟨.act (.beginDrain (Cause.orManual cause)), .deed rfl ?_, rfl, Or.inr rfl, hsetup, rfl⟩
    have hcore := core_carryOut s.supervisor.world s.supervisor.setup.policy
      (.beginDrain (Cause.orManual cause))
    rw [← beginDrain_eq] at hcore
    exact hcore
  | callMarkdown control request =>
    rcases Supervisor.core_callMarkdown s.supervisor control request with hcore | hcore
    · exact ⟨_, proceeds_of_core hcore hsetup rfl⟩
    · exact ⟨.act (.beginDrain .markedDown), .deed rfl hcore, rfl, Or.inr rfl, hsetup, rfl⟩
  | _ => cases haside

/-- Every call but the one that starts the servers is one happening. -/
theorem proceeds_or_serves (s : Session) (call : Call) :
    (∃ move, s.Proceeds call move (s.take call)) ∨ ∃ sockets site, site.separate = sockets.management.isSome
      ∧ (s.take call).supervisor = s.supervisor.startServing sockets site
      ∧ (s.take call).listeners
        = s.listeners ++ [(s.supervisor.startServing sockets site).world.started - 1] := by
  cases call with
  | openService => exact Or.inl (proceeds_takeStage s.supervisor.machine.bind .check s.openings [])
  | goOnOpening place binding =>
    simp only [take]
    split
    · exact Or.inl ⟨_, proceeds_of_core rfl rfl rfl⟩
    · exact Or.inl (proceeds_takeStage binding _ _ _)
  | listen =>
    cases hsockets : s.supervisor.sockets with
    | none =>
      rw [take_listen_none hsockets]
      exact Or.inl ⟨_, proceeds_of_core rfl rfl rfl⟩
    | some sockets =>
      rw [take_listen_some hsockets]
      exact Or.inl ⟨_, proceeds_of_core rfl rfl rfl⟩
  | goOnListening place delegate =>
    simp only [take]
    split
    · exact Or.inl ⟨_, proceeds_of_core rfl rfl rfl⟩
    · rename_i beginning hbeginning
      cases beginning with
      | letIn sockets =>
        have hworld := Supervisor.admitRequests_eq s.supervisor
        have hsetup : s.supervisor.admitRequests.setup = s.supervisor.setup := by
          rw [hworld]
          rfl
        exact Or.inl ⟨_, proceeds_of_advance .listening (Supervisor.core_admitRequests s.supervisor) hsetup rfl⟩
      | serve sockets =>
        simp only [begin]
        split
        · exact Or.inl ⟨_, proceeds_of_core rfl rfl rfl⟩
        · exact Or.inr ⟨sockets, _, rfl, rfl, rfl⟩
  | aside move =>
    left
    simp only [take]
    split
    · rename_i haside
      exact proceeds_aside s haside
    · exact ⟨_, proceeds_of_core rfl rfl rfl⟩

end Proceeds

end Session

namespace World

/-- There are no servers, nor a drain that would close any. -/
structure Unserved (w : World) : Prop where
  /-- No task takes listening to be there. -/
  staff : ∀ task ∈ w.tasks, task.errand.isStaff = false
  /-- No server has closed. -/
  closed : ∀ surface, w.closed surface = 0

/-- A service that has just been created has no servers. -/
theorem unserved_initial (checkup : Option Checkup) : (initial checkup).Unserved where
  staff := List.forall_mem_nil _
  closed := fun _ => rfl

section Unserved

variable {setup : Setup} {move : Move} {w after : World}

/-- Where there are no servers, no task serves a surface. -/
theorem Unserved.server? (h : w.Unserved) {task : Task} (hmem : task ∈ w.tasks) :
    task.errand.server? = none := by
  have hstaff := h.staff task hmem
  simp only [Errand.isStaff, Bool.or_eq_false_iff, Option.isSome_eq_false_iff] at hstaff
  exact Option.isNone_iff_eq_none.1 hstaff.1

/-- Where there are no servers, none runs on any surface. -/
theorem Unserved.running (h : w.Unserved) (surface : Surface) : w.running surface = 0 := by
  refine running_eq_zero.2 fun task hmem hserver => ?_
  rw [h.server? hmem] at hserver
  cases hserver

/-- Unless the service begins to be listened on, there come to be no servers. -/
theorem Unserved.step (h : w.Unserved) (hhappening : Happening setup move w after)
    (hquiet : move.listens = false) : after.Unserved where
  staff := by
    intro task hmem
    rw [← Bool.not_eq_true]
    intro hstaff
    obtain ⟨source, hsource, -, -, hserver, hcloses⟩ := hhappening.staff hquiet hmem hstaff
    have hnone := h.staff source hsource
    rw [Errand.isStaff, hserver, hcloses] at hnone
    rw [Errand.isStaff, hnone] at hstaff
    cases hstaff
  closed := by
    intro surface
    have hown : ∀ task ∈ w.tasks, task.errand.server?.isSome = true → task.owner = .service := by
      intro task hmem hserver
      rw [h.server? hmem] at hserver
      cases hserver
    have hfewer := (servers_fewer hhappening hquiet hown surface).2
    have hrunning := h.running surface
    have hclosed := h.closed surface
    omega

end Unserved

end World

open World

/-- The tasks that are there when serving begins: those that were there, a server for each surface, and the
drain that closes them. -/
theorem Supervisor.tasks_startServing (s : Supervisor) (sockets : Sockets) {site : Site}
    (hseparate : site.separate = sockets.management.isSome) :
    ∃ servers : List Task, (s.startServing sockets site).world.tasks
        = s.world.tasks ++ servers ++ [.fresh ((s.startServing sockets site).world.started - 1) .service
          (.awaitShutdown (.close site.surfaces))]
      ∧ (∀ task ∈ servers, task.owner = .service ∧ task.errand.closes = false)
      ∧ ∀ surface, serversOn surface servers = if surface ∈ site.surfaces then 1 else 0 := by
  obtain ⟨primary, management⟩ := sockets
  cases management with
  | none =>
    have hsurfaces : site.surfaces = [.primary] := by simp [Site.surfaces, hseparate]
    refine ⟨[.fresh s.world.started .service (.startServer .primary primary)], ?_, ?_, ?_⟩
    · rw [hsurfaces]
      rfl
    · simp [Task.fresh, Errand.closes]
    · rw [hsurfaces]
      intro surface
      cases surface <;> rfl
  | some management =>
    have hsurfaces : site.surfaces = [.management, .primary] := by simp [Site.surfaces, hseparate]
    refine ⟨[.fresh s.world.started .service (.startServer .management management),
      .fresh (s.world.started + 1) .service (.startServer .primary primary)], ?_, ?_, ?_⟩
    · rw [hsurfaces]
      simp [startServing, surfacesOf, World.start]
    · simp [Task.fresh, Errand.closes]
    · rw [hsurfaces]
      intro surface
      cases surface <;> rfl

/-- Where there were no servers, serving begins in good order. -/
theorem Supervisor.tended_startServing (s : Supervisor) (sockets : Sockets) {site : Site}
    (hseparate : site.separate = sockets.management.isSome) (h : s.world.Unserved) :
    let after := s.startServing sockets site
    after.world.Tended (after.world.started - 1) site.surfaces := by
  intro after
  obtain ⟨servers, htasks, hservers, hcount⟩ := tasks_startServing s sockets hseparate
  have hfinished : after.world.finished = s.world.finished :=
    startServing_induction s (P := fun w => w.finished = s.world.finished) sockets site
      (fun _ _ _ hfinished => hfinished) rfl
  have hclosed : ∀ surface, after.world.closed surface = 0 := by
    intro surface
    rw [World.closed, hfinished]
    exact h.closed surface
  have hrunning : ∀ surface, after.world.running surface = if surface ∈ site.surfaces then 1 else 0 := by
    intro surface
    have hbefore : serversOn surface s.world.tasks = 0 := h.running surface
    have hlast : ∀ serial, serversOn surface [Task.fresh serial .service
        (.awaitShutdown (.close site.surfaces))] = 0 := fun _ => rfl
    rw [World.running, htasks, serversOn_append, serversOn_append, hbefore, hcount, hlast]
    omega
  have hmember : ∀ task ∈ after.world.tasks, task.errand.isStaff = true →
      task ∈ servers ∨ task = .fresh (after.world.started - 1) .service
        (.awaitShutdown (.close site.surfaces)) := by
    intro task hmem hstaff
    rw [htasks, List.append_assoc] at hmem
    rcases List.mem_append.1 hmem with hbefore | hnew
    · rw [h.staff task hbefore] at hstaff
      cases hstaff
    · rcases List.mem_append.1 hnew with hserver | hlast
      · exact Or.inl hserver
      · exact Or.inr (List.mem_singleton.1 hlast)
  constructor
  · intro task hmem hserver
    rcases hmember task hmem (by simp [Errand.isStaff, hserver]) with hserves | rfl
    · exact (hservers task hserves).1
    · rfl
  · intro task hmem hcloses
    rcases hmember task hmem (by simp [Errand.isStaff, hcloses]) with hserves | rfl
    · rw [(hservers task hserves).2] at hcloses
      cases hcloses
    · rfl
  · intro surface hmem
    rw [hrunning, if_neg hmem]
  · intro surface
    rw [hrunning, hclosed]
    split <;> decide
  · intro surface hmem hgone
    rw [hrunning, if_pos hmem] at hgone
    omega
  · refine ⟨[], site.surfaces, rfl, Or.inl ⟨.awaitShutdown (.close site.surfaces), rfl, ?_⟩,
      List.forall_mem_nil _⟩
    refine ⟨.fresh (after.world.started - 1) .service (.awaitShutdown (.close site.surfaces)), ?_, rfl, rfl, rfl⟩
    rw [htasks]
    exact List.mem_append_right _ List.mem_cons_self

/-- What holds of what runs in every session. -/
structure World.Sound (w : World) : Prop where
  /-- No number is given twice. -/
  numbered : w.Numbered
  /-- No task misses anything. -/
  attentive : w.Attentive
  /-- Tasks and ends agree with what is recorded. -/
  agreed : w.Agreed
  /-- Servers close without requests in flight. -/
  vacates : w.Vacates
  /-- Every slot is accounted for. -/
  balanced : Balanced 0 w

/-- Whatever can happen, what runs stays sound. -/
theorem World.Leads.sound {w after : World} (h : w.Leads after) (hsound : w.Sound) : after.Sound :=
  h.preserves (fun _ _ _ _ hhappening hbefore =>
    ⟨hhappening.numbered hbefore.numbered, hhappening.attentive hbefore.attentive,
      hhappening.agreed hbefore.agreed, hbefore.vacates.step hhappening,
      hhappening.balanced hbefore.balanced⟩) hsound

/-- A service that has just been created is sound. -/
theorem World.sound_initial (checkup : Option Checkup) : (initial checkup).Sound where
  numbered := numbered_initial checkup
  attentive := attentive_initial checkup
  agreed := ⟨List.forall_mem_nil _, List.forall_mem_nil _⟩
  vacates := vacates_initial checkup
  balanced := balanced_initial checkup

namespace Session

variable (config : Config) (machine : Machine) (checkup : Option Checkup)

/-- In every session what runs is sound. -/
theorem sound_run (calls : List Call) : ((create config machine checkup).run calls).supervisor.world.Sound :=
  (run_leads _ calls).sound (sound_initial checkup)

/-- Until somebody listens nothing is served, and whoever listens alone tends the surfaces. -/
structure Listened (s : Session) : Prop where
  /-- Until somebody listens nothing is served. -/
  unserved : s.listeners = [] → s.supervisor.world.Unserved
  /-- Whoever listens alone tends the surfaces. -/
  tended : ∀ serial, s.listeners = [serial] →
    s.supervisor.world.Tended serial s.supervisor.setup.site.surfaces

/-- Every call leaves a service that is listened on in order. -/
theorem Listened.take {s : Session} (h : s.Listened) (hagreed : s.supervisor.world.Agreed) (call : Call) :
    (s.take call).Listened := by
  rcases proceeds_or_serves s call with ⟨move, hproceeds⟩ | ⟨sockets, site, hseparate, hserves, hlisteners⟩
  · constructor
    · intro hnobody
      rw [hproceeds.listeners] at hnobody
      exact (h.unserved hnobody).step hproceeds.happens hproceeds.quiet
    · intro serial hsomebody
      rw [hproceeds.listeners] at hsomebody
      rw [hproceeds.setup]
      exact (h.tended serial hsomebody).step hproceeds.happens hproceeds.quiet hagreed
  · constructor
    · intro hnobody
      rw [hlisteners] at hnobody
      exact absurd hnobody (List.append_ne_nil_of_right_ne_nil _ (List.cons_ne_nil _ _))
    · intro serial hsomebody
      rw [hlisteners] at hsomebody
      obtain ⟨hnobody, hserial⟩ := List.append_eq_singleton_iff.1 hsomebody |>.resolve_right (by simp)
      rw [hserves, ← List.singleton_injective hserial]
      exact Supervisor.tended_startServing s.supervisor sockets hseparate (h.unserved hnobody)

end Session

end GracefulService
