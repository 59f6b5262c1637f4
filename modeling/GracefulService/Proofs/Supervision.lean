import GracefulService.Proofs.Bindings
import GracefulService.Proofs.Fates
import Mathlib.Logic.Relation

/-!
# Runs of a supervised service

A supervised service runs like any other, and besides it is opened stage by stage, listened on part by part,
and asked for its shutdown, by whoever holds it and in any order. Whatever a supervisor does, its world
goes on by the same happenings, so what they preserve holds for supervised services too.
-/

namespace GracefulService

open Http

/-- What can happen next to a supervised service. -/
inductive SupervisorMove where
  /-- What runs makes a move. -/
  | run (move : Move)
  /-- Somebody who opens the service takes a stage, where sockets are bound by a binding. -/
  | openStage (binding : Binding) (stage : Opening)
  /-- Somebody who listens takes the bound surfaces. -/
  | takeSockets
  /-- Somebody who listens lets requests in. -/
  | admitRequests
  /-- Somebody who listens starts the servers and the drain that closes them. -/
  | startServing (sockets : Sockets) (site : Site)
  /-- Somebody asks for the shutdown, through the service or a handle on it. -/
  | trigger (cause : Option Cause)
  /-- A request reaches the mark-down route alone. -/
  | callMarkdown (control : RouteTable Control) (request : Request)

namespace World

/-- What happens makes a world into another, under whatever setups. -/
def Leads : World → World → Prop :=
  Relation.ReflTransGen fun w after => ∃ setup move, Happening setup move w after

/-- What survives whatever happens is there where worlds lead. -/
theorem Leads.preserves {P : World → Prop} {w after : World} (h : w.Leads after)
    (hstep : ∀ setup move w after, Happening setup move w after → P w → P after) (hP : P w) :
    P after := by
  induction h with
  | refl => exact hP
  | tail _ hlast ih =>
    obtain ⟨setup, move, hhappening⟩ := hlast
    exact hstep _ _ _ _ hhappening ih

/-- A world goes on to itself. -/
theorem leads_refl (w : World) : w.Leads w := Relation.ReflTransGen.refl

/-- Where worlds lead, they do not go back. -/
theorem Leads.precedes {w after : World} (h : w.Leads after) :
    w.snapshot.Precedes after.snapshot :=
  h.preserves (P := fun later => w.snapshot.Precedes later.snapshot)
    (fun _ _ _ _ hhappening hprecedes => hprecedes.trans hhappening.precedes) (.refl _)

/-- A world goes on by whatever happens. -/
theorem leads_of_happening {setup : Setup} {move : Move} {w after : World}
    (h : Happening setup move w after) : w.Leads after :=
  Relation.ReflTransGen.single ⟨setup, move, h⟩

/-- What nobody reads back may change at any time. -/
theorem leads_of_core (setup : Setup) {w after : World} (h : after.core = w.core) : w.Leads after :=
  leads_of_happening (.idle h : Happening setup .watchSignals w after)

/-- A step forward that is not allowed changes nothing. -/
theorem refused_advance (policy : WakePolicy) (w : World) (target : Phase)
    (h : (w.advance policy target).2 = false) : (w.advance policy target).1 = w := by
  unfold advance at h ⊢
  split
  · rename_i change hchange
    rw [hchange] at h
    cases h
  · rfl

/-- A world goes on by a task that begins. -/
theorem leads_start (setup : Setup) (w : World) (owner : Owner) {errand : Errand}
    (hbegins : errand.begins = true) : w.Leads (w.start owner errand) :=
  leads_of_happening (.start hbegins rfl fun _ => rfl : Happening setup (.listen []) w _)

end World

namespace Supervisor

open World

/-- A move. -/
def move (s : Supervisor) : SupervisorMove → Supervisor
  | .run move => { s with world := s.world.move s.setup move }
  | .openStage binding stage => (s.openStage binding stage).1
  | .takeSockets => s.takeSockets.1
  | .admitRequests => s.admitRequests
  | .startServing sockets site => s.startServing sockets site
  | .trigger cause => (s.trigger cause).1
  | .callMarkdown control request => (s.callMarkdown control request).1

/-- A run: one move after the other. -/
def run (s : Supervisor) (moves : List SupervisorMove) : Supervisor := moves.foldl move s

/-- What a supervisor does in one run after another it does in one. -/
theorem run_append (s : Supervisor) (before after : List SupervisorMove) :
    s.run (before ++ after) = (s.run before).run after :=
  List.foldl_append

variable (s : Supervisor)

/-- A stage of an opening is a move of the supervisor. -/
theorem move_openStage (binding : Binding) (stage : Opening) :
    s.move (.openStage binding stage) = (s.openStage binding stage).1 := rfl

/-- Looking at the phase leaves the world as it is. -/
theorem world_check (binding : Binding) : (s.openStage binding .check).1.world = s.world := by
  unfold openStage
  dsimp only
  split <;> rfl

/-- Binding the surfaces is no more to the world than lines in the log. -/
theorem core_bind (binding : Binding) : (s.openStage binding .bind).1.world.core = s.world.core := by
  rw [openStage_bind]
  exact core_logged s.world (binding.tellsDeed_events s.config)

/-- The phase moves on, where it can. -/
theorem world_commit (binding : Binding) (sockets : Sockets) :
    (s.openStage binding (.commit sockets)).1.world
      = (s.world.advance s.setup.policy .opened).1 := by
  have hstage : (s.openStage binding (.commit sockets)).1 = s.commitOpening.1 := by
    unfold openStage
    dsimp only
    generalize s.commitOpening = committed
    obtain ⟨_, result⟩ := committed
    cases result <;> rfl
  have hrefused : (s.world.advance s.setup.policy .opened).2 = false →
      (s.world.advance s.setup.policy .opened).1 = s.world := refused_advance _ _ _
  rw [hstage]
  unfold commitOpening
  split
  · rename_i h
    rw [h]
  · rename_i h
    rw [h] at hrefused ⊢
    split <;> exact (hrefused rfl).symm

/-- Requests are let in, where they can be. -/
theorem core_admitRequests : s.admitRequests.world.core
    = (s.world.advance s.setup.policy .listening).1.core := by
  have hrefused : (s.world.advance s.setup.policy .listening).2 = false →
      (s.world.advance s.setup.policy .listening).1 = s.world := refused_advance _ _ _
  unfold admitRequests
  split
  · rename_i h
    rw [h]
  · rename_i h
    rw [h] at hrefused ⊢
    have htold : (s.world.tell (.servingSkipped s.phase)).core = s.world.core :=
      core_tell rfl s.world
    exact htold.trans (congrArg core (hrefused rfl).symm)

/-- A step forward, or an attempt at one. -/
theorem leads_advance (setup : Setup) (w : World) (target : Phase) :
    w.Leads (w.advance setup.policy target).1 := by
  have hcore : (w.advance setup.policy target).1.core
      = w.core.carryOut setup.policy (.advance target) := by
    rw [advance_eq, core_carryOut]
  exact leads_of_happening (.deed rfl hcore : Happening setup (.act (.advance target)) w _)

/-- A world goes on by the beginning of the shutdown. -/
theorem leads_beginDrain (setup : Setup) (w : World) (cause : Cause) :
    w.Leads (w.beginDrain setup.policy cause).1 := by
  have hcore : (w.beginDrain setup.policy cause).1.core
      = w.core.carryOut setup.policy (.beginDrain cause) := by
    rw [beginDrain_eq, core_carryOut]
  exact leads_of_happening (.deed rfl hcore : Happening setup (.act (.beginDrain cause)) w _)

/-- Whatever a stage of an opening does, the world goes on by what can happen. -/
theorem leads_openStage (binding : Binding) (stage : Opening) :
    s.world.Leads (s.openStage binding stage).1.world := by
  cases stage with
  | check =>
    rw [world_check]
    exact leads_refl _
  | bind => exact leads_of_core s.setup (core_bind s binding)
  | commit sockets =>
    rw [world_commit]
    exact leads_advance s.setup s.world .opened
  | publish sockets => exact leads_refl _

/-- A world goes on when requests are let in. -/
theorem leads_admitRequests : s.world.Leads s.admitRequests.world :=
  (leads_advance s.setup s.world .listening).trans (leads_of_core s.setup (core_admitRequests s))

/-- The servers and the drain that closes them are started as tasks of the service, one after the other. -/
theorem startServing_induction {P : World → Prop} (sockets : Sockets) (site : Site)
    (hstart : ∀ w errand, errand.begins = true → P w → P (w.start .service errand))
    (hP : P s.world) : P (s.startServing sockets site).world := by
  have hservers : ∀ (surfaces : List (Surface × BoundAddress)) (w : World), P w →
      P (surfaces.foldl (fun world server =>
        world.start .service (.startServer server.1 server.2)) w) := by
    intro surfaces
    induction surfaces with
    | nil => exact fun _ hw => hw
    | cons first others ih => exact fun w hw => ih _ (hstart w _ rfl hw)
  exact hstart _ _ rfl (hservers _ _ hP)

/-- A world goes on when serving begins. -/
theorem leads_startServing (sockets : Sockets) (site : Site) :
    s.world.Leads (s.startServing sockets site).world :=
  startServing_induction s sockets site
    (fun w _ hbegins hleads => hleads.trans (leads_start s.setup w .service hbegins)) (leads_refl _)

/-- The mark-down route alone never leads to the gate. -/
theorem management_ne_gate (site : Site) (request : Request) :
    site.destination .management request ≠ .gate := by
  intro hgate
  unfold Site.destination at hgate
  cases hdispatch : site.control.dispatch request <;>
    simp [hdispatch, Http.Dispatch.destination] at hgate

/-- The mark-down route alone receives a request as a surface for control routes does. -/
theorem callMarkdown_world (control : RouteTable Control) (request : Request) :
    (s.callMarkdown control request).1.world
      = (s.world.receive { s.setup with site := ⟨control, true, closedSite.delegate⟩ } .management
        request).1 := by
  simp only [callMarkdown]
  split <;> rename_i h <;> rw [h]

/-- What is answered where a request is received is the answer of the mark-down route alone. -/
theorem callMarkdown_response {control : RouteTable Control} {request : Request} {answerer : Answerer}
    {response : Response}
    (h : (s.world.receive { s.setup with site := ⟨control, true, closedSite.delegate⟩ } .management request).2
      = .finish (.answered answerer response)) : (s.callMarkdown control request).2 = response := by
  simp only [callMarkdown]
  split <;> rename_i hreceived <;> rw [hreceived] at h
  · cases h
    rfl
  · rename_i hother
    exact (hother _ _ h).elim

/-- The mark-down route alone begins the shutdown, or does nothing to what runs. -/
theorem core_callMarkdown (control : RouteTable Control) (request : Request) :
    (s.callMarkdown control request).1.world.core = s.world.core
      ∨ (s.callMarkdown control request).1.world.core
        = s.world.core.carryOut s.setup.policy (.beginDrain .markedDown) := by
  rw [callMarkdown_world]
  obtain ⟨effect, hturned, hcore⟩ := turned_receive
    { s.setup with site := ⟨control, true, closedSite.delegate⟩ } s.world true .management request
  generalize (s.world.receive _ .management request) = received at hturned hcore ⊢
  obtain ⟨after, next⟩ := received
  cases hturned with
  | answer hother hmarkdown =>
    rw [apply_nothing] at hcore
    exact Or.inl hcore
  | markDown hmarkdown =>
    rw [apply_of] at hcore
    exact Or.inr hcore
  | letIn hrequest hgate hlistening hwaits => exact absurd hgate (management_ne_gate _ _)
  | answerAtOnce hrequest hgate hlistening himmediate => exact absurd hgate (management_ne_gate _ _)
  | refuse hrequest hgate hphase => exact absurd hgate (management_ne_gate _ _)

/-- A world goes on when the mark-down route alone is called. -/
theorem leads_callMarkdown (control : RouteTable Control) (request : Request) :
    s.world.Leads (s.callMarkdown control request).1.world := by
  rcases core_callMarkdown s control request with hcore | hcore
  · exact leads_of_core s.setup hcore
  · exact leads_of_happening
      (.deed rfl hcore : Happening s.setup (.act (.beginDrain .markedDown)) s.world _)

/-- Whatever a supervisor does, its world goes on by what can happen. -/
theorem move_leads (step : SupervisorMove) : s.world.Leads (s.move step).world := by
  cases step with
  | run step => exact leads_of_happening (move_happens s.setup s.world step)
  | openStage binding stage => exact leads_openStage s binding stage
  | takeSockets => exact leads_refl _
  | admitRequests => exact leads_admitRequests s
  | startServing sockets site => exact leads_startServing s sockets site
  | trigger cause => exact leads_beginDrain s.setup s.world (Cause.orManual cause)
  | callMarkdown control request => exact leads_callMarkdown s control request

/-- In every run the world of a supervisor goes on by what can happen. -/
theorem run_leads (moves : List SupervisorMove) : s.world.Leads (s.run moves).world := by
  induction moves generalizing s with
  | nil => exact leads_refl _
  | cons first later ih => exact (move_leads s first).trans (ih (s.move first))

end Supervisor

end GracefulService
