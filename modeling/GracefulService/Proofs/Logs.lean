import GracefulService.Proofs.Accounts
import GracefulService.Proofs.Sessions

/-!
# What was logged before

Nobody reads the log. So a session in which something was logged and callers were told something before goes
on like one without: whatever happens next has the same answer, leads to the same state, and adds the same to
the log.
-/

namespace GracefulService

open Http

namespace World

/-- The service with these events before all that it has logged. -/
def preceded (log : List Event) (w : World) : World := { w with log := log ++ w.log }

section Operations

variable (log : List Event) (w : World)

/-- Whatever goes on alike from any past goes on alike from a longer log. -/
theorem preceded_of_resume {α : Type} {f : World → World × α} (ahead : Nat)
    (hf : ∀ (past : Past) (v : World), past.number = id →
      f (v.resume (past.ahead ahead)) = Prod.map (resume past) id (f v)) :
    f (w.preceded log) = Prod.map (preceded log) id (f w) := by
  have hlog : ∀ (past : Past) (v : World),
      v.resume { past with log := log ++ past.log } = (v.resume past).preceded log := by
    intro past v
    simp only [resume, preceded, List.append_assoc]
    rfl
  have hnow := hf (w.ownPast ahead) (w.present w.ids) rfl
  have hlonger := hf { w.ownPast ahead with log := log ++ w.log } (w.present w.ids) rfl
  rw [resume_ownPast] at hnow
  have hstart : (w.present w.ids).resume
      (Past.ahead { w.ownPast ahead with log := log ++ w.log } ahead) = w.preceded log :=
    (hlog ((w.ownPast ahead).ahead ahead) _).trans (congrArg _ (resume_ownPast w ahead))
  rw [hstart] at hlonger
  rw [hlonger, hnow]
  exact Prod.ext (hlog (w.ownPast ahead) _) rfl

/-- Whatever goes on alike from any past, without an answer, goes on alike from a longer log. -/
theorem preceded_of_resume_world {f : World → World} (ahead : Nat)
    (hf : ∀ (past : Past) (v : World), past.number = id →
      f (v.resume (past.ahead ahead)) = (f v).resume past) :
    f (w.preceded log) = (f w).preceded log := by
  have hpair := preceded_of_resume log w (f := fun v => (f v, ())) ahead fun past v hnumber => by
    simp only [hf past v hnumber, Prod.map, id]
  exact congrArg Prod.fst hpair

/-- A step forward comes to the same after a longer log. -/
theorem advance_preceded (policy : WakePolicy) (target : Phase) :
    (w.preceded log).advance policy target = Prod.map (preceded log) id (w.advance policy target) :=
  preceded_of_resume log w (f := fun v => v.advance policy target) 0
    fun past v _ => advance_resume (past.ahead 0) v policy target

/-- The shutdown begins in the same way after a longer log. -/
theorem beginDrain_preceded (policy : WakePolicy) (cause : Cause) :
    (w.preceded log).beginDrain policy cause
      = Prod.map (preceded log) id (w.beginDrain policy cause) :=
  preceded_of_resume log w (f := fun v => v.beginDrain policy cause) 0
    fun past v _ => beginDrain_resume (past.ahead 0) v policy cause

/-- A slot is given back in the same way after a longer log. -/
theorem release_preceded (policy : WakePolicy) :
    (w.preceded log).release policy = (w.release policy).preceded log :=
  preceded_of_resume_world log w (f := fun v => v.release policy) 0
    fun past v _ => release_resume (past.ahead 0) v policy

/-- A request is received in the same way after a longer log. -/
theorem receive_preceded (setup : Setup) (surface : Surface) (request : Request) :
    (w.preceded log).receive setup surface request
      = Prod.map (preceded log) id (w.receive setup surface request) :=
  preceded_of_resume log w (f := fun v => v.receive setup surface request) (drawn surface request)
    fun past v _ => receive_resume setup past v surface request

/-- A task under its own number. -/
theorem map_renumber_id (tasks : List Task) : tasks.map (Task.renumber id) = tasks := List.map_id tasks

/-- A turn is taken in the same way after a longer log. -/
theorem takeTurn_preceded (setup : Setup) (task : Task) (others : List Task) :
    (w.preceded log).takeTurn setup task others = (w.takeTurn setup task others).preceded log :=
  preceded_of_resume_world log w (f := fun v => v.takeTurn setup task others) task.errand.draws
    fun past v hnumber => by
      have htaken := takeTurn_resume setup past v task others
      rw [hnumber, map_renumber_id] at htaken
      exact htaken

/-- A request is preempted in the same way after a longer log. -/
theorem preempt_preceded (setup : Setup) (task : Task) (others : List Task) :
    (w.preceded log).preempt setup task others = (w.preempt setup task others).preceded log := by
  unfold preempt
  split
  · have hsnapshot : (w.preceded log).snapshot = w.snapshot := rfl
    rw [hsnapshot]
    split
    · have hreleased := release_preceded log { w with tasks := others } setup.policy
      exact congrArg (conclude · _) hreleased
    · exact takeTurn_preceded log w setup task others
  · exact takeTurn_preceded log w setup task others

/-- An event is told after those that were logged before. -/
theorem tell_preceded (event : Event) : (w.preceded log).tell event = (w.tell event).preceded log := by
  simp only [tell, preceded, List.append_assoc]

/-- Events are logged after those that were logged before. -/
theorem logged_preceded (events : List Event) :
    (w.preceded log).logged events = (w.logged events).preceded log := by
  simp only [logged, preceded, List.append_assoc]

/-- A caller takes a step in the same way. -/
theorem act_preceded (setup : Setup) {step : Step} (hawake : ∀ milliseconds, step ≠ .sleep milliseconds) :
    (w.preceded log).act setup step = Prod.map (preceded log) id (w.act setup step) := by
  by_cases hmetrics : step = .metrics
  · subst hmetrics
    rfl
  · refine preceded_of_resume log w (f := fun v => v.act setup step) 0 fun past v hnumber => ?_
    have hresult : v.resultAfter setup past step = (v.act setup step).2 := by
      cases step with
      | metrics => exact absurd rfl hmetrics
      | _ => rfl
    have hnext : past.number (v.started + 1) = past.number v.started + 1 := by rw [hnumber]; rfl
    have hacted := act_resume setup past v hnext hawake
    rw [hresult] at hacted
    exact hacted

/-- Whatever move comes, it is the same after a longer log. -/
theorem move_preceded (setup : Setup) (move : Move) :
    (w.preceded log).move setup move = (w.move setup move).preceded log := by
  cases move with
  | act step =>
    cases step with
    | sleep milliseconds => rfl
    | _ => exact congrArg Prod.fst (act_preceded log w setup (by simp))
  | turn serial =>
    have htasks : (w.preceded log).tasks = w.tasks := rfl
    simp only [World.move, htasks]
    split
    · rfl
    · exact takeTurn_preceded log w setup _ _
  | preempt serial =>
    have htasks : (w.preceded log).tasks = w.tasks := rfl
    simp only [World.move, htasks]
    split
    · rfl
    · exact preempt_preceded log w setup _ _
  | tick milliseconds =>
    have hcan : (w.preceded log).canTick milliseconds = w.canTick milliseconds := rfl
    simp only [World.move, hcan]
    split <;> rfl
  | ring timer =>
    have hdue : (w.preceded log).isDue timer = w.isDue timer := rfl
    simp only [World.move, hdue]
    split <;> rfl
  | _ => rfl

end Operations

end World

namespace Supervisor

open World

/-- The service with these events before all that it has logged. -/
def preceded (log : List Event) (s : Supervisor) : Supervisor :=
  { s with world := s.world.preceded log }

section Operations

variable (log : List Event) (s : Supervisor)

/-- A stage of an opening comes to the same. -/
theorem openStage_preceded (binding : Binding) (stage : Opening) :
    (s.preceded log).openStage binding stage = Prod.map (preceded log) id (s.openStage binding stage) := by
  cases stage with
  | check =>
    have hcheck : (s.preceded log).checkOpening = s.checkOpening := rfl
    unfold openStage
    dsimp only
    rw [hcheck]
    cases s.checkOpening <;> rfl
  | bind =>
    have hconfig : (s.preceded log).config = s.config := rfl
    rw [openStage_bind, openStage_bind, hconfig]
    exact Prod.ext (congrArg (fun world => { s with world := world })
      (logged_preceded log s.world (binding.events s.config))) rfl
  | commit sockets =>
    have hsetup : (s.preceded log).setup = s.setup := rfl
    have hworld : (s.preceded log).world = s.world.preceded log := rfl
    have hphase : (s.preceded log).phase = s.phase := rfl
    unfold openStage commitOpening
    dsimp only
    rw [hsetup, hworld, advance_preceded, hphase]
    obtain ⟨world, allowed⟩ := s.world.advance s.setup.policy .opened
    cases allowed with
    | true => rfl
    | false => by_cases hdraining : s.phase = .draining <;> simp only [Prod.map, id, hdraining] <;> rfl
  | publish sockets => rfl

/-- Requests are let in, or are not. -/
theorem admitRequests_preceded : (s.preceded log).admitRequests = s.admitRequests.preceded log := by
  have hsetup : (s.preceded log).setup = s.setup := rfl
  have hworld : (s.preceded log).world = s.world.preceded log := rfl
  unfold admitRequests
  rw [hsetup, hworld, advance_preceded]
  obtain ⟨world, allowed⟩ := s.world.advance s.setup.policy .listening
  cases allowed with
  | true => rfl
  | false => exact congrArg (fun world => { s with world := world }) (tell_preceded log s.world _)

/-- Serving begins in the same way after a longer log. -/
theorem startServing_preceded (sockets : Sockets) (site : Site) :
    (s.preceded log).startServing sockets site = (s.startServing sockets site).preceded log := by
  obtain ⟨primary, management⟩ := sockets
  cases management <;> rfl

/-- What is done apart from the calls comes to the same. -/
theorem move_preceded {move : SupervisorMove} (haside : move.isAside = true) :
    (s.preceded log).move move = (s.move move).preceded log := by
  have hworld : ((s.preceded log).move move).world = (s.move move).world.preceded log := by
    cases move with
    | run move => exact World.move_preceded log s.world s.setup move
    | trigger cause =>
      exact congrArg Prod.fst (beginDrain_preceded log s.world s.setup.policy (Cause.orManual cause))
    | callMarkdown control request =>
      have hbefore : ((s.preceded log).move (.callMarkdown control request)).world = _ :=
        callMarkdown_world (s.preceded log) control request
      have hwithout : (s.move (.callMarkdown control request)).world = _ :=
        callMarkdown_world s control request
      rw [hbefore, hwithout]
      exact congrArg Prod.fst (receive_preceded log s.world _ .management request)
    | _ => cases haside
  rw [move_aside (s := s.preceded log) haside, hworld, move_aside (s := s) haside]
  rfl

end Operations

end Supervisor

namespace Session

/-- The session in which these events were logged and callers were told this before. -/
def preceded (log : List Event) (told : List Reply) (s : Session) : Session :=
  { s with supervisor := s.supervisor.preceded log, told := told ++ s.told }

section Calls

variable (log : List Event) (told : List Reply) (s : Session)

/-- A stage of an opening comes to the same in a session. -/
theorem takeStage_preceded (binding : Binding) (stage : Opening) (before after : List Opening) :
    (s.preceded log told).takeStage binding stage before after
      = (s.takeStage binding stage before after).preceded log told := by
  have hsupervisor : (s.preceded log told).supervisor = s.supervisor.preceded log := rfl
  unfold takeStage
  rw [hsupervisor, Supervisor.openStage_preceded]
  obtain ⟨supervisor, next⟩ := s.supervisor.openStage binding stage
  cases next with
  | goOn next => rfl
  | finish result => simp only [preceded, Prod.map, id, List.append_assoc]

/-- A reply comes after those that were given before. -/
theorem tell_preceded (reply : Reply) :
    { s.preceded log told with told := (s.preceded log told).told ++ [reply] }
      = preceded log told { s with told := s.told ++ [reply] } := by
  simp only [preceded, List.append_assoc]

/-- Whoever has taken surfaces goes on in the same way after a longer log. -/
theorem begin_preceded (beginning : Beginning) (delegate : Delegate) (before after : List Beginning) :
    (s.preceded log told).begin beginning delegate before after
      = (s.begin beginning delegate before after).preceded log told := by
  cases beginning with
  | letIn sockets =>
    have hadmitted := Supervisor.admitRequests_preceded log s.supervisor
    have hsupervisor : (s.preceded log told).supervisor = s.supervisor.preceded log := rfl
    simp only [begin, hsupervisor, hadmitted]
    rfl
  | serve sockets =>
    have hconfig : (s.preceded log told).supervisor.config = s.supervisor.config := rfl
    have hsupervisor : (s.preceded log told).supervisor = s.supervisor.preceded log := rfl
    simp only [begin, hconfig]
    cases RouteTable.build (Supervisor.controlRoutes s.supervisor.config) with
    | error fault => exact tell_preceded log told { s with beginnings := before ++ after } (.broken fault)
    | ok control =>
      simp only [hsupervisor, Supervisor.startServing_preceded]
      simp only [preceded, List.append_assoc]
      rfl

/-- Whatever call comes, its part is taken in the same way. -/
theorem take_preceded (call : Call) : (s.preceded log told).take call = (s.take call).preceded log told := by
  have hsupervisor : (s.preceded log told).supervisor = s.supervisor.preceded log := rfl
  have hopenings : (s.preceded log told).openings = s.openings := rfl
  cases call with
  | openService => exact takeStage_preceded log told s s.supervisor.machine.bind .check s.openings []
  | goOnOpening place binding =>
    simp only [take, hopenings]
    split
    · rfl
    · exact takeStage_preceded log told s binding _ _ _
  | listen =>
    cases hsockets : s.supervisor.sockets with
    | none =>
      have hnone : (s.preceded log told).supervisor.sockets = none := hsockets
      rw [take_listen_none hsockets, take_listen_none hnone]
      exact tell_preceded log told s _
    | some sockets =>
      have hsome : (s.preceded log told).supervisor.sockets = some sockets := hsockets
      rw [take_listen_some hsockets, take_listen_some hsome]
      exact tell_preceded log told { s with
        supervisor := { s.supervisor with sockets := none }
        beginnings := s.beginnings ++ [.letIn sockets] } (.taken sockets)
  | goOnListening place delegate =>
    have hbeginnings : (s.preceded log told).beginnings = s.beginnings := rfl
    simp only [take, hbeginnings]
    split
    · rfl
    · exact begin_preceded log told s _ _ _ _
  | aside move =>
    simp only [take, hsupervisor]
    split
    · rename_i haside
      rw [Supervisor.move_preceded log s.supervisor haside]
      rfl
    · rfl

/-- A session goes on in the same way after a longer log and more replies. -/
theorem run_preceded (calls : List Call) :
    (s.preceded log told).run calls = (s.run calls).preceded log told := by
  induction calls generalizing s with
  | nil => rfl
  | cons call calls ih => rw [run_cons, run_cons, take_preceded, ih]

end Calls

end Session

end GracefulService
