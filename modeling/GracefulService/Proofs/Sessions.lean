import GracefulService.Proofs.Asides
import GracefulService.Proofs.Stages
import GracefulService.Supervisor.Client

/-!
# Sessions

A service is opened and listened on by calls that go on in parts, and between the parts of one call those of
others may come, as well as requests for the shutdown and the turns of tasks. A session is a supervised
service with the calls that are under way on it and what callers have been told so far. Besides the calls,
nothing moves a service forward to open surfaces or to listening, and only a request begins its shutdown.
What comes of binding a socket is up to each stage of an opening, so all patterns of successes and failures
are among the sessions.
-/

namespace GracefulService

open Http

/-- How far somebody is who has taken the bound surfaces and begins to serve them. -/
inductive Beginning where
  /-- Requests have to be let in. -/
  | letIn (sockets : Sockets)
  /-- The servers have to be started. -/
  | serve (sockets : Sockets)
deriving DecidableEq, Repr

/-- The surfaces that a stage of an opening holds. -/
def Opening.sockets? : Opening → Option Sockets
  | commit sockets | publish sockets => some sockets
  | _ => none

/-- The surfaces that somebody has taken. -/
def Beginning.sockets : Beginning → Sockets
  | letIn sockets | serve sockets => sockets

/-- What a caller is told. -/
inductive Reply where
  /-- The service is open. -/
  | opened
  /-- The service could not be opened. -/
  | openingFailed (fault : ServiceFault)
  /-- The bound surfaces belong to the caller, who serves them. -/
  | taken (sockets : Sockets)
  /-- There are no surfaces to serve. -/
  | refused (fault : ServiceFault)
  /-- The surfaces are served. -/
  | serving
  /-- The control routes cannot be built. -/
  | broken (fault : RouteFault)
deriving DecidableEq, Repr

/-- Somebody has taken the bound surfaces. -/
def Reply.isTaken : Reply → Bool
  | taken _ => true
  | _ => false

/-- What a caller is told whose opening is over. -/
def Reply.ofOpening : Except ServiceFault Unit → Reply
  | .ok () => opened
  | .error fault => openingFailed fault

/-- What a caller is told whose attempt to listen is over. -/
def Reply.ofListening : ListenResult → Reply
  | .serving => serving
  | .refused fault => refused fault
  | .broken fault => broken fault

/-- A supervised service with those who call it. -/
structure Session where
  /-- The service. -/
  supervisor : Supervisor
  /-- The openings that are under way, each with its next stage. -/
  openings : List Opening
  /-- How far those are who have taken surfaces and do not serve them yet. -/
  beginnings : List Beginning
  /-- The numbers of the drains with which those who listen wait for the stop. -/
  listeners : List Nat
  /-- What callers have been told. -/
  told : List Reply

/-- What can happen next in a session. -/
inductive Call where
  /-- Somebody opens the service; first the phase is looked at. -/
  | openService
  /-- The opening at a place takes its next stage, where sockets are bound by a binding. -/
  | goOnOpening (place : Nat) (binding : Binding)
  /-- Somebody listens; first the bound surfaces are taken. -/
  | listen
  /-- Whoever has taken surfaces, at a place, goes on to serve them. -/
  | goOnListening (place : Nat) (delegate : Delegate)
  /-- Something else happens: a request for the shutdown, a turn of a task, time passes. -/
  | aside (move : SupervisorMove)

namespace Session

/-- A service that has just been created. -/
def create (config : Config) (machine : Machine) (checkup : Option Checkup) : Session :=
  ⟨Supervisor.create config machine checkup, [], [], [], []⟩

/-- The surfaces that callers hold who open the service, or who are about to serve it. -/
def held (s : Session) : List Sockets :=
  s.openings.filterMap Opening.sockets? ++ s.beginnings.map Beginning.sockets

/-- The sockets that are bound and not yet served: those that openings hold, those that are stored, and those
that somebody has taken. -/
def bound (s : Session) : List Sockets :=
  s.openings.filterMap Opening.sockets? ++ s.supervisor.sockets.toList ++ s.beginnings.map Beginning.sockets

/-- A client opens a connection to an address of a surface. -/
def contact (s : Session) (surface : Surface) (address : BoundAddress) : Except ReachFault Contact :=
  s.supervisor.contact s.held surface address

/-- A client tries to reach a surface where it is published to be. -/
def reach (s : Session) (surface : Surface) : Except ReachFault Contact :=
  s.supervisor.reach s.held surface

/-- The shutdown has begun. -/
def isShuttingDown (s : Session) : Bool := s.supervisor.phase.isShuttingDown

/-- An opening between others takes a stage. -/
def takeStage (s : Session) (binding : Binding) (stage : Opening) (before after : List Opening) : Session :=
  match s.supervisor.openStage binding stage with
  | (supervisor, .goOn next) =>
    { s with supervisor := supervisor, openings := before ++ next :: after }
  | (supervisor, .finish result) =>
    { s with
      supervisor := supervisor
      openings := before ++ after
      told := s.told ++ [.ofOpening result] }

/-- Whoever has taken surfaces, between others, goes on to serve them. -/
def begin (s : Session) (beginning : Beginning) (delegate : Delegate)
    (before after : List Beginning) : Session :=
  match beginning with
  | .letIn sockets =>
    { s with
      supervisor := s.supervisor.admitRequests
      beginnings := before ++ .serve sockets :: after }
  | .serve sockets =>
    match RouteTable.build (Supervisor.controlRoutes s.supervisor.config) with
    | .error fault => { s with beginnings := before ++ after, told := s.told ++ [.broken fault] }
    | .ok control =>
      let supervisor := s.supervisor.startServing sockets
        ⟨control, sockets.management.isSome, delegate⟩
      -- the drain is the last task that is started
      { s with
        supervisor := supervisor
        beginnings := before ++ after
        listeners := s.listeners ++ [supervisor.world.started - 1]
        told := s.told ++ [.serving] }

/-- A call takes its next part. -/
def take (s : Session) : Call → Session
  | .openService => s.takeStage s.supervisor.machine.bind .check s.openings []
  | .goOnOpening place binding =>
    match s.openings[place]? with
    | none => s
    | some stage =>
      s.takeStage binding stage (s.openings.take place) (s.openings.drop (place + 1))
  | .listen =>
    match s.supervisor.takeSockets with
    | (_, none) =>
      { s with told := s.told ++ [.refused (Supervisor.whyNoSockets s.supervisor.phase)] }
    | (supervisor, some sockets) =>
      { s with
        supervisor := supervisor
        beginnings := s.beginnings ++ [.letIn sockets]
        told := s.told ++ [.taken sockets] }
  | .goOnListening place delegate =>
    match s.beginnings[place]? with
    | none => s
    | some beginning =>
      s.begin beginning delegate (s.beginnings.take place) (s.beginnings.drop (place + 1))
  | .aside move => if move.isAside then { s with supervisor := s.supervisor.move move } else s

/-- A session goes on, call by call. -/
def run (s : Session) (calls : List Call) : Session := calls.foldl take s

/-- A call would be answered with a reply. -/
def Hears (s : Session) (call : Call) (reply : Reply) : Prop :=
  (s.take call).told = s.told ++ [reply]

end Session

namespace Session

open World

/-- Where no surfaces wait to be served, whoever listens is told why. -/
theorem take_listen_none {s : Session} (h : s.supervisor.sockets = none) : s.take .listen
    = { s with told := s.told ++ [.refused (Supervisor.whyNoSockets s.supervisor.phase)] } := by
  simp only [take, Supervisor.takeSockets, h]

/-- Where surfaces wait to be served, whoever listens takes them. -/
theorem take_listen_some {s : Session} {sockets : Sockets}
    (h : s.supervisor.sockets = some sockets) : s.take .listen
    = { s with
        supervisor := { s.supervisor with sockets := none }
        beginnings := s.beginnings ++ [.letIn sockets]
        told := s.told ++ [.taken sockets] } := by
  simp only [take, Supervisor.takeSockets, h]

/-- Whoever listens takes the surfaces that wait to be served. -/
theorem hears_taken_iff {s : Session} {sockets : Sockets} :
    s.Hears .listen (.taken sockets) ↔ s.supervisor.sockets = some sockets := by
  unfold Hears
  cases hsockets : s.supervisor.sockets with
  | none => simp [take_listen_none hsockets]
  | some waiting => simp [take_listen_some hsockets]

/-- Whoever listens is refused where no surfaces wait, and told why. -/
theorem hears_refused_iff {s : Session} {fault : ServiceFault} :
    s.Hears .listen (.refused fault)
      ↔ s.supervisor.sockets = none ∧ Supervisor.whyNoSockets s.supervisor.phase = fault := by
  unfold Hears
  cases hsockets : s.supervisor.sockets with
  | none => simp [take_listen_none hsockets]
  | some waiting => simp [take_listen_some hsockets]

/-- Once the shutdown has begun, a service can no longer be opened. -/
theorem take_openService_of_shutting {s : Session} (h : s.isShuttingDown = true) :
    s.take .openService = { s with told := s.told ++ [.openingFailed .stopped] } := by
  have hdone := Supervisor.stageDone s.supervisor s.supervisor.machine.bind .check
  simp only [take, takeStage]
  generalize s.supervisor.openStage s.supervisor.machine.bind .check = done at hdone ⊢
  obtain ⟨after, result⟩ := done
  simp only at hdone
  cases hdone with
  | checked hphase =>
    rw [isShuttingDown, hphase] at h
    cases h
  | notOpenable hfault =>
    rw [hfault h]
    simp only [List.append_nil, Reply.ofOpening]

/-- An opening stands between others, or it has just begun and stands after all of them. -/
def HasOpening (s : Session) (stage : Opening) (before after : List Opening) : Prop :=
  s.openings = before ++ stage :: after ∨ (stage = .check ∧ before = s.openings ∧ after = [])

/-- What a call can make of a session. -/
inductive Takes (s : Session) : Session → Prop where
  | rests : Takes s s
  | goesOn {stage next : Opening} {supervisor : Supervisor} {before after : List Opening}
      (hopening : s.HasOpening stage before after)
      (hdone : Supervisor.StageDone s.supervisor stage supervisor (.goOn next)) :
      Takes s { s with supervisor := supervisor, openings := before ++ next :: after }
  | ends {stage : Opening} {result : Except ServiceFault Unit} {supervisor : Supervisor}
      {before after : List Opening} (hopening : s.HasOpening stage before after)
      (hdone : Supervisor.StageDone s.supervisor stage supervisor (.finish result)) :
      Takes s { s with
        supervisor := supervisor
        openings := before ++ after
        told := s.told ++ [.ofOpening result] }
  | refused {fault : ServiceFault} : Takes s { s with told := s.told ++ [.refused fault] }
  | taken {sockets : Sockets} (hsockets : s.supervisor.sockets = some sockets) :
      Takes s { s with
        supervisor := { s.supervisor with sockets := none }
        beginnings := s.beginnings ++ [.letIn sockets]
        told := s.told ++ [.taken sockets] }
  | letIn {beginnings : List Beginning} :
      Takes s { s with supervisor := s.supervisor.admitRequests, beginnings := beginnings }
  | broken {fault : Http.RouteFault} {beginnings : List Beginning}
      (hbuild : RouteTable.build (Supervisor.controlRoutes s.supervisor.config) = .error fault) :
      Takes s { s with beginnings := beginnings, told := s.told ++ [.broken fault] }
  | served {sockets : Sockets} {site : Site} {beginnings : List Beginning}
      (hbuild : RouteTable.build (Supervisor.controlRoutes s.supervisor.config) = .ok site.control)
      (hseparate : site.separate = sockets.management.isSome) :
      Takes s { s with
        supervisor := s.supervisor.startServing sockets site
        beginnings := beginnings
        listeners := s.listeners ++ [(s.supervisor.startServing sockets site).world.started - 1]
        told := s.told ++ [.serving] }
  | aside {move : SupervisorMove} (haside : move.isAside = true) :
      Takes s { s with supervisor := s.supervisor.move move }

/-- Whatever a stage comes to, the opening goes on or is over. -/
theorem takes_takeStage {s : Session} {stage : Opening} {before after : List Opening}
    (hopening : s.HasOpening stage before after) (binding : Binding) :
    s.Takes (s.takeStage binding stage before after) := by
  have hdone := Supervisor.stageDone s.supervisor binding stage
  unfold takeStage
  split <;> rename_i hstage <;> rw [hstage] at hdone
  · exact .goesOn hopening hdone
  · exact .ends hopening hdone

/-- Every call makes one of the things listed of a session. -/
theorem takes_take (s : Session) (call : Call) : s.Takes (s.take call) := by
  cases call with
  | openService => exact takes_takeStage (Or.inr ⟨rfl, rfl, rfl⟩) _
  | goOnOpening place binding =>
    simp only [take]
    split
    · exact .rests
    · rename_i stage hstage
      obtain ⟨hplace, rfl⟩ := List.getElem?_eq_some_iff.1 hstage
      refine takes_takeStage (Or.inl ?_) binding
      rw [List.getElem_cons_drop, List.take_append_drop]
  | listen =>
    cases hsockets : s.supervisor.sockets with
    | none =>
      rw [take_listen_none hsockets]
      exact .refused
    | some sockets =>
      rw [take_listen_some hsockets]
      exact .taken hsockets
  | goOnListening place delegate =>
    simp only [take]
    split
    · exact .rests
    · rename_i beginning hbeginning
      cases beginning with
      | letIn sockets => exact .letIn
      | serve sockets =>
        simp only [begin]
        split
        · rename_i hbuild
          exact .broken hbuild
        · rename_i hbuild
          exact .served hbuild rfl
  | aside move =>
    simp only [take]
    split
    · rename_i haside
      exact .aside haside
    · exact .rests

/-- No call changes what the service was told before it started. -/
theorem Takes.config {s after : Session} (h : s.Takes after) :
    after.supervisor.config = s.supervisor.config := by
  cases h with
  | goesOn hopening hdone => cases hdone <;> rfl
  | ends hopening hdone => cases hdone <;> rfl
  | letIn =>
    have hworld := Supervisor.admitRequests_eq s.supervisor
    simp only
    rw [hworld]
  | aside haside =>
    have hworld := Supervisor.move_aside (s := s.supervisor) haside
    simp only
    rw [hworld]
  | _ => rfl

/-- Whatever a call does, the world of the service goes on by what can happen. -/
theorem Takes.leads {s after : Session} (h : s.Takes after) :
    s.supervisor.world.Leads after.supervisor.world := by
  cases h with
  | goesOn hopening hdone => exact hdone.leads
  | ends hopening hdone => exact hdone.leads
  | letIn => exact Supervisor.leads_admitRequests s.supervisor
  | served => exact Supervisor.leads_startServing s.supervisor _ _
  | aside haside => exact Supervisor.move_leads s.supervisor _
  | _ => exact leads_refl _

/-- Whatever calls come, the world of the service goes on by what can happen. -/
theorem run_leads (s : Session) (calls : List Call) :
    s.supervisor.world.Leads (s.run calls).supervisor.world := by
  induction calls generalizing s with
  | nil => exact leads_refl _
  | cons call later ih => exact (takes_take s call).leads.trans (ih (s.take call))

/-- Nobody changes what a service was told before it started. -/
theorem run_config (s : Session) (calls : List Call) :
    (s.run calls).supervisor.config = s.supervisor.config := by
  induction calls generalizing s with
  | nil => rfl
  | cons call later ih => exact (ih (s.take call)).trans (takes_take s call).config

/-! Calls that nobody comes between are those of the supervisor. -/

/-- A session goes on with its first call. -/
theorem run_cons (s : Session) (call : Call) (later : List Call) :
    s.run (call :: later) = (s.take call).run later := rfl

/-- Calls after calls are one session. -/
theorem run_append (s : Session) (before later : List Call) :
    s.run (before ++ later) = (s.run before).run later :=
  List.foldl_append

/-- The calls of somebody who opens a service, on which so many openings are under way, with nobody coming
between. -/
def attempt (place : Nat) (binding : Binding) : List Call :=
  .openService :: List.replicate 3 (.goOnOpening place binding)

/-- Where no opening has a place, none goes on. -/
theorem run_goOnOpening_none {s : Session} {place : Nat} (h : s.openings.length ≤ place) (binding : Binding)
    (times : Nat) : s.run (List.replicate times (.goOnOpening place binding)) = s := by
  induction times with
  | zero => rfl
  | succ times ih =>
    rw [List.replicate_succ, run_cons]
    simp only [take, List.getElem?_eq_none h]
    exact ih

/-- The opening that began last goes on. -/
theorem take_last {s : Session} {others : List Opening} {stage : Opening}
    (h : s.openings = others ++ [stage]) (binding : Binding) :
    s.take (.goOnOpening others.length binding) = s.takeStage binding stage others [] := by
  have hlast : s.openings[others.length]? = some stage := by
    rw [h, List.getElem?_append_right (Nat.le_refl _), Nat.sub_self, List.getElem?_cons_zero]
  have hbefore : s.openings.take others.length = others := by rw [h, List.take_left]
  have hafter : s.openings.drop (others.length + 1) = [] := by rw [h]; simp
  simp only [take, hlast, hbefore, hafter]

/-- An opening that nobody comes between goes on to its end. -/
theorem run_openFrom (s : Session) (binding : Binding) (stage : Opening) (others : List Opening) (times : Nat)
    (htimes : Supervisor.stagesOf stage ≤ times + 1) :
    (s.takeStage binding stage others []).run (List.replicate times (.goOnOpening others.length binding))
      = { s with
          supervisor := (s.supervisor.openFrom binding stage).1
          openings := others
          told := s.told ++ [.ofOpening (s.supervisor.openFrom binding stage).2] } := by
  -- Once it is over the other calls find no opening in its place.
  have hover : ∀ (supervisor : Supervisor) (told : List Reply) (times : Nat),
      run { s with supervisor := supervisor, openings := others ++ [], told := told }
          (List.replicate times (.goOnOpening others.length binding))
        = { s with supervisor := supervisor, openings := others, told := told } := by
    intro supervisor told times
    rw [List.append_nil]
    exact run_goOnOpening_none (Nat.le_refl _) binding times
  induction times generalizing s stage with
  | zero =>
    cases stage with
    | publish sockets =>
      rw [Supervisor.openFrom]
      exact hover _ _ 0
    | _ => simp [Supervisor.stagesOf] at htimes
  | succ times ih =>
    unfold takeStage
    split
    · rename_i after next hstage
      have hleft : Supervisor.stagesOf next ≤ times + 1 := by
        have hshorter := Supervisor.openStage_shorter hstage
        omega
      rw [Supervisor.openFrom_of_goOn hstage, List.replicate_succ, run_cons, take_last rfl]
      exact ih { s with supervisor := after, openings := others ++ [next] } next hleft hover
    · rename_i after result hstage
      rw [Supervisor.openFrom_of_finish hstage]
      exact hover _ _ _

/-- Whoever opens a service while others do, and is not come between, does what its supervisor does at once. -/
theorem run_attempt (s : Session) (binding : Binding) : s.run (attempt s.openings.length binding)
    = { s with
        supervisor := (s.supervisor.openFrom binding .check).1
        told := s.told ++ [.ofOpening (s.supervisor.openFrom binding .check).2] } :=
  run_openFrom s binding .check s.openings 3 (Nat.le_refl _)

/-- Listening while nobody else begins to is what the supervisor of a service does at once. -/
theorem run_listen {s : Session} (h : s.beginnings = []) (delegate : Delegate) :
    let after := s.run [.listen, .goOnListening 0 delegate, .goOnListening 0 delegate]
    after.supervisor = (s.supervisor.listen delegate).1
      ∧ after.told.getLast? = some (.ofListening (s.supervisor.listen delegate).2) := by
  simp only [run_cons]
  cases hsockets : s.supervisor.sockets with
  | none =>
    have hlistened : s.supervisor.listen delegate
        = (s.supervisor, .refused (Supervisor.whyNoSockets s.supervisor.phase)) := by
      simp only [Supervisor.listen, Supervisor.takeSockets, hsockets]
    rw [take_listen_none hsockets, hlistened]
    simp [take, h, run, Reply.ofListening]
  | some sockets =>
    have hlistened : s.supervisor.listen delegate
        = Supervisor.serveSockets { s.supervisor with sockets := none } delegate sockets := by
      simp only [Supervisor.listen, Supervisor.takeSockets, hsockets]
    rw [take_listen_some hsockets, hlistened, h]
    simp only [take, List.nil_append, List.getElem?_cons_zero, List.take_zero,
      List.drop_succ_cons, List.drop_nil, begin, Supervisor.serveSockets]
    generalize Supervisor.admitRequests { s.supervisor with sockets := none } = admitting
    cases hbuild : RouteTable.build (Supervisor.controlRoutes admitting.config) <;>
      simp [run, Reply.ofListening]

end Session

end GracefulService
