import GracefulService.Supervisor.Basic

/-!
# Opening

A service is opened in stages, between which others may act on it: its phase is looked at, its surfaces
are bound, its phase moves on, and its addresses are published together with the bound surfaces. What comes
of binding a socket is not up to the service, so every stage is told how sockets are bound at the time. When
a stage fails nothing stays bound. A shutdown that begins between the first stage and the third one does
not make opening fail: the bound surfaces are kept, so that the service can still be listened on and
stop in order.
-/

namespace GracefulService

/-- How far the opening of a service is. -/
inductive Opening where
  /-- The phase has to be looked at. -/
  | check
  /-- The surfaces have to be bound. -/
  | bind
  /-- The phase has to move on. -/
  | commit (sockets : Sockets)
  /-- Addresses and surfaces have to be published. -/
  | publish (sockets : Sockets)
deriving DecidableEq, Repr, Inhabited

/-- What becomes of an opening. -/
inductive OpeningNext where
  /-- It goes on with its next stage. -/
  | goOn (stage : Opening)
  /-- It is over. -/
  | finish (result : Except ServiceFault Unit)

namespace Supervisor

/-- A service can be opened only while it has just been created. -/
def openable (phase : Phase) : Except ServiceFault Unit :=
  match phase with
  | .created => .ok ()
  | .draining => .error .stopped
  | .stopped => .error .stopped
  | .opened => .error (.alreadyOpened .opened)
  | .listening => .error (.alreadyOpened .listening)

/-- The service is as it should be: its phase allows opening and its configuration is sound. -/
def checkOpening (s : Supervisor) : Except ServiceFault Unit := do
  openable s.phase
  if s.config.issues.isEmpty then return () else throw (.unsound s.config.issues)

/-- Binds one surface beside those that are held. -/
def bindSurface (s : Supervisor) (binding : Binding) (held : List BoundAddress) (surface : Surface)
    (listener : Listener) : Supervisor × Except ServiceFault BoundAddress :=
  match binding held listener with
  | .ok address =>
    let event := Event.listenerBound surface.name listener.bindAddress address.display
    ({ s with world := s.world.tell event }, .ok address)
  | .error fault => (s, .error (.bind surface listener.bindAddress fault))

/-- Binds the surfaces: all of them or, when one fails, none. -/
def bindSurfaces (s : Supervisor) (binding : Binding) : Supervisor × Except ServiceFault Sockets :=
  match s.bindSurface binding [] .primary s.config.listener with
  | (s, .error fault) => (s, .error fault)
  | (s, .ok primary) =>
    match s.config.management with
    | none => (s, .ok ⟨primary, none⟩)
    | some listener =>
      match s.bindSurface binding [primary] .management listener with
      | (s, .error fault) => (s, .error fault)
      | (s, .ok management) => (s, .ok ⟨primary, some management⟩)

/-- The phase moves on. Where it cannot, only a shutdown that has begun meanwhile is put up with. -/
def commitOpening (s : Supervisor) : Supervisor × Except ServiceFault Unit :=
  match s.world.advance s.setup.policy .opened with
  | (world, true) => ({ s with world := world }, .ok ())
  | (_, false) =>
    if s.phase = .draining then (s, .ok ()) else (s, .error (.alreadyOpened s.phase))

/-- One stage of an opening, where sockets are bound by `binding`. -/
def openStage (s : Supervisor) (binding : Binding) : Opening → Supervisor × OpeningNext
  | .check =>
    match s.checkOpening with
    | .ok () => (s, .goOn .bind)
    | .error fault => (s, .finish (.error fault))
  | .bind =>
    match s.bindSurfaces binding with
    | (s, .ok sockets) => (s, .goOn (.commit sockets))
    | (s, .error fault) => (s, .finish (.error fault))
  | .commit sockets =>
    match s.commitOpening with
    | (s, .ok ()) => (s, .goOn (.publish sockets))
    | (s, .error fault) => (s, .finish (.error fault))
  | .publish sockets =>
    ({ s with
      primaryAddress := some sockets.primary
      managementAddress := sockets.management
      sockets := some sockets }, .finish (.ok ()))

/-- How many stages an opening has left. -/
def stagesOf : Opening → Nat
  | .check => 4
  | .bind => 3
  | .commit _ => 2
  | .publish _ => 1

/-- Every stage brings an opening closer to its end. -/
theorem openStage_shorter {s after : Supervisor} {binding : Binding} {stage next : Opening}
    (h : s.openStage binding stage = (after, .goOn next)) : stagesOf next < stagesOf stage := by
  have same : (s.openStage binding stage).2 = .goOn next := by rw [h]
  clear h
  revert same
  cases stage with
  | check =>
    unfold openStage
    generalize s.checkOpening = result
    cases result <;> intro same <;> cases same
    simp [stagesOf]
  | bind =>
    unfold openStage
    generalize s.bindSurfaces binding = result
    obtain ⟨_, result⟩ := result
    cases result <;> intro same <;> cases same
    simp [stagesOf]
  | commit sockets =>
    unfold openStage
    generalize s.commitOpening = result
    obtain ⟨_, result⟩ := result
    cases result <;> intro same <;> cases same
    simp [stagesOf]
  | publish sockets => intro same; cases same

/-- The stages of an opening that nobody comes between. -/
def openFrom (s : Supervisor) (binding : Binding) (stage : Opening) :
    Supervisor × Except ServiceFault Unit :=
  match _h : s.openStage binding stage with
  | (after, .finish result) => (after, result)
  | (after, .goOn next) => openFrom after binding next
termination_by stagesOf stage
decreasing_by exact openStage_shorter _h

/-- Opens the service on its machine, with nobody coming between the stages. -/
def openSurfaces (s : Supervisor) : Supervisor × Except ServiceFault Unit :=
  s.openFrom s.machine.bind .check

end Supervisor

end GracefulService
