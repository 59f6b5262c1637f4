import GracefulService.Proofs.Turns
import GracefulService.Supervisor.Opening

/-!
# What decides an opening

Whether an opening succeeds is decided by the phase, by the configuration, and by what comes of binding a
socket at the time, and by nothing else that a service holds. A binding says what comes of it: the machines
of this library are bindings, and so is every other pattern of successes and failures. To what runs, binding
the surfaces is no more than lines in the log.
-/

namespace GracefulService

namespace Binding

variable (binding : Binding) (config : Config)

/-- What comes of binding one surface beside those that are held. -/
def attempt (held : List BoundAddress) (surface : Surface) (listener : Listener) :
    Except ServiceFault BoundAddress :=
  match binding held listener with
  | .error fault => .error (.bind surface listener.bindAddress fault)
  | .ok address => .ok address

/-- The sockets that are bound for a configuration, or why there are none. -/
def sockets : Except ServiceFault Sockets :=
  match binding [] config.listener with
  | .error fault => .error (.bind .primary config.listener.bindAddress fault)
  | .ok primary =>
    match config.management with
    | none => .ok ⟨primary, none⟩
    | some listener =>
      match binding [primary] listener with
      | .error fault => .error (.bind .management listener.bindAddress fault)
      | .ok management => .ok ⟨primary, some management⟩

/-- What is logged about one socket. -/
def eventsFor (held : List BoundAddress) (surface : Surface) (listener : Listener) : List Event :=
  match binding held listener with
  | .error _ => []
  | .ok address => [.listenerBound surface.name listener.bindAddress address.display]

/-- What is logged while the sockets are bound. That the first one was bound is in the log even where the
second one cannot be. -/
def events : List Event :=
  binding.eventsFor [] .primary config.listener
    ++ match binding [] config.listener, config.management with
      | .ok primary, some listener => binding.eventsFor [primary] .management listener
      | _, _ => []

/-- A management surface is bound exactly where one is configured. -/
theorem fits_of_sockets {sockets : Sockets} (h : binding.sockets config = .ok sockets) :
    sockets.management.isSome = config.management.isSome := by
  unfold Binding.sockets at h
  cases hprimary : binding [] config.listener with
  | error fault =>
    rw [hprimary] at h
    cases h
  | ok primary =>
    cases hmanagement : config.management with
    | none =>
      rw [hprimary, hmanagement] at h
      cases h
      rfl
    | some listener =>
      rw [hprimary, hmanagement] at h
      cases hsecond : binding [primary] listener <;> simp only [hsecond] at h <;> cases h
      rfl

/-- What is logged about a socket tells of nothing that a service does. -/
theorem tellsDeed_eventsFor (held : List BoundAddress) (surface : Surface) (listener : Listener) :
    ∀ event ∈ binding.eventsFor held surface listener, event.tellsDeed = false := by
  unfold eventsFor
  split
  · simp
  · exact List.forall_mem_singleton.2 rfl

/-- What is logged while the sockets are bound tells of nothing that a service does. -/
theorem tellsDeed_events : ∀ event ∈ binding.events config, event.tellsDeed = false := by
  unfold events
  refine List.forall_mem_append.2 ⟨binding.tellsDeed_eventsFor _ _ _, ?_⟩
  split
  · exact binding.tellsDeed_eventsFor _ _ _
  · simp

end Binding

namespace World

/-- The service has logged some more. -/
def logged (w : World) (events : List Event) : World := { w with log := w.log ++ events }

/-- Lines in the log that tell of no deed leave the core as it is. -/
theorem core_logged (w : World) {events : List Event}
    (h : ∀ event ∈ events, event.tellsDeed = false) : (w.logged events).core = w.core := by
  have hnone : events.filter Event.tellsDeed = [] :=
    List.filter_eq_nil_iff.2 fun event hmem => by simp only [h event hmem, Bool.false_eq_true, not_false_iff]
  simp only [core, logged, deeds, List.filter_append, hnone, List.append_nil]

end World

namespace Supervisor

open World

variable (s : Supervisor) (binding : Binding)

/-- The service has logged some more. -/
def logged (events : List Event) : Supervisor := { s with world := s.world.logged events }

/-- What becomes of an opening after its surfaces were bound, or could not be. -/
def afterBinding : Except ServiceFault Sockets → OpeningNext
  | .ok sockets => .goOn (.commit sockets)
  | .error fault => .finish (.error fault)

/-- A surface is bound by the binding, and that is logged. -/
theorem bindSurface_eq (held : List BoundAddress) (surface : Surface) (listener : Listener) :
    s.bindSurface binding held surface listener
      = (s.logged (binding.eventsFor held surface listener),
        binding.attempt held surface listener) := by
  unfold bindSurface Binding.eventsFor Binding.attempt
  cases binding held listener with
  | ok address => rfl
  | error fault => simp only [logged, World.logged, List.append_nil]

/-- The surfaces are bound by the binding, and that is logged. -/
theorem bindSurfaces_eq : s.bindSurfaces binding
    = (s.logged (binding.events s.config), binding.sockets s.config) := by
  have hconfig : ∀ events, (s.logged events).config = s.config := fun _ => rfl
  have hlogged : ∀ first second, (s.logged first).logged second = s.logged (first ++ second) := by
    intro first second
    simp only [logged, World.logged, List.append_assoc]
  unfold bindSurfaces Binding.events Binding.sockets
  rw [bindSurface_eq]
  unfold Binding.attempt
  cases hprimary : binding [] s.config.listener with
  | error fault => simp only [List.append_nil]
  | ok primary =>
    simp only [hconfig]
    cases hmanagement : s.config.management with
    | none => simp only [List.append_nil]
    | some listener =>
      simp only [bindSurface_eq, Binding.attempt, hlogged]
      cases binding [primary] listener <;> rfl

/-- An opening that may go on goes on to bind the surfaces. -/
theorem openStage_check_ok (h : s.checkOpening = .ok ()) :
    s.openStage binding .check = (s, .goOn .bind) := by
  unfold openStage
  dsimp only
  rw [h]

/-- An opening that may not go on is over. -/
theorem openStage_check_error {fault : ServiceFault} (h : s.checkOpening = .error fault) :
    s.openStage binding .check = (s, .finish (.error fault)) := by
  unfold openStage
  dsimp only
  rw [h]

/-- The stage in which the surfaces are bound. -/
theorem openStage_bind : s.openStage binding .bind
    = (s.logged (binding.events s.config), afterBinding (binding.sockets s.config)) := by
  unfold openStage
  dsimp only
  rw [bindSurfaces_eq]
  cases binding.sockets s.config <;> rfl

end Supervisor

end GracefulService
