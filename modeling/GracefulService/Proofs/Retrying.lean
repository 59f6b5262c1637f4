import GracefulService.Proofs.Logs
import GracefulService.Proofs.Overlap
import GracefulService.Proofs.Serving

/-!
# Trying again

An opening that fails, because the configuration is not sound or a socket cannot be bound, leaves nothing
behind but lines in the log: the service has just been created, as before, nothing is published, and no socket
stays bound, not even one that was bound before another could not be. So whoever opens a service may fail any
number of times, and whatever happens then is what happens to a service that nobody has tried to open.
-/

namespace GracefulService

open Http

/-- An opening has failed that may be tried again. -/
def ServiceFault.isSetback : ServiceFault → Bool
  | unsound _ | bind .. => true
  | _ => false

/-- A socket was bound. -/
def Event.isBinding : Event → Bool
  | listenerBound .. => true
  | _ => false

namespace Binding

/-- Nothing is logged but that sockets were bound. -/
theorem isBinding_eventsFor (binding : Binding) (held : List BoundAddress) (surface : Surface)
    (listener : Listener) : ∀ event ∈ binding.eventsFor held surface listener, event.isBinding = true := by
  unfold eventsFor
  split
  · simp
  · exact List.forall_mem_singleton.2 rfl

/-- Nothing is logged while the sockets are bound but that they were. -/
theorem isBinding_events (binding : Binding) (config : Config) :
    ∀ event ∈ binding.events config, event.isBinding = true := by
  unfold events
  refine List.forall_mem_append.2 ⟨binding.isBinding_eventsFor _ _ _, ?_⟩
  split
  · exact binding.isBinding_eventsFor _ _ _
  · simp

/-- Where sockets cannot be bound, the fault says which surface has none. -/
theorem isSetback_of_sockets {binding : Binding} {config : Config} {fault : ServiceFault}
    (h : binding.sockets config = .error fault) : fault.isSetback = true := by
  unfold sockets at h
  split at h
  · cases h
    rfl
  · split at h
    · cases h
    · split at h <;> cases h
      rfl

end Binding

namespace Supervisor

/-- Just where a service has just been created, an opening may fail that can be tried again. -/
theorem isSetback_iff {s : Supervisor} {fault : ServiceFault} (h : s.checkOpening = .error fault) :
    fault.isSetback = true ↔ s.phase = .created := by
  unfold checkOpening at h
  cases hphase : s.phase with
  | created =>
    rw [hphase] at h
    simp only [openable, bind, Except.bind] at h
    split at h <;> cases h
    exact iff_of_true rfl rfl
  | _ =>
    rw [hphase] at h
    cases h
    exact iff_of_false (by simp [ServiceFault.isSetback]) (by simp)

/-- An opening that nobody comes between and that fails changes nothing but the log. -/
theorem openBy_error {s : Supervisor} {binding : Binding} {fault : ServiceFault}
    (h : (s.openBy binding).2 = .error fault) : ∃ events : List Event,
      (s.openBy binding).1 = s.logged events ∧ (∀ event ∈ events, event.isBinding = true)
        ∧ (fault.isSetback = true ↔ s.phase = .created) := by
  unfold openBy at h ⊢
  cases hcheck : s.checkOpening with
  | error found =>
    rw [hcheck] at h
    cases h
    have hnone : s.logged [] = s := by simp only [logged, World.logged, List.append_nil]
    exact ⟨[], hnone.symm, by simp, isSetback_iff hcheck⟩
  | ok _ =>
    cases hsockets : binding.sockets s.config with
    | error found =>
      rw [hcheck, hsockets] at h
      cases h
      exact ⟨binding.events s.config, rfl, binding.isBinding_events s.config,
        iff_of_true (Binding.isSetback_of_sockets hsockets) (phase_of_checkOpening hcheck)⟩
    | ok sockets =>
      rw [hcheck, hsockets] at h
      cases h

/-- A stage at which an opening fails changes nothing but the log. -/
theorem openStage_error {s : Supervisor} {binding : Binding} {stage : Opening} {fault : ServiceFault}
    (h : (s.openStage binding stage).2 = .finish (.error fault)) : ∃ events : List Event,
      (s.openStage binding stage).1 = s.logged events ∧ ∀ event ∈ events, event.isBinding = true := by
  have hnone : s.logged [] = s := by simp only [logged, World.logged, List.append_nil]
  have hdone := stageDone s binding stage
  rw [h] at hdone
  cases stage with
  | bind =>
    rw [openStage_bind]
    exact ⟨binding.events s.config, rfl, binding.isBinding_events s.config⟩
  | check | commit =>
    generalize (s.openStage binding _).1 = after at hdone ⊢
    cases hdone
    exact ⟨[], hnone.symm, by simp⟩
  | publish =>
    generalize (s.openStage binding _).1 = after at hdone
    cases hdone

open World in
/-- Opening a service starts no server. -/
theorem StageDone.unserved {s after : Supervisor} {stage : Opening} {next : OpeningNext}
    (hdone : StageDone s stage after next) (h : s.world.Unserved) : after.world.Unserved := by
  rcases hdone.core with hcore | hcore
  · exact h.step (.idle hcore : Happening s.setup .watchSignals s.world _) rfl
  · rw [advance_eq, core_carryOut] at hcore
    exact h.step (.deed rfl hcore : Happening s.setup (.act (.advance .opened)) s.world _) rfl

end Supervisor

namespace Session

open World

/-- Nothing is published, waits to be served, or is served, and nobody is about to serve anything. -/
structure Unopened (s : Session) : Prop where
  /-- The primary surface has no address. -/
  primary : s.supervisor.primaryAddress = none
  /-- Nor has the management surface. -/
  management : s.supervisor.managementAddress = none
  /-- No sockets are stored. -/
  stored : s.supervisor.sockets = none
  /-- Nobody has taken any. -/
  taken : s.beginnings = []
  /-- There is no server. -/
  unserved : s.supervisor.world.Unserved

/-- A session without what was logged and without what callers were told. -/
def blank (s : Session) : Session :=
  { s with
    supervisor := { s.supervisor with world := { s.supervisor.world with log := [] } }
    told := [] }

/-- What an attempt to open a service leaves behind that had a setback. -/
structure LeavesNoTrace (before after : Session) : Prop where
  /-- The service has just been created. -/
  phase : after.supervisor.phase = .created
  /-- Nothing is published, stored or served. -/
  unopened : after.Unopened
  /-- No socket is bound but by other openings that are under way. -/
  bound : after.bound = before.openings.filterMap Opening.sockets?
  /-- The log says at most that sockets were bound meanwhile. -/
  logged : ∃ events : List Event, after.supervisor.world.log = before.supervisor.world.log ++ events
    ∧ ∀ event ∈ events, event.isBinding = true
  /-- All else is as it was. -/
  same : after.blank = before.blank
  /-- Whatever comes next comes to the same as without the attempt. -/
  later : ∀ calls, ∃ rest : Session,
    before.run calls = rest.preceded before.supervisor.world.log before.told
      ∧ after.run calls = rest.preceded after.supervisor.world.log after.told

/-- Of a service that has just been created nothing is published. -/
theorem unopened_create (config : Config) (machine : Machine) (checkup : Option Checkup) :
    (create config machine checkup).Unopened :=
  ⟨rfl, rfl, rfl, rfl, unserved_initial checkup⟩

section Steps

variable {s : Session}

/-- Until an opening succeeds, whatever its stages come to publishes nothing. -/
theorem Unopened.takeStage (h : s.Unopened) (binding : Binding) (stage : Opening) (before after : List Opening) :
    (s.takeStage binding stage before after).Unopened
      ∨ .opened ∈ (s.takeStage binding stage before after).told := by
  have hdone := Supervisor.stageDone s.supervisor binding stage
  have hunserved := hdone.unserved h.unserved
  unfold Session.takeStage
  generalize s.supervisor.openStage binding stage = done at hdone hunserved ⊢
  obtain ⟨supervisor, next⟩ := done
  cases hdone with
  | published => exact Or.inr (List.mem_append_right _ List.mem_cons_self)
  | _ => exact Or.inl ⟨h.primary, h.management, h.stored, h.taken, hunserved⟩

/-- Until an opening succeeds, nothing is published, whatever comes. -/
theorem Unopened.take (h : s.Unopened) (call : Call) : (s.take call).Unopened ∨ .opened ∈ (s.take call).told := by
  cases call with
  | openService => exact h.takeStage s.supervisor.machine.bind .check s.openings []
  | goOnOpening place binding =>
    simp only [Session.take]
    split
    · exact Or.inl h
    · exact h.takeStage binding _ _ _
  | listen =>
    rw [take_listen_none h.stored]
    exact Or.inl ⟨h.primary, h.management, h.stored, h.taken, h.unserved⟩
  | goOnListening place delegate =>
    have hnobody : s.beginnings[place]? = none := by rw [h.taken]; rfl
    simp only [Session.take, hnobody]
    exact Or.inl h
  | aside move =>
    simp only [Session.take]
    split
    · rename_i haside
      obtain ⟨step, hproceeds⟩ := proceeds_aside s haside
      have hunserved := h.unserved.step hproceeds.happens hproceeds.quiet
      rw [Supervisor.move_aside haside] at hunserved ⊢
      exact Or.inl ⟨h.primary, h.management, h.stored, h.taken, hunserved⟩
    · exact Or.inl h

/-- What was told once is told for ever. -/
theorem opened_run (h : .opened ∈ s.told) (calls : List Call) : .opened ∈ (s.run calls).told :=
  List.foldlRecOn calls Session.take (motive := fun s => .opened ∈ s.told) h
    fun s hs call _ => (takes_take s call).told.mem hs

/-- As long as no opening has succeeded, nothing is published. -/
theorem Unopened.run (h : s.Unopened) (calls : List Call) :
    (s.run calls).Unopened ∨ .opened ∈ (s.run calls).told :=
  List.foldlRecOn calls Session.take (motive := fun s => s.Unopened ∨ .opened ∈ s.told) (Or.inl h)
    fun s hs call _ => hs.elim (fun h => h.take call) fun h => Or.inr ((takes_take s call).told.mem h)

/-- Of a service that has just been created nothing is published. -/
theorem unopened_of_created {config : Config} {machine : Machine} {checkup : Option Checkup}
    {calls : List Call}
    (h : ((create config machine checkup).run calls).supervisor.phase = .created) :
    ((create config machine checkup).run calls).Unopened := by
  have hexclusive := (exclusive_create config machine checkup).run calls
  refine ((unopened_create config machine checkup).run calls).resolve_right fun hopened => ?_
  have hnone := hexclusive.created h
  have hsome := List.count_pos_iff.2 hopened
  unfold committed at hnone
  omega

/-- What was logged and said can be put back. -/
theorem blank_preceded (s : Session) : s.blank.preceded s.supervisor.world.log s.told = s := by
  simp only [blank, preceded, Supervisor.preceded, World.preceded, List.append_nil]

/-- Sessions that are the same but for what was logged and said go on in the same way. -/
theorem later_of_blank {before after : Session} (h : after.blank = before.blank) (calls : List Call) :
    ∃ rest : Session, before.run calls = rest.preceded before.supervisor.world.log before.told
      ∧ after.run calls = rest.preceded after.supervisor.world.log after.told := by
  refine ⟨before.blank.run calls, ?_, ?_⟩
  · rw [← run_preceded, blank_preceded]
  · rw [← h, ← run_preceded, blank_preceded]

/-- What is the same as a service that has just been created, but for its log, has left no trace of anything. -/
theorem leavesNoTrace_of_blank {after : Session} (hunopened : s.Unopened)
    (hcreated : s.supervisor.phase = .created) (hsame : after.blank = s.blank)
    (hlogged : ∃ events : List Event, after.supervisor.world.log = s.supervisor.world.log ++ events
      ∧ ∀ event ∈ events, event.isBinding = true) : s.LeavesNoTrace after := by
  have hstored : after.supervisor.sockets = none :=
    (congrArg (fun s => s.supervisor.sockets) hsame).trans hunopened.stored
  have htaken : after.beginnings = [] := (congrArg (fun s => s.beginnings) hsame).trans hunopened.taken
  have hopenings : after.openings = s.openings := congrArg (fun s => s.openings) hsame
  have htasks : after.supervisor.world.tasks = s.supervisor.world.tasks :=
    congrArg (fun s => s.supervisor.world.tasks) hsame
  have hclosed : ∀ surface, after.supervisor.world.closed surface = s.supervisor.world.closed surface :=
    fun surface => congrArg (fun s => s.supervisor.world.closed surface) hsame
  exact {
    phase := (congrArg (fun s => s.supervisor.phase) hsame).trans hcreated
    unopened := {
      primary := (congrArg (fun s => s.supervisor.primaryAddress) hsame).trans hunopened.primary
      management := (congrArg (fun s => s.supervisor.managementAddress) hsame).trans hunopened.management
      stored := hstored
      taken := htaken
      unserved := {
        staff := by rw [htasks]; exact hunopened.unserved.staff
        closed := fun surface => (hclosed surface).trans (hunopened.unserved.closed surface) } }
    bound := by
      simp only [Session.bound, hstored, htaken, hopenings, Option.toList_none, List.map_nil,
        List.append_nil]
    logged := hlogged
    same := hsame
    later := later_of_blank hsame }

/-- What comes of an opening that nobody comes between is decided by the phase, the configuration and the
binding. -/
theorem run_attempt_eq (s : Session) (binding : Binding) : s.run (attempt s.openings.length binding)
    = { s with
        supervisor := (s.supervisor.openBy binding).1
        told := s.told ++ [.ofOpening (s.supervisor.openBy binding).2] } := by
  rw [run_attempt, Supervisor.openFrom_check_eq]

/-- What callers are told tells whether an opening has failed, and why. -/
theorem openBy_of_told {binding : Binding} {reply : Reply}
    (htold : (s.run (attempt s.openings.length binding)).told = s.told ++ [reply]) :
    reply = .ofOpening (s.supervisor.openBy binding).2 := by
  rw [run_attempt_eq] at htold
  exact (List.head_eq_of_cons_eq (List.append_cancel_left htold)).symm

/-- An opening that has failed has changed nothing but the log. -/
theorem blank_attempt {binding : Binding} {fault : ServiceFault}
    (hresult : (s.supervisor.openBy binding).2 = .error fault) :
    let after := s.run (attempt s.openings.length binding)
    after.blank = s.blank ∧ after.told = s.told ++ [.openingFailed fault]
      ∧ (∃ events : List Event, after.supervisor.world.log = s.supervisor.world.log ++ events
        ∧ ∀ event ∈ events, event.isBinding = true)
      ∧ (fault.isSetback = true ↔ s.supervisor.phase = .created) := by
  obtain ⟨events, hsame, hevents, hphase⟩ := Supervisor.openBy_error hresult
  simp only [run_attempt_eq, hsame, hresult]
  exact ⟨rfl, rfl, ⟨events, rfl, hevents⟩, hphase⟩

/-- Where others may come between, too, the stage at which an opening fails changes nothing but the log, and the
opening is no longer under way. -/
theorem take_error {place : Nat} {binding : Binding} {fault : ServiceFault}
    (htold : (s.take (.goOnOpening place binding)).told = s.told ++ [.openingFailed fault]) :
    ∃ events : List Event, (∀ event ∈ events, event.isBinding = true)
      ∧ s.take (.goOnOpening place binding)
        = { s with
            supervisor := s.supervisor.logged events
            openings := s.openings.eraseIdx place
            told := s.told ++ [.openingFailed fault] } := by
  simp only [take] at htold ⊢
  split at htold
  · simp at htold
  · rename_i stage hstage
    have hfailed := @Supervisor.openStage_error s.supervisor binding stage
    unfold takeStage at htold ⊢
    generalize s.supervisor.openStage binding stage = done at htold hfailed ⊢
    obtain ⟨supervisor, next⟩ := done
    cases next with
    | goOn next => simp at htold
    | finish result =>
      have hreply := List.append_cancel_left htold
      cases result with
      | ok _ => cases hreply
      | error found =>
        cases hreply
        obtain ⟨events, hsame, hevents⟩ := hfailed rfl
        refine ⟨events, hevents, ?_⟩
        simp only at hsame
        rw [List.eraseIdx_eq_take_drop_succ, ← hsame]
        rfl

/-- Where no opening has succeeded, all have had setbacks, if nobody else has come between. -/
theorem blank_attempts {bindings : List Binding} (hopenings : s.openings = [])
    (hcreated : s.supervisor.phase = .created)
    (hfailed : .opened ∉ (s.run (bindings.flatMap (attempt 0))).told) :
    let after := s.run (bindings.flatMap (attempt 0))
    after.blank = s.blank
      ∧ (∃ events : List Event, after.supervisor.world.log = s.supervisor.world.log ++ events
        ∧ ∀ event ∈ events, event.isBinding = true)
      ∧ ∃ faults : List ServiceFault, faults.length = bindings.length
        ∧ after.told = s.told ++ faults.map .openingFailed ∧ ∀ fault ∈ faults, fault.isSetback = true := by
  induction bindings generalizing s with
  | nil => exact ⟨rfl, ⟨[], (List.append_nil _).symm, by simp⟩, [], rfl, (List.append_nil _).symm, by simp⟩
  | cons binding bindings ih =>
    have hplace : s.openings.length = 0 := by rw [hopenings]; rfl
    rw [List.flatMap_cons, run_append] at hfailed ⊢
    rw [← hplace] at hfailed ⊢
    cases hresult : (s.supervisor.openBy binding).2 with
    | ok _ =>
      refine absurd (opened_run ?_ _) hfailed
      rw [run_attempt_eq, hresult]
      exact List.mem_append_right _ List.mem_cons_self
    | error fault =>
      obtain ⟨hsame, htold, ⟨events, hlog, hevents⟩, hsetback⟩ := blank_attempt hresult
      rw [hplace] at hfailed hsame htold hlog ⊢
      have hopeningsAfter : (s.run (attempt 0 binding)).openings = [] :=
        (congrArg (fun s => s.openings) hsame).trans hopenings
      have hcreatedAfter : (s.run (attempt 0 binding)).supervisor.phase = .created :=
        (congrArg (fun s => s.supervisor.phase) hsame).trans hcreated
      obtain ⟨hrest, ⟨later, hlater, hall⟩, faults, hlength, htoldLater, hsetbacks⟩ :=
        ih hopeningsAfter hcreatedAfter hfailed
      refine ⟨hrest.trans hsame, ⟨events ++ later, ?_, List.forall_mem_append.2 ⟨hevents, hall⟩⟩,
        fault :: faults, congrArg (· + 1) hlength, ?_, List.forall_mem_cons.2 ⟨hsetback.2 hcreated, hsetbacks⟩⟩
      · rw [hlater, hlog, List.append_assoc]
      · rw [htoldLater, htold, List.append_assoc]
        rfl

end Steps

/-- An opening that fails because the configuration is not sound or a socket cannot be bound, at any time and
whatever else is under way, leaves the service as it has been created: its addresses absent, no socket stored
or bound, not even the primary one where the management one could not be bound, and only lines in the log to
tell of it. Where others come between its stages, the one at which it fails changes nothing but the log, so
all is as those others have left it. A service on which any number of openings have failed, for whatever
reasons at whatever times, goes on with everything that may come as one that nobody has tried to open: it says
the same, logs the same and comes to the same state, and the next opening succeeds if it would have succeeded
at first. -/
theorem failed_openings_leave_no_trace (config : Config) (machine : Machine) (checkup : Option Checkup) :
    let created := create config machine checkup
    (∀ (calls : List Call) (binding : Binding) (fault : ServiceFault),
      let before := created.run calls
      let after := before.run (attempt before.openings.length binding)
      after.told = before.told ++ [.openingFailed fault] → fault.isSetback = true →
        before.LeavesNoTrace after)
    ∧ (∀ (calls : List Call) (place : Nat) (binding : Binding) (fault : ServiceFault),
      let before := created.run calls
      let after := before.take (.goOnOpening place binding)
      after.told = before.told ++ [.openingFailed fault] → ∃ events : List Event,
        (∀ event ∈ events, event.isBinding = true)
          ∧ after = { before with
              supervisor := before.supervisor.logged events
              openings := before.openings.eraseIdx place
              told := before.told ++ [.openingFailed fault] })
    ∧ ∀ bindings : List Binding,
      let failed := created.run (bindings.flatMap (attempt 0))
      .opened ∉ failed.told →
        created.LeavesNoTrace failed
          ∧ (∃ faults : List ServiceFault, faults.length = bindings.length
            ∧ failed.told = faults.map .openingFailed ∧ ∀ fault ∈ faults, fault.isSetback = true)
          ∧ ∀ calls, failed.run calls
            = (created.run calls).preceded failed.supervisor.world.log failed.told := by
  intro created
  refine ⟨?_, fun _ _ _ _ => take_error, ?_⟩
  · intro calls binding fault before after htold hsetback
    have hreply := openBy_of_told htold
    cases hresult : (before.supervisor.openBy binding).2 with
    | ok _ =>
      rw [hresult] at hreply
      cases hreply
    | error found =>
      rw [hresult] at hreply
      cases hreply
      obtain ⟨hsame, -, hlogged, hcreated⟩ := blank_attempt hresult
      have hphase := hcreated.1 hsetback
      exact leavesNoTrace_of_blank (unopened_of_created hphase) hphase hsame hlogged
  · intro bindings failed hfailed
    obtain ⟨hsame, hlogged, faults, hlength, htold, hsetbacks⟩ :=
      blank_attempts (s := created) rfl rfl hfailed
    have hunopened := unopened_create config machine checkup
    refine ⟨leavesNoTrace_of_blank hunopened rfl hsame hlogged, ⟨faults, hlength, htold, hsetbacks⟩, ?_⟩
    intro calls
    have hstart : created.preceded failed.supervisor.world.log failed.told = failed :=
      (congrArg (preceded failed.supervisor.world.log failed.told) hsame.symm).trans (blank_preceded failed)
    rw [← run_preceded, hstart]

/-- A service with two surfaces on fixed sockets. -/
def onFixedSockets : Session :=
  create { Config.usual with listener := ⟨"127.0.0.1", 8080⟩, management := some ⟨"127.0.0.1", 9000⟩ }
    (.confined []) none

/-- A service cannot be opened as long as another program has its management socket, and is opened once that
is free again, with the primary socket that was bound and given back twice before. -/
theorem failed_openings_leave_no_trace_taken :
    let taken : Binding := (Machine.confined [⟨"127.0.0.1", 9000⟩]).bind
    let free : Binding := (Machine.confined []).bind
    let failed := onFixedSockets.run ([taken, taken].flatMap (attempt 0))
    let fault := ServiceFault.bind .management "127.0.0.1:9000" .inUse
    .opened ∉ failed.told ∧ failed.told = [.openingFailed fault, .openingFailed fault]
      ∧ failed.supervisor.world.log.length = 2
      ∧ failed.bound = []
      ∧ failed.run (attempt 0 free)
        = (onFixedSockets.run (attempt 0 free)).preceded failed.supervisor.world.log failed.told
      ∧ (failed.run (attempt 0 free)).told.getLast? = some .opened
      ∧ (failed.run (attempt 0 free)).supervisor.primaryAddress = some ⟨"127.0.0.1", 8080⟩ := by
  intro taken free failed fault
  have hfailed : .opened ∉ failed.told := by decide +kernel
  obtain ⟨htrace, -, hlater⟩ := (failed_openings_leave_no_trace
    { Config.usual with listener := ⟨"127.0.0.1", 8080⟩, management := some ⟨"127.0.0.1", 9000⟩ }
    (.confined []) none).2.2 [taken, taken] hfailed
  exact ⟨hfailed, by decide +kernel, by decide +kernel, htrace.bound, hlater _, by decide +kernel,
    by decide +kernel⟩

end Session

end GracefulService
