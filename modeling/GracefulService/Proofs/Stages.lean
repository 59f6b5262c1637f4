import GracefulService.Proofs.Supervision

/-!
# Stages of an opening

What each stage of an opening comes to, whatever comes of binding sockets, what an opening comes to that nobody
comes between, and what the parts of listening change.
-/

namespace GracefulService

namespace Supervisor

open World

/-- What a stage of an opening comes to. -/
inductive StageDone (s : Supervisor) : Opening → Supervisor → OpeningNext → Prop where
  | checked (hphase : s.phase = .created) : StageDone s .check s (.goOn .bind)
  | notOpenable {fault : ServiceFault}
      (hfault : s.phase.isShuttingDown = true → fault = .stopped) :
      StageDone s .check s (.finish (.error fault))
  | bound {world : World} {sockets : Sockets} (hcore : world.core = s.world.core)
      (hfits : sockets.management.isSome = s.config.management.isSome) :
      StageDone s .bind { s with world := world } (.goOn (.commit sockets))
  | unbound {world : World} {fault : ServiceFault} (hcore : world.core = s.world.core) :
      StageDone s .bind { s with world := world } (.finish (.error fault))
  | committed {sockets : Sockets} (hphase : s.phase = .created ∨ s.phase = .draining) :
      StageDone s (.commit sockets)
        { s with world := (s.world.advance s.setup.policy .opened).1 } (.goOn (.publish sockets))
  | tooLate {sockets : Sockets} (hcreated : s.phase ≠ .created) (hdraining : s.phase ≠ .draining) :
      StageDone s (.commit sockets) s (.finish (.error (.alreadyOpened s.phase)))
  | published {sockets : Sockets} :
      StageDone s (.publish sockets)
        { s with
          primaryAddress := some sockets.primary
          managementAddress := sockets.management
          sockets := some sockets }
        (.finish (.ok ()))

/-- Only a service that has just been created can be opened. -/
theorem phase_of_checkOpening {s : Supervisor} (h : s.checkOpening = .ok ()) : s.phase = .created := by
  unfold checkOpening at h
  cases hphase : s.phase with
  | created => rfl
  | _ =>
    rw [hphase] at h
    cases h

/-- Once the shutdown has begun, a service can no longer be opened. -/
theorem fault_of_checkOpening {s : Supervisor} {fault : ServiceFault}
    (h : s.checkOpening = .error fault) (hshutting : s.phase.isShuttingDown = true) :
    fault = .stopped := by
  unfold checkOpening at h
  cases hphase : s.phase with
  | draining | stopped =>
    rw [hphase] at h
    cases h
    rfl
  | _ =>
    rw [hphase] at hshutting
    cases hshutting

/-- A step forward is answered with whether it is allowed. -/
theorem advance_answer (policy : WakePolicy) (w : World) (target : Phase) :
    (w.advance policy target).2 = w.snapshot.phase.canAdvance target := by
  cases hcan : w.snapshot.phase.canAdvance target <;> simp [advance, Snapshot.advance, hcan]

/-- Every stage of an opening comes to one of the things listed, whatever the binding. -/
theorem stageDone (s : Supervisor) (binding : Binding) (stage : Opening) :
    StageDone s stage (s.openStage binding stage).1 (s.openStage binding stage).2 := by
  cases stage with
  | check =>
    cases hcheck : s.checkOpening with
    | ok _ =>
      rw [openStage_check_ok s binding hcheck]
      exact .checked (phase_of_checkOpening hcheck)
    | error fault =>
      rw [openStage_check_error s binding hcheck]
      exact .notOpenable fun hshutting => fault_of_checkOpening hcheck hshutting
  | bind =>
    have hcore := core_logged s.world (binding.tellsDeed_events s.config)
    rw [openStage_bind]
    cases hsockets : binding.sockets s.config with
    | ok sockets => exact .bound hcore (binding.fits_of_sockets s.config hsockets)
    | error fault => exact .unbound hcore
  | commit sockets =>
    have hstep := advance_answer s.setup.policy s.world .opened
    have hrefused := refused_advance s.setup.policy s.world .opened
    unfold openStage commitOpening
    dsimp only
    generalize hadvanced : s.world.advance s.setup.policy .opened = advanced at hstep hrefused ⊢
    obtain ⟨world, allowed⟩ := advanced
    simp only at hstep hrefused
    cases allowed with
    | true =>
      have hcreated : s.phase = .created := by
        have hcan := hstep.symm
        cases hphase : s.world.snapshot.phase <;> rw [hphase] at hcan <;> first | exact hphase | cases hcan
      have hcommitted : StageDone s (.commit sockets) _ _ := .committed (Or.inl hcreated)
      rw [hadvanced] at hcommitted
      exact hcommitted
    | false =>
      by_cases hdraining : s.phase = .draining
      · have hcommitted : StageDone s (.commit sockets) _ _ := .committed (Or.inr hdraining)
        rw [hadvanced, hrefused rfl] at hcommitted
        simp only [if_pos hdraining]
        exact hcommitted
      · have hcreated : s.phase ≠ .created := by
          intro hcreated
          have hphase : s.world.snapshot.phase = .created := hcreated
          rw [hphase] at hstep
          cases hstep
        simp only [if_neg hdraining]
        exact .tooLate hcreated hdraining
  | publish sockets => exact .published

/-- Whatever a stage comes to, the world goes on by what can happen. -/
theorem StageDone.leads {s after : Supervisor} {stage : Opening} {next : OpeningNext}
    (h : StageDone s stage after next) : s.world.Leads after.world := by
  cases h with
  | bound hcore hfits => exact leads_of_core s.setup hcore
  | unbound hcore => exact leads_of_core s.setup hcore
  | committed hphase => exact leads_advance s.setup s.world .opened
  | _ => exact leads_refl _

/-- An opening whose first stage goes on does what the later ones do. -/
theorem openFrom_of_goOn {s after : Supervisor} {binding : Binding} {stage next : Opening}
    (h : s.openStage binding stage = (after, .goOn next)) :
    s.openFrom binding stage = after.openFrom binding next := by
  rw [openFrom]
  split
  · rename_i hstage
    rw [h] at hstage
    cases hstage
  · rename_i hstage
    rw [h] at hstage
    cases hstage
    rfl

/-- An opening whose first stage is the last one has its result. -/
theorem openFrom_of_finish {s after : Supervisor} {binding : Binding} {stage : Opening}
    {result : Except ServiceFault Unit} (h : s.openStage binding stage = (after, .finish result)) :
    s.openFrom binding stage = (after, result) := by
  rw [openFrom]
  split
  · rename_i hstage
    rw [h] at hstage
    cases hstage
    rfl
  · rename_i hstage
    rw [h] at hstage
    cases hstage

/-- The phase of a service that has just been created moves on when its surfaces are bound. -/
theorem openStage_commit_of_created {s : Supervisor} (h : s.phase = .created) (binding : Binding)
    (sockets : Sockets) : s.openStage binding (.commit sockets)
      = ({ s with world := (s.world.advance s.setup.policy .opened).1 }, .goOn (.publish sockets)) := by
  have hanswer := advance_answer s.setup.policy s.world .opened
  have hphase : s.world.snapshot.phase = .created := h
  rw [hphase] at hanswer
  unfold openStage commitOpening
  dsimp only
  generalize s.world.advance s.setup.policy .opened = advanced at hanswer ⊢
  obtain ⟨world, allowed⟩ := advanced
  cases allowed with
  | true => rfl
  | false => cases hanswer

/-- What an opening comes to that nobody comes between, where sockets are bound by `binding`. -/
def openBy (s : Supervisor) (binding : Binding) : Supervisor × Except ServiceFault Unit :=
  match s.checkOpening, binding.sockets s.config with
  | .error fault, _ => (s, .error fault)
  | .ok (), .error fault => (s.logged (binding.events s.config), .error fault)
  | .ok (), .ok sockets =>
    ({ s with
      world := ((s.world.logged (binding.events s.config)).advance s.setup.policy .opened).1
      primaryAddress := some sockets.primary
      managementAddress := sockets.management
      sockets := some sockets }, .ok ())

/-- The stages of an opening, one after the other, come to what the phase, the configuration and the binding
decide. -/
theorem openFrom_check_eq (s : Supervisor) (binding : Binding) : s.openFrom binding .check = s.openBy binding := by
  unfold openBy
  cases hcheck : s.checkOpening with
  | error fault => exact openFrom_of_finish (openStage_check_error s binding hcheck)
  | ok _ =>
    have hbound := openStage_bind s binding
    rw [openFrom_of_goOn (openStage_check_ok s binding hcheck)]
    cases hsockets : binding.sockets s.config with
    | error fault =>
      rw [hsockets] at hbound
      exact openFrom_of_finish hbound
    | ok sockets =>
      have hphase : (s.logged (binding.events s.config)).phase = .created := phase_of_checkOpening hcheck
      rw [hsockets] at hbound
      rw [openFrom_of_goOn hbound,
        openFrom_of_goOn (openStage_commit_of_created hphase binding sockets)]
      exact openFrom_of_finish rfl

/-- Letting requests in changes the world alone. -/
theorem admitRequests_eq (s : Supervisor) :
    s.admitRequests = { s with world := s.admitRequests.world } := by
  unfold admitRequests
  split <;> rfl

/-- Starting to serve leaves the snapshot as it is. -/
theorem snapshot_startServing (s : Supervisor) (sockets : Sockets) (site : Site) :
    (s.startServing sockets site).world.snapshot = s.world.snapshot :=
  startServing_induction s (P := fun w => w.snapshot = s.world.snapshot) sockets site
    (fun _ _ _ hsnapshot => hsnapshot) rfl

end Supervisor

end GracefulService
