import GracefulService.Proofs.Precedence
import Mathlib.Data.List.Chain

/-!
# A service lives once

The phases that a service goes through form a chain: each is later than the one before, so none comes
twice, listening begins only where the surfaces are open, and the stop comes only after draining. What an
operation answers tells where the service stands at that moment, and one that is refused leaves the
snapshot as it is. All of this holds for callers and tasks that act in any order.
-/

namespace GracefulService

namespace Phase

/-- A service in one phase may enter another: a later one, but no service listens without having opened,
and none stops without having drained. -/
structure Follows (earlier later : Phase) : Prop where
  /-- It goes forward. -/
  number : earlier.number < later.number
  /-- It listens on surfaces that are open. -/
  listening : later = .listening → earlier = .opened
  /-- It stops when it has drained. -/
  stopped : later = .stopped → earlier = .draining

/-- These are exactly the steps that a service may take. -/
theorem canAdvance_iff_follows (phase target : Phase) :
    phase.canAdvance target = true ↔ phase.Follows target := by
  constructor
  · intro hcan
    refine ⟨Deed.number_lt_of_canAdvance hcan, ?_, ?_⟩
    · rintro rfl
      cases phase <;> first | rfl | cases hcan
    · rintro rfl
      cases phase <;> first | rfl | cases hcan
  · rintro ⟨hnumber, hlistening, hstopped⟩
    cases target with
    | created => cases hnumber
    | opened => cases phase <;> first | rfl | (simp [number] at hnumber)
    | listening => rw [hlistening rfl]; rfl
    | draining => cases phase <;> first | rfl | (simp [number] at hnumber)
    | stopped => rw [hstopped rfl]; rfl

/-- In a chain of phases none comes twice. -/
theorem nodup_of_isChain {phases : List Phase} (hchain : phases.IsChain Follows) :
    phases.Nodup := by
  have hnumbers : (phases.map number).IsChain (· < ·) :=
    List.isChain_map_of_isChain number (fun _ _ hfollows => hfollows.number) hchain
  have hdistinct : (phases.map number).Nodup :=
    hnumbers.pairwise.imp fun hless => Nat.ne_of_lt hless
  exact List.Pairwise.of_map number (fun _ _ hne hsame => hne (congrArg number hsame)) hdistinct

end Phase

/-- A deed leaves the phase or leads to one that may follow. -/
theorem Deed.phase_result (s : Snapshot) (deed : Deed) :
    (deed.result s).phase = s.phase ∨ s.phase.Follows (deed.result s).phase := by
  cases deed with
  | nothing => exact Or.inl rfl
  | advance target =>
    rw [result_advance]
    split
    · rename_i hcan
      exact Or.inr ((Phase.canAdvance_iff_follows _ _).1 hcan)
    · exact Or.inl rfl
  | enter =>
    rw [result_enter]
    split <;> exact Or.inl rfl
  | leave =>
    rw [result_leave]
    exact Or.inl rfl
  | beginDrain cause =>
    rw [result_beginDrain]
    split
    · rename_i hcan
      exact Or.inr ((Phase.canAdvance_iff_follows _ _).1 hcan)
    · exact Or.inl rfl
  | abandon =>
    rw [result_abandon]
    split <;> exact Or.inl rfl

namespace World

/-- Keeping a slot under an id changes no phase. -/
theorem phase_keepGuard (policy : WakePolicy) (w : World) (id : String) :
    (w.keepGuard policy id).snapshot.phase = w.snapshot.phase := by
  rcases story_keepGuard policy w id with hkept | hkept
  · exact congrArg (fun story => story.1.phase) hkept
  · have hphase := congrArg (fun story => story.1.phase) hkept
    simp only [Deed.narrate, Deed.result_leave] at hphase
    exact hphase

end World

open World

/-- Whatever happens enters at most one phase, and that may follow the one before. -/
theorem Happening.phase {setup : Setup} {move : Move} {w after : World}
    (hhappening : Happening setup move w after) :
    after.snapshot.phase = w.snapshot.phase
      ∨ w.snapshot.phase.Follows after.snapshot.phase := by
  -- one deed decides the phase, also where a slot is kept and another one given back for it
  have hdeed : ∀ deed : Deed, after.core.snapshot = deed.result w.snapshot →
      after.snapshot.phase = w.snapshot.phase
        ∨ w.snapshot.phase.Follows after.snapshot.phase := by
    intro deed hsnapshot
    rw [core_snapshot] at hsnapshot
    rw [hsnapshot]
    exact deed.phase_result w.snapshot
  cases hhappening with
  | keep hphase h =>
    left
    have hkept := congrArg (fun v : World => v.snapshot.phase) h
    simp only [phase_keepGuard, core_snapshot] at hkept
    rw [hkept]
    have hentered : (w.core.carryOut setup.policy .enter).snapshot.phase
        = (Deed.enter.result w.snapshot).phase := rfl
    rw [hentered, Deed.result_enter]
    split <;> rfl
  | @deed deed hmove h => exact hdeed deed ((congrArg World.snapshot h).trans rfl)
  | refuse hphase h => exact hdeed .enter ((congrArg World.snapshot h).trans rfl)
  | drop hheld h => exact hdeed .leave ((congrArg World.snapshot h).trans rfl)
  | interrupt hsplit herrand hwhy h => exact hdeed .leave ((congrArg World.snapshot h).trans rfl)
  | goOn hmove hsplit hturned h | finish hmove hsplit hturned h =>
    obtain ⟨deed, -, hresult⟩ := hturned.result_eq
    refine hdeed deed (Eq.trans ?_ hresult)
    exact (congrArg World.snapshot h).trans (snapshot_apply _ _ _)
  | idle h | start _ h | cancel _ _ _ _ h | vain _ _ h | tick _ _ h | ring _ h | release _ h
  | signal _ h =>
    exact hdeed .nothing ((congrArg World.snapshot h).trans rfl)

/-- The answer says that the operation was refused. -/
def StepResult.isRefusal : StepResult → Bool
  | illegal _ | rejected _ | whether false => true
  | _ => false

namespace World

section Entered

variable (setup : Setup)

/-- The phases that a service enters in the course of a run, one after the other. -/
def entered (w : World) : List Move → List Phase
  | [] => []
  | move :: moves =>
    let after := w.move setup move
    if after.snapshot.phase = w.snapshot.phase then after.entered moves
    else after.snapshot.phase :: after.entered moves

/-- The last phase that was entered is the one that the service is in. -/
theorem getLastD_entered (w : World) (moves : List Move) :
    (w.entered setup moves).getLastD w.snapshot.phase = (w.run setup moves).snapshot.phase := by
  induction moves generalizing w with
  | nil => rfl
  | cons move moves ih =>
    have hrest := ih (w.move setup move)
    have hrun : w.run setup (move :: moves) = (w.move setup move).run setup moves := rfl
    rw [hrun, ← hrest]
    simp only [entered]
    split
    · rename_i hsame
      rw [hsame]
    · rw [List.getLastD_cons]

/-- The phases of a run form a chain. -/
theorem isChain_entered (w : World) (moves : List Move) :
    (w.snapshot.phase :: w.entered setup moves).IsChain Phase.Follows := by
  induction moves generalizing w with
  | nil => exact List.isChain_singleton _
  | cons move moves ih =>
    have hrest := ih (w.move setup move)
    have hstep := (move_happens setup w move).phase
    simp only [entered]
    split
    · rename_i hsame
      rw [hsame] at hrest
      exact hrest
    · rename_i hchanged
      exact List.isChain_cons_cons.2 ⟨hstep.resolve_left hchanged, hrest⟩

end Entered

section Refusals

variable (setup : Setup) (w : World)

/-- A caller that asks for a step forward is told whether it is allowed. -/
theorem act_advance_answer (target : Phase) : (w.act setup (.advance target)).2
    = if w.snapshot.phase.canAdvance target then .done else .illegal w.snapshot.phase := by
  cases hcan : w.snapshot.phase.canAdvance target <;>
    simp [act, advance, Snapshot.advance, hcan]

/-- A caller that asks for a slot is told whether the service listens. -/
theorem act_enter_answer (id : String) : (w.act setup (.enter id)).2
    = if w.snapshot.phase = .listening then .done else .rejected w.snapshot.phase := by
  by_cases hlistening : w.snapshot.phase = .listening <;>
    simp [act, enter, Snapshot.enter, Phase.acceptsRequests, hlistening, tell, record]

/-- A caller that asks for the shutdown is told whether it had not begun. -/
theorem act_beginDrain_answer (cause : Cause) : (w.act setup (.beginDrain cause)).2
    = .whether (!w.snapshot.phase.isShuttingDown) := by
  cases hshutting : w.snapshot.phase.isShuttingDown <;>
    simp [act, beginDrain, Snapshot.beginDrain, Deed.canAdvance_draining, hshutting]

/-- A caller that gives requests up is told whether that came about. -/
theorem act_abandon_answer : (w.act setup .abandon).2
    = .whether (decide (w.snapshot.phase = .stopped) && !w.snapshot.abandoned) := by
  by_cases hstopped : w.snapshot.phase = .stopped <;>
    cases habandoned : w.snapshot.abandoned <;>
    simp [act, abandon, Snapshot.abandon, hstopped, habandoned]

/-- An operation that is refused leaves the snapshot as it is. -/
theorem snapshot_of_refusal {step : Step} (h : (w.act setup step).2.isRefusal = true) :
    (w.act setup step).1.snapshot = w.snapshot := by
  cases step with
  | advance target =>
    rw [act_advance_answer] at h
    cases hcan : w.snapshot.phase.canAdvance target with
    | true =>
      rw [hcan] at h
      cases h
    | false => simp [act, advance, Snapshot.advance, hcan]
  | enter id =>
    rw [act_enter_answer] at h
    by_cases hlistening : w.snapshot.phase = .listening
    · rw [if_pos hlistening] at h
      cases h
    · simp [act, enter, Snapshot.enter, Phase.acceptsRequests, hlistening, tell, record]
  | beginDrain cause =>
    rw [act_beginDrain_answer] at h
    cases hshutting : w.snapshot.phase.isShuttingDown with
    | false =>
      rw [hshutting] at h
      cases h
    | true =>
      simp [act, beginDrain, Snapshot.beginDrain, Deed.canAdvance_draining, hshutting, tell]
  | abandon =>
    rw [act_abandon_answer] at h
    by_cases hready : w.snapshot.phase = .stopped ∧ w.snapshot.abandoned = false
    · rw [hready.1, hready.2] at h
      cases h
    · simp only [act, abandon, Snapshot.abandon, if_neg hready]
  | leave id =>
    by_cases hheld : w.guards.contains id = true
    · simp only [act, leaveGuard, if_pos hheld] at h
      cases h
    · simp only [act, leaveGuard, if_neg hheld]
  | cancel id =>
    cases hfound : Task.takeFirst (fun task => task.owner = .caller id) w.tasks with
    | none => simp only [act, cancel, hfound]
    | some found =>
      simp only [act, cancel, hfound] at h
      cases h
  | health checkup =>
    simp only [act]
    split <;> rfl
  | request id surface request => cases request <;> cases h
  | _ => cases h

/-- A request that the gate turns away came while the service did not listen, and takes no slot. -/
theorem snapshot_of_turnedAway {looks : Bool} {surface : Surface} {request : Http.Request}
    {after : World} {response : Http.Response}
    (h : w.turn setup looks (.arrive surface request)
      = some (after, .finish (.answered .gate response))) :
    w.snapshot.phase ≠ .listening ∧ after.snapshot = w.snapshot := by
  obtain ⟨effect, hturned, hcore⟩ := turned_of_turn h
  cases hturned with
  | answer hgate hmarkdown hanswerer => exact absurd rfl hanswerer
  | refuse hrequest hgate hphase =>
    have hafter : after.snapshot = Deed.enter.result w.snapshot :=
      (congrArg World.snapshot hcore).trans rfl
    rw [Deed.result_enter, if_neg hphase] at hafter
    exact ⟨hphase, hafter⟩

/-- A drain that is over while the service does not drain stops nothing. -/
theorem snapshot_of_endDrain {looks : Bool} {sequel : Sequel} {timer : Timer} {after : World}
    {next : Next} (h : w.turn setup looks (.awaitIdle sequel timer) = some (after, next))
    (hphase : w.snapshot.phase ≠ .draining) : after.snapshot = w.snapshot := by
  obtain ⟨effect, hturned, hcore⟩ := turned_of_turn h
  have hrefused : (Deed.advance .stopped).result w.snapshot = w.snapshot := by
    rw [Deed.result_advance, if_neg]
    intro hcan
    exact hphase (((Phase.canAdvance_iff_follows _ _).1 hcan).stopped rfl)
  have hafter : after.snapshot = effect.result w.snapshot :=
    (congrArg World.snapshot hcore).trans (snapshot_apply _ _ _)
  cases hturned with
  | seeIdle hlooks hidle => exact hafter.trans hrefused
  | endWindow hdue => exact hafter.trans hrefused

end Refusals

/-- What an operation answers tells where the service stands, and a refused one changes nothing. -/
structure AnswersTruly (setup : Setup) (w : World) : Prop where
  /-- A step forward is taken, or refused with the phase that the service is in. -/
  advance : ∀ target, (w.act setup (.advance target)).2
    = if w.snapshot.phase.canAdvance target then .done else .illegal w.snapshot.phase
  /-- A slot is given, or refused with the phase that the service is in. -/
  enter : ∀ id, (w.act setup (.enter id)).2
    = if w.snapshot.phase = .listening then .done else .rejected w.snapshot.phase
  /-- Only the beginning of the shutdown says that it began it. -/
  beginDrain : ∀ cause, (w.act setup (.beginDrain cause)).2
    = .whether (!w.snapshot.phase.isShuttingDown)
  /-- Only the first abandonment after the stop says that it gave the requests up. -/
  abandon : (w.act setup .abandon).2
    = .whether (decide (w.snapshot.phase = .stopped) && !w.snapshot.abandoned)
  /-- A caller that is refused has changed nothing. -/
  refused : ∀ step, (w.act setup step).2.isRefusal = true →
    (w.act setup step).1.snapshot = w.snapshot
  /-- A request that the gate turns away has changed nothing. -/
  turnedAway : ∀ looks surface request after response,
    w.turn setup looks (.arrive surface request)
      = some (after, .finish (.answered .gate response)) →
    w.snapshot.phase ≠ .listening ∧ after.snapshot = w.snapshot
  /-- A drain that comes too late to stop the service has changed nothing. -/
  drained : ∀ looks sequel timer after next,
    w.turn setup looks (.awaitIdle sequel timer) = some (after, next) →
    w.snapshot.phase ≠ .draining → after.snapshot = w.snapshot

/-- All callers are answered as the snapshot is at the moment. -/
theorem answersTruly (setup : Setup) (w : World) : w.AnswersTruly setup where
  advance := act_advance_answer setup w
  enter := act_enter_answer setup w
  beginDrain := act_beginDrain_answer setup w
  abandon := act_abandon_answer setup w
  refused _ := snapshot_of_refusal setup w
  turnedAway _ _ _ _ _ := snapshot_of_turnedAway setup w
  drained _ _ _ _ _ := snapshot_of_endDrain setup w

end World

/-- In every run a service goes through its phases in their order and enters none of them twice; it
begins to listen only from open surfaces and stops only from draining. No slot is taken once it shuts
down; a cause is there only for a shutdown that has begun, and stays; requests are given up only after
the stop, and for good. Callers and tasks that are refused have changed nothing, and what callers are
told is where the service stands at that moment. -/
theorem lifecycle_ascends (setup : Setup) (checkup : Option Checkup) (moves : List Move) :
    let created := World.initial checkup
    let w := created.run setup moves
    let phases := Phase.created :: created.entered setup moves
    phases.IsChain Phase.Follows
      ∧ phases.Nodup
      ∧ phases.getLast? = some w.snapshot.phase
      ∧ w.snapshot.Sound
      ∧ (∀ later, w.snapshot.Precedes (w.run setup later).snapshot)
      ∧ w.AnswersTruly setup := by
  intro created w phases
  have hchain : phases.IsChain Phase.Follows := isChain_entered setup created moves
  have hlast : phases.getLast? = some w.snapshot.phase := by
    rw [List.getLast?_cons, ← List.getLastD_eq_getLast?]
    exact congrArg some (getLastD_entered setup created moves)
  exact ⟨hchain, Phase.nodup_of_isChain hchain, hlast, sound_run Snapshot.sound_initial moves,
    precedes_run setup w, w.answersTruly setup⟩

end GracefulService
