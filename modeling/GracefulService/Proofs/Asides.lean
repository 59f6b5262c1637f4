import GracefulService.Proofs.FirstCause

/-!
# What is done aside

A service is opened and listened on by those who call it. Whatever else is done to it, such as a request for
the shutdown, a turn of a task or a moment that passes, does not open it, lets nobody in, and begins its
shutdown only with a cause.
-/

namespace GracefulService

/-- What a supervisor does apart from being opened and listened on. Steps forward are not left to others. -/
def SupervisorMove.isAside : SupervisorMove → Bool
  | run (.act (.advance _)) | run (.startServer ..) | run (.listen _) => false
  | run _ | trigger _ | callMarkdown .. => true
  | _ => false

/-- A step forward that a deed makes is the stop. -/
def Deed.IsAside (deed : Deed) : Prop := ∀ target, deed = .advance target → target = .stopped

/-- A service is in a phase, or its shutdown has begun. -/
def Snapshot.Stands (s : Snapshot) (phase : Phase) : Prop :=
  s.phase = phase ∨ s.phase.isShuttingDown = true

/-- A shutdown that has begun has a cause. -/
def Snapshot.Caused (s : Snapshot) : Prop := s.phase.isShuttingDown = true → s.cause ≠ none

namespace Deed

/-- A shutdown that is not begun by a bare step forward has a cause. -/
theorem caused_result {s : Snapshot} (h : s.Caused) (deed : Deed)
    (hdeed : deed ≠ advance .draining) : (deed.result s).Caused := by
  intro hshutting
  cases deed with
  | nothing => exact h hshutting
  | advance target =>
    rw [result_advance] at hshutting ⊢
    split
    · rename_i hcan
      rw [if_pos hcan] at hshutting
      have hbegun : s.phase.isShuttingDown = true := by
        cases target with
        | draining => exact absurd rfl hdeed
        | stopped => cases hphase : s.phase <;> simp_all [Phase.canAdvance, Phase.isShuttingDown, Phase.number]
        | _ => cases hshutting
      exact h hbegun
    · rename_i hcan
      rw [if_neg hcan] at hshutting
      exact h hshutting
  | enter =>
    rw [result_enter] at hshutting ⊢
    split <;> simp_all [Snapshot.Caused]
  | leave =>
    rw [result_leave] at hshutting ⊢
    exact h hshutting
  | beginDrain cause =>
    rw [result_beginDrain] at hshutting ⊢
    split
    · exact Option.some_ne_none cause
    · rename_i hcan
      rw [if_neg hcan] at hshutting
      exact h hshutting
  | abandon =>
    rw [result_abandon] at hshutting ⊢
    split <;> simp_all [Snapshot.Caused]

/-- A deed that makes no other step forward than the stop leaves the phase or belongs to the shutdown. -/
theorem IsAside.stands {s : Snapshot} {deed : Deed} {phase : Phase} (hdeed : deed.IsAside)
    (h : s.Stands phase) : (deed.result s).Stands phase := by
  rcases h with hphase | hshutting
  · cases deed with
    | nothing => exact Or.inl hphase
    | advance target =>
      rw [hdeed target rfl, result_advance]
      split
      · exact Or.inr rfl
      · exact Or.inl hphase
    | enter =>
      rw [result_enter]
      split <;> exact Or.inl hphase
    | leave =>
      rw [result_leave]
      exact Or.inl hphase
    | beginDrain cause =>
      rw [result_beginDrain]
      split
      · exact Or.inr rfl
      · exact Or.inl hphase
    | abandon =>
      rw [result_abandon]
      split <;> exact Or.inl hphase
  · exact Or.inr ((deed.precedes_result s).isShuttingDown hshutting)

/-- What is done apart from the calls keeps a cause recorded. -/
theorem IsAside.caused {s : Snapshot} {deed : Deed} (hdeed : deed.IsAside) (h : s.Caused) :
    (deed.result s).Caused :=
  caused_result h deed fun hsame => by cases hdeed .draining hsame

/-- A step forward that may be taken is taken, unless the shutdown has begun. -/
theorem stands_advance {s : Snapshot} {phase : Phase} (h : s.Stands phase) (target : Phase)
    (hcan : phase.canAdvance target = true) : ((advance target).result s).Stands target := by
  rcases h with hphase | hshutting
  · rw [result_advance, hphase, if_pos hcan]
    exact Or.inl rfl
  · exact Or.inr (((advance target).precedes_result s).isShuttingDown hshutting)

/-- What a move does, unless it is a bare step forward, is done aside. -/
theorem Done.isAside {setup : Setup} {move : Move} {w : World} {deed : Deed}
    (hdone : deed.Done setup move w) (hmove : ∀ target, move ≠ .act (.advance target)) :
    deed.IsAside := by
  intro target hdeed
  cases hdone with
  | enter => cases hdeed
  | leave => cases hdeed
  | asked hasked =>
    unfold Move.deed? at hasked
    split at hasked
    · exact absurd rfl (hmove _)
    · cases hasked
      cases hdeed
    · cases hasked
      cases hdeed
    · cases hasked
  | @turned task others effect next _ hcarried hmem hturn hturned =>
    subst hdeed
    generalize task.errand = errand at hturned
    cases hturned with
    | seeIdle hlooks hidle => exact advance.inj (List.mem_singleton.1 hcarried)
    | endWindow hdue => exact advance.inj (List.mem_singleton.1 hcarried)
    | _ => simp [Effect.of] at hcarried

end Deed

namespace World

/-- Worlds with the same core have the same snapshot. -/
theorem snapshot_of_core {w after : World} (h : after.core = w.core) :
    after.snapshot = w.snapshot := by
  rw [← core_snapshot, h, core_snapshot]

/-- A step forward leaves the snapshot that its deed results in. -/
theorem snapshot_advance (policy : WakePolicy) (w : World) (target : Phase) :
    (w.advance policy target).1.snapshot = (Deed.advance target).result w.snapshot := by
  rw [advance_eq]
  rfl

end World

namespace Supervisor

open World

variable {s : Supervisor}

/-- What is done apart from the calls changes the world alone. -/
theorem move_aside {move : SupervisorMove} (haside : move.isAside = true) :
    s.move move = { s with world := (s.move move).world } := by
  cases move with
  | run move => rfl
  | trigger cause => rfl
  | callMarkdown control request =>
    simp only [Supervisor.move, callMarkdown]
    split <;> rfl
  | _ => cases haside

/-- The world after a move aside is one that deeds aside lead to. -/
theorem story_aside {move : SupervisorMove} (haside : move.isAside = true) :
    ∃ deeds : List Deed, (∀ deed ∈ deeds, deed.IsAside)
      ∧ (s.move move).world.story = deeds.foldl Deed.narrate s.world.story := by
  have hone : ∀ deed : Deed, deed.IsAside →
      (s.move move).world.story = deed.narrate s.world.story →
      ∃ deeds : List Deed, (∀ deed ∈ deeds, deed.IsAside)
        ∧ (s.move move).world.story = deeds.foldl Deed.narrate s.world.story :=
    fun deed hdeed hstory => ⟨[deed], List.forall_mem_singleton.2 hdeed, hstory⟩
  cases move with
  | run move =>
    have hmove : ∀ target, move ≠ .act (.advance target) := by
      rintro target rfl
      cases haside
    obtain ⟨deeds, hdone, hstory⟩ := (move_happens s.setup s.world move).story
    exact ⟨deeds, fun deed hmem => (hdone deed hmem).isAside hmove, hstory⟩
  | trigger cause =>
    refine hone (.beginDrain (Cause.orManual cause)) (fun _ h => by cases h) ?_
    have hmoved : (s.move (.trigger cause)).world
        = (s.world.beginDrain s.setup.policy (Cause.orManual cause)).1 := rfl
    rw [hmoved, beginDrain_eq, story_carryOut]
  | callMarkdown control request =>
    have hmoved : (s.move (.callMarkdown control request)).world
        = (s.world.receive { s.setup with site := ⟨control, true, closedSite.delegate⟩ }
          .management request).1 := callMarkdown_world s control request
    obtain ⟨effect, hturned, hcore⟩ := turned_receive
      { s.setup with site := ⟨control, true, closedSite.delegate⟩ } s.world true .management request
    have hdeeds : ∀ deed ∈ effect.deeds, deed.IsAside := by
      intro deed hcarried target hdeed
      subst hdeed
      generalize (s.world.receive _ .management request).2 = next at hturned
      cases hturned <;> simp [Effect.of] at hcarried
    refine ⟨effect.deeds, hdeeds, ?_⟩
    rw [hmoved, ← story_core, hcore, story_apply, story_core]
  | _ => cases haside

/-- What every deed aside preserves survives a move aside. -/
theorem snapshot_aside {move : SupervisorMove} (haside : move.isAside = true) {P : Snapshot → Prop}
    (hdeed : ∀ snapshot (deed : Deed), deed.IsAside → P snapshot → P (deed.result snapshot))
    (hP : P s.world.snapshot) : P (s.move move).world.snapshot := by
  obtain ⟨deeds, haside, hstory⟩ := story_aside (s := s) haside
  have hfold : ∀ story : Snapshot × List Event, P story.1 → P (deeds.foldl Deed.narrate story).1 := by
    clear hstory
    induction deeds with
    | nil => exact fun _ h => h
    | cons deed deeds ih =>
      intro story h
      exact ih (fun other hmem => haside other (List.mem_cons_of_mem _ hmem)) _
        (hdeed story.1 deed (haside deed List.mem_cons_self) h)
  have hsnapshot : (s.move move).world.snapshot = (deeds.foldl Deed.narrate s.world.story).1 :=
    congrArg Prod.fst hstory
  rw [hsnapshot]
  exact hfold _ hP

end Supervisor

end GracefulService
