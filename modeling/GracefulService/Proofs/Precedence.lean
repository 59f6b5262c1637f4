import GracefulService.Proofs.Moves

/-!
# Earlier and later snapshots

The snapshot of a running service changes by deeds alone, and each of them is in the log. Deeds never go
back: phases only advance, and once the shutdown has begun no slot is taken any more, the cause stays, and
what has been given up stays given up.
-/

namespace GracefulService

/-- What a service has on record: its snapshot, the events that tell how it came about, and the meters. -/
structure Books where
  /-- What all parts know about the state. -/
  snapshot : Snapshot
  /-- The events that tell of deeds. -/
  events : List Event
  /-- The recorded numbers. -/
  meters : Meters

/-- The records of a world. The answers of probes are recorded elsewhere: no deed counts them. -/
def World.books (w : World) : Books := ⟨w.snapshot, w.deeds, { w.meters with probes := [] }⟩

/-- A deed is recorded. -/
def Deed.post (books : Books) (deed : Deed) : Books where
  snapshot := deed.result books.snapshot
  events := books.events ++ deed.events books.snapshot
  meters := (deed.readings books.snapshot).foldl Meters.record books.meters

/-- The snapshot of a world, and the events that tell how it came about. -/
def World.story (w : World) : Snapshot × List Event := (w.snapshot, w.deeds)

/-- A deed carries a story on. -/
def Deed.narrate (story : Snapshot × List Event) (deed : Deed) : Snapshot × List Event :=
  (deed.result story.1, story.2 ++ deed.events story.1)

/-- The records tell a story. -/
def Books.story (books : Books) : Snapshot × List Event := (books.snapshot, books.events)

namespace World

/-- The books are those of the core. -/
theorem books_core (w : World) : w.core.books = w.books := by
  simp only [books, core_snapshot, core_deeds]
  rfl

/-- A deed that is carried out is posted in the books. -/
theorem books_carryOut (policy : WakePolicy) (w : World) (deed : Deed) :
    (w.carryOut policy deed).books = deed.post w.books := by
  have hevents := deeds_carryOut w policy deed
  have hmeters : { (w.carryOut policy deed).meters with probes := [] }
      = (deed.readings w.snapshot).foldl Meters.record { w.meters with probes := [] } :=
    congrArg meters (core_carryOut w policy deed)
  simp only [books, hevents, hmeters]
  rfl

/-- Deeds are recorded one after the other. -/
theorem books_carryOutAll (policy : WakePolicy) (w : World) (deeds : List Deed) :
    (w.carryOutAll policy deeds).books = deeds.foldl Deed.post w.books := by
  induction deeds generalizing w with
  | nil => rfl
  | cons deed deeds ih =>
    have hlater := ih (w.carryOut policy deed)
    rw [books_carryOut] at hlater
    exact hlater

/-- What a turn does is posted in the books, deed by deed. -/
theorem books_apply (policy : WakePolicy) (w : World) (effect : Effect) :
    (effect.apply policy w).books = effect.deeds.foldl Deed.post w.books :=
  books_carryOutAll policy w effect.deeds

/-- Keeping a slot under an id may give another one back. -/
theorem books_keepGuard (policy : WakePolicy) (w : World) (id : String) :
    (w.keepGuard policy id).books = w.books
      ∨ (w.keepGuard policy id).books = Deed.leave.post w.books := by
  have hkept : (w.keepGuard policy id).books = (w.leaveGuard policy id).1.books := rfl
  rw [hkept]
  unfold leaveGuard
  split
  · right
    rw [release_eq, books_carryOut]
    rfl
  · exact Or.inl rfl

/-- The story is that of the core. -/
theorem story_core (w : World) : w.core.story = w.story := congrArg Books.story (books_core w)

/-- A deed that is carried out goes into the story. -/
theorem story_carryOut (policy : WakePolicy) (w : World) (deed : Deed) :
    (w.carryOut policy deed).story = deed.narrate w.story :=
  congrArg Books.story (books_carryOut policy w deed)

/-- Deeds recorded one after the other carry the story on one after the other. -/
theorem story_foldl_post (books : Books) (deeds : List Deed) :
    (deeds.foldl Deed.post books).story = deeds.foldl Deed.narrate books.story :=
  (List.foldl_hom Books.story fun _ _ => rfl).symm

/-- What a turn does goes into the story, deed by deed. -/
theorem story_apply (policy : WakePolicy) (w : World) (effect : Effect) :
    (effect.apply policy w).story = effect.deeds.foldl Deed.narrate w.story := by
  have hbooks := congrArg Books.story (books_apply policy w effect)
  rw [story_foldl_post] at hbooks
  exact hbooks

/-- A slot that is kept tells nothing new, or that another one was given back. -/
theorem story_keepGuard (policy : WakePolicy) (w : World) (id : String) :
    (w.keepGuard policy id).story = w.story
      ∨ (w.keepGuard policy id).story = Deed.leave.narrate w.story :=
  (books_keepGuard policy w id).imp (congrArg Books.story) (congrArg Books.story)

end World

open World

/-- A deed that a move can do: slots are taken and given back, a caller does what it says, or a task does
what its turn brings. -/
inductive Deed.Done (setup : Setup) (move : Move) (w : World) : Deed → Prop where
  | enter : Done setup move w .enter
  | leave : Done setup move w .leave
  | asked {deed : Deed} (hmove : move.deed? = some deed) : Done setup move w deed
  | turned {task : Task} {others : List Task} {effect : Effect} {next : Next} {deed : Deed}
      (hdeed : deed ∈ effect.deeds) (hmem : task ∈ w.tasks) (hmove : move.isTurnOf task.serial = true)
      (hturned : Turned setup { w with tasks := others } task.looks task.errand effect next)
      (hothers : ∃ front back, w.tasks = front ++ task :: back ∧ others = front ++ back) :
      Done setup move w deed

/-- Whatever happens is recorded as deeds that the move can do. -/
theorem Happening.books {setup : Setup} {move : Move} {w after : World}
    (hhappening : Happening setup move w after) :
    ∃ deeds : List Deed, (∀ deed ∈ deeds, deed.Done setup move w)
      ∧ after.books = deeds.foldl Deed.post w.books := by
  have hall : ∀ deeds : List Deed, (∀ deed ∈ deeds, deed.Done setup move w) →
      after.core.books = deeds.foldl Deed.post w.core.books → ∃ deeds : List Deed,
      (∀ deed ∈ deeds, deed.Done setup move w) ∧ after.books = deeds.foldl Deed.post w.books := by
    intro deeds hdone h
    rw [books_core, books_core] at h
    exact ⟨deeds, hdone, h⟩
  have hone : ∀ deed : Deed, deed.Done setup move w →
      after.core.books = deed.post w.core.books → ∃ deeds : List Deed,
      (∀ deed ∈ deeds, deed.Done setup move w) ∧ after.books = deeds.foldl Deed.post w.books :=
    fun deed hdone h => hall [deed] (List.forall_mem_singleton.2 hdone) h
  cases hhappening with
  | deed hmove h => exact hone _ (.asked hmove) (h ▸ books_carryOut _ _ _)
  | refuse hphase h => exact hone _ .enter (h ▸ books_carryOut _ _ _)
  | @keep id hphase h =>
    have hentered := books_carryOut setup.policy w.core .enter
    rcases books_keepGuard setup.policy (w.core.carryOut setup.policy .enter) id with hkept | hkept
    · exact hone .enter .enter (by rw [h, hkept, hentered])
    · exact hall [.enter, .leave] (by simp [Deed.Done.enter, Deed.Done.leave])
        (by rw [h, hkept, hentered]; rfl)
  | drop hheld h => exact hone _ .leave (h ▸ books_carryOut _ _ _)
  | @interrupt front back task x outcome hsplit herrand hwhy h =>
    have hleft := books_carryOut setup.policy { w.core with tasks := front ++ back } .leave
    exact hone .leave .leave (by rw [h]; exact hleft)
  | @goOn front back task effect errand hmove hsplit hturned h =>
    have happlied := books_apply setup.policy { w.core with tasks := front ++ back } effect
    exact hall effect.deeds
      (fun _ hdeed => .turned hdeed (mem_of_split hsplit) hmove hturned ⟨front, back, hsplit, rfl⟩)
      (by rw [h]; exact happlied)
  | @finish front back task effect outcome hmove hsplit hturned h =>
    have happlied := books_apply setup.policy { w.core with tasks := front ++ back } effect
    exact hall effect.deeds
      (fun _ hdeed => .turned hdeed (mem_of_split hsplit) hmove hturned ⟨front, back, hsplit, rfl⟩)
      (by rw [h]; exact happlied)
  | idle h | start _ h | cancel _ _ _ _ h | vain _ _ h | tick _ _ h | ring _ h | release _ h
  | signal _ h =>
    exact hall [] (List.forall_mem_nil _) ((congrArg World.books h).trans rfl)

/-- Whatever happens carries the story on by deeds that the move can do. -/
theorem Happening.story {setup : Setup} {move : Move} {w after : World}
    (hhappening : Happening setup move w after) :
    ∃ deeds : List Deed, (∀ deed ∈ deeds, deed.Done setup move w)
      ∧ after.story = deeds.foldl Deed.narrate w.story := by
  obtain ⟨deeds, hdone, hbooks⟩ := hhappening.books
  exact ⟨deeds, hdone, (congrArg Books.story hbooks).trans (story_foldl_post w.books deeds)⟩

/-- What every recorded deed preserves, whatever happens preserves. -/
theorem Happening.preserves_books {setup : Setup} {move : Move} {w after : World}
    (hhappening : Happening setup move w after) {P : Books → Prop}
    (hdeed : ∀ books deed, P books → P (Deed.post books deed)) (hP : P w.books) : P after.books := by
  obtain ⟨deeds, -, hbooks⟩ := hhappening.books
  rw [hbooks]
  clear hbooks hhappening
  generalize w.books = books at hP ⊢
  induction deeds generalizing books with
  | nil => exact hP
  | cons deed deeds ih => exact ih _ (hdeed books deed hP)

/-- What every deed preserves, whatever happens preserves. -/
theorem Happening.preserves_story {setup : Setup} {move : Move} {w after : World}
    (hhappening : Happening setup move w after) {P : Snapshot × List Event → Prop}
    (hdeed : ∀ story deed, P story → P (Deed.narrate story deed)) (hP : P w.story) :
    P after.story :=
  hhappening.preserves_books (P := fun books => P books.story)
    (fun books deed => hdeed books.story deed) hP

/-- One snapshot of a service comes before another. -/
structure Snapshot.Precedes (a b : Snapshot) : Prop where
  /-- The service does not go back. -/
  phase : a.phase.number ≤ b.phase.number
  /-- No slot is taken once the shutdown has begun. -/
  inFlight : a.phase.isShuttingDown = true → b.inFlight ≤ a.inFlight
  /-- The cause of the shutdown stays. -/
  cause : a.phase.isShuttingDown = true → b.cause = a.cause
  /-- What has been given up stays given up. -/
  abandoned : a.abandoned = true → b.abandoned = true

namespace Snapshot

/-- A snapshot precedes itself. -/
theorem Precedes.refl (s : Snapshot) : s.Precedes s :=
  ⟨Nat.le_refl _, fun _ => Nat.le_refl _, fun _ => rfl, id⟩

/-- A service that shuts down goes on doing so. -/
theorem Precedes.isShuttingDown {a b : Snapshot} (h : a.Precedes b)
    (hshutting : a.phase.isShuttingDown = true) : b.phase.isShuttingDown = true := by
  have hphase := h.phase
  simp only [Phase.isShuttingDown, decide_eq_true_eq] at hshutting ⊢
  omega

/-- A service that has stopped stays stopped. -/
theorem Precedes.stopped {a b : Snapshot} (h : a.Precedes b) (hstopped : a.phase = .stopped) :
    b.phase = .stopped := by
  have hphase := h.phase
  rw [hstopped] at hphase
  cases hb : b.phase <;> simp_all [Phase.number]

/-- What precedes a snapshot precedes those that it precedes. -/
theorem Precedes.trans {a b c : Snapshot} (hab : a.Precedes b) (hbc : b.Precedes c) :
    a.Precedes c := by
  constructor
  · exact Nat.le_trans hab.phase hbc.phase
  · intro hshutting
    exact Nat.le_trans (hbc.inFlight (hab.isShuttingDown hshutting)) (hab.inFlight hshutting)
  · intro hshutting
    rw [hbc.cause (hab.isShuttingDown hshutting), hab.cause hshutting]
  · intro habandoned
    exact hbc.abandoned (hab.abandoned habandoned)

/-- A snapshot that a service can have: there is a cause only for a shutdown that has begun, and
requests are given up only after the stop. -/
structure Sound (s : Snapshot) : Prop where
  /-- A cause belongs to a shutdown. -/
  cause : s.cause ≠ none → s.phase.isShuttingDown = true
  /-- Requests are given up after the stop. -/
  abandoned : s.abandoned = true → s.phase = .stopped

/-- The first snapshot is sound. -/
theorem sound_initial : Sound .initial := ⟨fun h => absurd rfl h, fun h => by cases h⟩

end Snapshot

namespace Deed

/-- A step forward is a step to a later phase. -/
theorem number_lt_of_canAdvance {phase target : Phase} (h : phase.canAdvance target = true) :
    phase.number < target.number := by
  cases phase <;> cases target <;> simp_all [Phase.canAdvance, Phase.number]

/-- A phase from which the shutdown can begin is not one of the shutdown. -/
theorem canAdvance_draining (phase : Phase) :
    phase.canAdvance .draining = !phase.isShuttingDown := by
  cases phase <;> rfl

/-- A deed does not go back. -/
theorem precedes_result (s : Snapshot) (deed : Deed) : s.Precedes (deed.result s) := by
  cases deed with
  | nothing => exact .refl s
  | advance target =>
    rw [result_advance]
    split
    · rename_i hcan
      exact ⟨Nat.le_of_lt (number_lt_of_canAdvance hcan), fun _ => Nat.le_refl _, fun _ => rfl, id⟩
    · exact .refl s
  | enter =>
    rw [result_enter]
    split
    · rename_i hlistening
      refine ⟨Nat.le_refl _, fun hshutting => ?_, fun _ => rfl, id⟩
      rw [hlistening] at hshutting
      cases hshutting
    · exact .refl s
  | leave =>
    rw [result_leave]
    exact ⟨Nat.le_refl _, fun _ => Nat.sub_le _ _, fun _ => rfl, id⟩
  | beginDrain cause =>
    rw [result_beginDrain]
    split
    · rename_i hcan
      refine ⟨Nat.le_of_lt (number_lt_of_canAdvance hcan), fun _ => Nat.le_refl _, ?_, id⟩
      intro hshutting
      rw [canAdvance_draining, hshutting] at hcan
      cases hcan
    · exact .refl s
  | abandon =>
    rw [result_abandon]
    split
    · exact ⟨Nat.le_refl _, fun _ => Nat.le_refl _, fun _ => rfl, fun _ => rfl⟩
    · exact .refl s

/-- From a phase of the shutdown a step to the stop leads there. -/
theorem stopped_of_advance {s : Snapshot} (hshutting : s.phase.isShuttingDown = true) :
    ((advance .stopped).result s).phase = .stopped
      ∧ ((advance .stopped).result s).inFlight = s.inFlight := by
  rw [result_advance]
  cases hphase : s.phase with
  | draining => exact ⟨rfl, rfl⟩
  | stopped => exact ⟨hphase, rfl⟩
  | _ =>
    rw [hphase] at hshutting
    cases hshutting

/-- A cause comes with the beginning of the shutdown only. -/
theorem cause_result_of_open {s : Snapshot} {deed : Deed} (hcause : s.cause = none)
    (hresult : (deed.result s).cause ≠ none) : ∃ cause, deed = beginDrain cause
      ∧ s.phase.isShuttingDown = false := by
  cases deed with
  | nothing => exact absurd hcause hresult
  | advance target => rw [result_advance] at hresult; split at hresult <;> contradiction
  | enter => rw [result_enter] at hresult; split at hresult <;> contradiction
  | leave => rw [result_leave] at hresult; contradiction
  | abandon => rw [result_abandon] at hresult; split at hresult <;> contradiction
  | beginDrain cause =>
    refine ⟨cause, rfl, ?_⟩
    rw [result_beginDrain] at hresult
    split at hresult
    · rename_i hcan
      simpa [canAdvance_draining] using hcan
    · contradiction

/-- Requests are given up by abandonment only. -/
theorem abandoned_result_of_not {s : Snapshot} {deed : Deed} (habandoned : s.abandoned = false)
    (hresult : (deed.result s).abandoned = true) : deed = abandon ∧ s.phase = .stopped := by
  cases deed with
  | nothing => simp_all
  | advance target => rw [result_advance] at hresult; split at hresult <;> simp_all
  | enter => rw [result_enter] at hresult; split at hresult <;> simp_all
  | leave => rw [result_leave] at hresult; simp_all
  | beginDrain cause => rw [result_beginDrain] at hresult; split at hresult <;> simp_all
  | abandon =>
    rw [result_abandon] at hresult
    split at hresult
    · rename_i hstopped
      exact ⟨rfl, hstopped.1⟩
    · simp_all

/-- A deed leaves a snapshot that a service can have. -/
theorem sound_result {s : Snapshot} (h : s.Sound) (deed : Deed) : (deed.result s).Sound := by
  have hprecedes := precedes_result s deed
  constructor
  · intro hresult
    by_cases hcause : s.cause = none
    · obtain ⟨cause, rfl, hopen⟩ := cause_result_of_open hcause hresult
      rw [result_beginDrain, canAdvance_draining, hopen]
      rfl
    · exact hprecedes.isShuttingDown (h.cause hcause)
  · intro hresult
    cases habandoned : s.abandoned with
    | false => exact hprecedes.stopped (abandoned_result_of_not habandoned hresult).2
    | true => exact hprecedes.stopped (h.abandoned habandoned)

end Deed

/-- Nothing that happens goes back. -/
theorem Happening.precedes {setup : Setup} {move : Move} {w after : World}
    (hhappening : Happening setup move w after) : w.snapshot.Precedes after.snapshot :=
  hhappening.preserves_story (P := fun story => w.snapshot.Precedes story.1)
    (fun story deed h => h.trans (deed.precedes_result story.1)) (.refl _)

namespace World

/-- No run goes back. -/
theorem precedes_run (setup : Setup) (w : World) (moves : List Move) :
    w.snapshot.Precedes (w.run setup moves).snapshot :=
  run_induction setup w (P := fun after => w.snapshot.Precedes after.snapshot) moves
    (fun _ _ _ _ hhappening h => h.trans hhappening.precedes) (.refl _)

/-- In every run the snapshot is one that a service can have. -/
theorem sound_run {setup : Setup} {w : World} (h : w.snapshot.Sound) (moves : List Move) :
    (w.run setup moves).snapshot.Sound :=
  run_induction setup w (P := fun after => after.snapshot.Sound) moves
    (fun _ _ _ _ hhappening hsound => hhappening.preserves_story (P := fun story => story.1.Sound)
      (fun _ deed hs => Deed.sound_result hs deed) hsound) h

end World

end GracefulService
