import GracefulService.Proofs.Lifecycle

/-!
# The books of a service

Whatever is done to the snapshot of a service is also logged and metered, and none of the three is written from
another one. They agree after every run, since each deed is posted to all of them at once: the gauge shows the
requests in flight, the rejections in the log are counted, and the steps in the log lead from the creation to
the present phase, which is the one that was metered last.
-/

namespace GracefulService

/-! ## Events -/

/-- A request was turned away. -/
def Event.isRejection : Event → Bool
  | requestRejected _ => true
  | _ => false

/-- The step from one phase to another that an event tells of. -/
def Event.transition? : Event → Option (Phase × Phase)
  | phaseChanged source target => some (source, target)
  | drainStarted source _ _ => some (source, .draining)
  | _ => none

/-- The steps that a log tells of, in their order. -/
def transitions (log : List Event) : List (Phase × Phase) := log.filterMap Event.transition?

/-- The transitions in two logs are those of one after the other. -/
theorem transitions_append (earlier later : List Event) :
    transitions (earlier ++ later) = transitions earlier ++ transitions later :=
  List.filterMap_append

/-- An event that tells of no step adds none. -/
theorem transitions_concat_of_none (log : List Event) {event : Event} (h : event.transition? = none) :
    transitions (log ++ [event]) = transitions log := by
  have hnone : transitions [event] = [] := List.filterMap_cons_none h
  rw [transitions_append, hnone, List.append_nil]

namespace World

/-- All rejections are among the events that tell of deeds. -/
theorem countP_isRejection_deeds (w : World) :
    w.deeds.countP Event.isRejection = w.log.countP Event.isRejection := by
  refine w.countP_deeds fun event h => ?_
  cases event <;> first | rfl | cases h

/-- All transitions are among the events that tell of deeds. -/
theorem transitions_deeds (w : World) : transitions w.deeds = transitions w.log := by
  rw [transitions, deeds, List.filterMap_filter]
  refine List.filterMap_congr fun event _ => ?_
  cases event <;> rfl

end World

/-! ## Books -/

/-- Steps lead from one phase to another: each begins where the one before has ended, and goes to a later phase
that may follow. -/
inductive Phase.Leads : Phase → List (Phase × Phase) → Phase → Prop where
  | stay (phase : Phase) : Leads phase [] phase
  | go {source target last : Phase} {later : List (Phase × Phase)} (hfollows : source.Follows target)
      (hlater : Leads target later last) : Leads source ((source, target) :: later) last

/-- A chain of transitions goes on with one more. -/
theorem Phase.Leads.snoc {first source target : Phase} {steps : List (Phase × Phase)}
    (h : first.Leads steps source) (hfollows : source.Follows target) :
    first.Leads (steps ++ [(source, target)]) target := by
  induction h with
  | stay phase => exact .go hfollows (.stay target)
  | go hfirst hlater ih => exact .go hfirst (ih hfollows)

/-- Books that agree with each other. -/
structure Books.Kept (books : Books) : Prop where
  /-- The gauge shows how many requests hold a slot, once one was let in. -/
  inFlight : books.meters.inFlight
    = if books.meters.accepted = 0 then none else some books.snapshot.inFlight
  /-- A request that holds a slot was let in. -/
  accepted : books.snapshot.inFlight ≤ books.meters.accepted
  /-- Requests that are turned away are logged and counted. -/
  rejected : books.meters.rejected = books.events.countP Event.isRejection
  /-- The steps in the log lead from the creation to the present phase. -/
  leads : Phase.created.Leads (transitions books.events) books.snapshot.phase
  /-- The last of them is published. -/
  phase : books.meters.phase = (transitions books.events).getLast?.map fun step => step.2.number

namespace Books

variable {books : Books}

/-- What is logged beside steps and rejections leaves the books in agreement. -/
theorem Kept.remark (h : books.Kept) (s : Snapshot) (events : List Event)
    (htransitions : transitions events = []) (hrejections : events.countP Event.isRejection = 0)
    (hphase : s.phase = books.snapshot.phase) (hinFlight : s.inFlight = books.snapshot.inFlight) :
    Kept ⟨s, books.events ++ events, books.meters⟩ := by
  have hsame : transitions (books.events ++ events) = transitions books.events := by
    rw [transitions_append, htransitions, List.append_nil]
  constructor
  · rw [hinFlight]
    exact h.inFlight
  · rw [hinFlight]
    exact h.accepted
  · rw [List.countP_append, hrejections]
    exact h.rejected
  · rw [hsame, hphase]
    exact h.leads
  · rw [hsame]
    exact h.phase

/-- A step that is logged and published leaves the books in agreement. -/
theorem Kept.go (h : books.Kept) (s : Snapshot) (event : Event) {target : Phase}
    (hfollows : books.snapshot.phase.Follows target)
    (htransition : event.transition? = some (books.snapshot.phase, target))
    (hrejection : event.isRejection = false) (hphase : s.phase = target)
    (hinFlight : s.inFlight = books.snapshot.inFlight) :
    Kept ⟨s, books.events ++ [event], { books.meters with phase := some target.number }⟩ := by
  have hlonger : transitions (books.events ++ [event])
      = transitions books.events ++ [(books.snapshot.phase, target)] := by
    have hone : transitions [event] = [(books.snapshot.phase, target)] :=
      List.filterMap_cons_some htransition
    rw [transitions_append, hone]
  constructor
  · rw [hinFlight]
    exact h.inFlight
  · rw [hinFlight]
    exact h.accepted
  · rw [List.countP_append, List.countP_singleton, hrejection]
    exact h.rejected
  · rw [hlonger, hphase]
    exact h.leads.snoc hfollows
  · rw [hlonger, List.getLast?_concat]
    rfl

/-- A request that asks for a slot is counted with the ones that were let in, or logged and counted with the
others. -/
theorem Kept.enter (h : books.Kept) : (Deed.enter.post books).Kept := by
  by_cases hlistening : books.snapshot.phase = .listening
  · have hpost : Deed.enter.post books
        = ⟨{ books.snapshot with inFlight := books.snapshot.inFlight + 1 }, books.events,
          { books.meters with
            inFlight := some (books.snapshot.inFlight + 1)
            accepted := books.meters.accepted + 1 }⟩ := by
      simp [Deed.post, Deed.result, Deed.change, Deed.events, Deed.readings, Snapshot.enter,
        Phase.acceptsRequests, hlistening, Meters.record]
    rw [hpost]
    exact ⟨rfl, Nat.succ_le_succ h.accepted, h.rejected, h.leads, h.phase⟩
  · have hpost : Deed.enter.post books
        = ⟨books.snapshot, books.events ++ [.requestRejected books.snapshot.phase],
          { books.meters with rejected := books.meters.rejected + 1 }⟩ := by
      simp [Deed.post, Deed.result, Deed.change, Deed.events, Deed.readings, Snapshot.enter,
        Phase.acceptsRequests, hlistening, Meters.record]
    have htransitions : transitions (books.events ++ [.requestRejected books.snapshot.phase])
        = transitions books.events := transitions_concat_of_none _ rfl
    have hrejections : (books.events ++ [Event.requestRejected books.snapshot.phase]).countP
        Event.isRejection = books.meters.rejected + 1 := by
      rw [List.countP_append, ← h.rejected]
      rfl
    rw [hpost]
    constructor
    · exact h.inFlight
    · exact h.accepted
    · exact hrejections.symm
    · rw [htransitions]
      exact h.leads
    · rw [htransitions]
      exact h.phase

/-- A slot that is given back is logged, and the gauge shows one less. -/
theorem Kept.leave (h : books.Kept) : (Deed.leave.post books).Kept := by
  have haccepted := h.accepted
  cases hinFlight : books.snapshot.inFlight with
  | zero =>
    have hremarked := h.remark books.snapshot [.slotMissing, .slotReleased] rfl rfl rfl rfl
    simpa [Deed.post, Deed.result, Deed.change, Deed.events, Deed.readings, Snapshot.leave, hinFlight]
      using hremarked
  | succ n =>
    have hpost : Deed.leave.post books
        = ⟨{ books.snapshot with inFlight := n }, books.events ++ [.slotReleased],
          { books.meters with inFlight := some n }⟩ := by
      simp [Deed.post, Deed.result, Deed.change, Deed.events, Deed.readings, Snapshot.leave, hinFlight,
        Meters.record]
    have hsome : books.meters.accepted ≠ 0 := by omega
    have htransitions : transitions (books.events ++ [.slotReleased]) = transitions books.events :=
      transitions_concat_of_none _ rfl
    rw [hpost]
    constructor
    · exact (if_neg hsome).symm
    · have hless : n ≤ books.meters.accepted := by omega
      exact hless
    · rw [List.countP_append]
      exact h.rejected
    · rw [htransitions]
      exact h.leads
    · rw [htransitions]
      exact h.phase

/-- Every deed leaves the books in agreement. -/
theorem Kept.post (h : books.Kept) (deed : Deed) : (deed.post books).Kept := by
  cases deed with
  | nothing =>
    have hsame : Deed.nothing.post books = books := by
      simp [Deed.post, Deed.events, Deed.readings]
    rw [hsame]
    exact h
  | advance target =>
    cases hcan : books.snapshot.phase.canAdvance target with
    | false =>
      have hsame : (Deed.advance target).post books = books := by
        simp [Deed.post, Deed.result, Deed.change, Deed.events, Deed.readings, Snapshot.advance, hcan]
      rw [hsame]
      exact h
    | true =>
      have hfollows := (Phase.canAdvance_iff_follows _ _).1 hcan
      have hgone := h.go { books.snapshot with phase := target }
        (.phaseChanged books.snapshot.phase target) hfollows rfl rfl rfl rfl
      simpa [Deed.post, Deed.result, Deed.change, Deed.events, Deed.readings, Snapshot.advance, hcan,
        Meters.record] using hgone
  | beginDrain cause =>
    cases hcan : books.snapshot.phase.canAdvance .draining with
    | false =>
      have hremarked := h.remark books.snapshot [.shutdownIgnored books.snapshot.phase] rfl rfl rfl rfl
      simpa [Deed.post, Deed.result, Deed.change, Deed.events, Deed.readings, Snapshot.beginDrain, hcan]
        using hremarked
    | true =>
      have hfollows := (Phase.canAdvance_iff_follows _ _).1 hcan
      have hgone := h.go { books.snapshot with phase := .draining, cause := some cause }
        (.drainStarted books.snapshot.phase books.snapshot.inFlight cause) hfollows rfl rfl rfl rfl
      simpa [Deed.post, Deed.result, Deed.change, Deed.events, Deed.readings, Snapshot.beginDrain, hcan,
        Meters.record] using hgone
  | abandon =>
    by_cases hready : books.snapshot.phase = .stopped ∧ books.snapshot.abandoned = false
    · have hremarked := h.remark { books.snapshot with abandoned := true }
        [.abandoning books.snapshot.inFlight] rfl rfl rfl rfl
      simpa [Deed.post, Deed.result, Deed.change, Deed.events, Deed.readings, Snapshot.abandon, hready]
        using hremarked
    · have hsame : Deed.abandon.post books = books := by
        simp [Deed.post, Deed.result, Deed.change, Deed.events, Deed.readings, Snapshot.abandon, hready]
      rw [hsame]
      exact h
  | enter => exact h.enter
  | leave => exact h.leave

end Books

namespace World

/-- The books of a service that has just been created are kept. -/
theorem kept_initial (checkup : Option Checkup) : (initial checkup).books.Kept :=
  ⟨rfl, Nat.le_refl _, rfl, .stay _, rfl⟩

/-- In every run the books agree with each other. -/
theorem kept_run {setup : Setup} {w : World} (h : w.books.Kept) (moves : List Move) :
    (w.run setup moves).books.Kept :=
  run_induction setup w (P := fun after => after.books.Kept) moves
    (fun _ _ _ _ hhappening hkept => hhappening.preserves_books (fun _ deed h => h.post deed) hkept) h

end World

end GracefulService
