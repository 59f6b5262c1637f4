import GracefulService.Proofs.Admission
import GracefulService.Proofs.FirstCause

/-!
# How requests in flight end

A request in flight stays what it is until one turn decides about it: the delegate has finished by then, and
its answer goes out, or it is still at work and requests have been given up. From the moment on at
which either is the case, no time passes before that turn. A server closes only when no request is in
flight on its surface, and none comes to be in flight there afterwards.
-/

namespace GracefulService

open Http

/-- How a request in flight may go on: as it is, or with a delegate that was told to go on. -/
inductive Exchange.Follows (x : Exchange) : Exchange → Prop where
  | same : x.Follows x
  | released {key : String} {response : Response} (hheld : x.progress = .held key response) :
      x.Follows { x with progress := .done response }

/-- The turn that decides about a request in flight. Requests are given up while the delegate is still at
work; only where both come to the same turn it matters what the gate asks about first. -/
inductive Exchange.Verdict (x : Exchange) (w : World) (serial : Nat) (move : Move) : Outcome → Prop where
  | delegate (hturn : move.isTurnOf serial = true) (hready : x.progress.isReady w.clock = true) :
      x.Verdict w serial move (.answered .delegate (x.send x.progress.yield))
  | abandonment (hturn : move.isTurnOf serial = true) (habandoned : w.snapshot.abandoned = true)
      (hready : x.progress.isReady w.clock = false ∨ move = .preempt serial) :
      x.Verdict w serial move (.answered .abandonment (x.send .unavailable))

namespace Exchange

/-- What follows a request in flight is followed by what follows that. -/
theorem Follows.trans {x y z : Exchange} (hxy : x.Follows y) (hyz : y.Follows z) : x.Follows z := by
  cases hxy with
  | same => exact hyz
  | released hheld =>
    cases hyz with
    | same => exact .released hheld
    | released hdone => cases hdone

/-- A delegate that has finished stays so. -/
theorem Follows.isReady {x y : Exchange} (h : x.Follows y) {clock : Nat}
    (hready : x.progress.isReady clock = true) : y.progress.isReady clock = true := by
  cases h with
  | same => exact hready
  | released hheld => rfl

/-- What a request is answered with does not depend on how long it has been in flight. -/
theorem Follows.send {x y : Exchange} (h : x.Follows y) :
    y.send y.progress.yield = x.send x.progress.yield ∧ y.send .unavailable = x.send .unavailable := by
  cases h with
  | same => exact ⟨rfl, rfl⟩
  | released hheld =>
    refine ⟨?_, rfl⟩
    rw [hheld]
    rfl

/-- The turn that decides about a request answers it as its delegate would have done from the start, or refuses
it. -/
theorem Verdict.answer {x y : Exchange} {w : World} {serial : Nat} {move : Move} {outcome : Outcome}
    (h : y.Verdict w serial move outcome) (hfollows : x.Follows y) :
    outcome = .answered .delegate (x.send x.progress.yield)
      ∨ outcome = .answered .abandonment (x.send .unavailable) := by
  obtain ⟨hyield, hrefusal⟩ := hfollows.send
  cases h with
  | delegate hturn hready => exact Or.inl (congrArg (Outcome.answered .delegate) hyield)
  | abandonment hturn habandoned hready => exact Or.inr (congrArg (Outcome.answered .abandonment) hrefusal)

end Exchange

open World

section Happening

variable {setup : Setup} {move : Move} {w after : World} {serial : Nat} {owner : Owner}

/-- A request in flight goes on, is decided about in its turn, or is cancelled. -/
theorem Happening.verdict (hhappening : Happening setup move w after) {x : Exchange}
    (hruns : w.Runs serial owner (.exchange x)) :
    (∃ y, x.Follows y ∧ after.Runs serial owner (.exchange y))
      ∨ (∃ outcome, x.Verdict w serial move outcome ∧ ⟨serial, owner, outcome⟩ ∈ after.finished)
      ∨ ⟨serial, owner, .cancelled⟩ ∈ after.finished := by
  cases hhappening.fate hruns with
  | stays h => exact Or.inl ⟨x, .same, h⟩
  | released hmove hheld h => exact Or.inl ⟨_, .released hheld, h⟩
  | goesOn hmove hturned hsnapshot hclock h => cases hturned
  | preempted hmove habandoned h =>
    have hturn : move.isTurnOf serial = true := by
      rw [hmove]
      exact decide_eq_true rfl
    exact Or.inr (Or.inl ⟨_, .abandonment hturn habandoned (Or.inr hmove), h⟩)
  | cancelled hmove howner h => exact Or.inr (Or.inr h)
  | aborted hserver => cases hserver
  | ends hmove hturned hsnapshot hclock h =>
    cases hturned with
    | deliver hready => exact Or.inr (Or.inl ⟨_, .delegate hmove hready, h⟩)
    | giveUp hlooks habandoned hready =>
      exact Or.inr (Or.inl ⟨_, .abandonment hmove habandoned (Or.inl hready), h⟩)

/-- No request comes to be in flight unless the service listens, and then on the primary surface. -/
theorem Happening.exchange_before (hhappening : Happening setup move w after) {task : Task}
    (hmem : task ∈ after.tasks) {x : Exchange} (herrand : task.errand = .exchange x) :
    (∃ source ∈ w.tasks, ∃ y, source.errand = .exchange y ∧ y.surface = x.surface)
      ∨ w.snapshot.phase = .listening ∧ x.surface = .primary := by
  cases hhappening.origin hmem with
  | same hsource hresembles => exact Or.inl ⟨_, hsource, x, hresembles.errand.symm.trans herrand, rfl⟩
  | vain hsource hturn htask =>
    rw [htask] at herrand
    exact Or.inl ⟨_, hsource, x, herrand, rfl⟩
  | begun hbegins hlistens =>
    rw [herrand] at hbegins
    cases hbegins
  | released hsource hheld hprogress htask =>
    rw [htask] at herrand
    cases herrand
    exact Or.inl ⟨_, hsource, _, hheld, rfl⟩
  | signalled htask =>
    rw [htask] at herrand
    cases herrand
  | @goesOn source others effect hsource hturned hwoken hsnapshot =>
    rw [herrand] at hturned
    generalize source.errand = errand at hturned
    cases hturned with
    | @letIn surface request identified ticket hrequest hgate hlistening =>
      right
      refine ⟨hlistening, ?_⟩
      cases surface with
      | primary => rfl
      | management => exact absurd hgate (Supervisor.management_ne_gate _ _)

end Happening

namespace World

/-- Servers close after the stop, on surfaces without requests in flight. -/
structure Vacates (w : World) : Prop where
  /-- Requests in flight have come in through the primary surface. -/
  flights : ∀ task ∈ w.tasks, ∀ x, task.errand = .exchange x → x.surface = .primary
  /-- A server that waits for its last connection does so because the service has stopped. -/
  finishing : ∀ task ∈ w.tasks, ∀ surface, task.errand = .finishServer surface → w.snapshot.phase = .stopped
  /-- A server that has closed has left no request in flight. -/
  closed : ∀ ending ∈ w.finished, ∀ surface, ending.outcome = .closed surface →
    w.snapshot.phase = .stopped ∧ ∀ task ∈ w.tasks, ∀ x, task.errand = .exchange x → x.surface ≠ surface

/-- A service that has just been created has neither servers nor requests. -/
theorem vacates_initial (checkup : Option Checkup) : (initial checkup).Vacates where
  flights := List.forall_mem_nil _
  finishing := List.forall_mem_nil _
  closed := List.forall_mem_nil _

variable {setup : Setup} {move : Move} {w after : World}

/-- Whatever happens, servers close after the stop and without requests in flight. -/
theorem Vacates.step (h : w.Vacates) (hhappening : Happening setup move w after) : after.Vacates where
  flights := by
    intro task hmem x herrand
    rcases hhappening.exchange_before hmem herrand with ⟨source, hsource, y, hy, hsurface⟩ | ⟨-, hprimary⟩
    · rw [← hsurface]
      exact h.flights source hsource y hy
    · exact hprimary
  finishing := by
    intro task hmem surface herrand
    have hlater := hhappening.precedes
    cases hhappening.origin hmem with
    | same hsource hresembles =>
      exact hlater.stopped (h.finishing _ hsource surface (hresembles.errand.symm.trans herrand))
    | vain hsource hturn htask =>
      rw [htask] at herrand
      exact hlater.stopped (h.finishing _ hsource surface herrand)
    | begun hbegins hlistens =>
      rw [herrand] at hbegins
      cases hbegins
    | released hsource hheld hprogress htask =>
      rw [htask] at herrand
      cases herrand
    | signalled htask =>
      rw [htask] at herrand
      cases herrand
    | @goesOn source others effect hsource hturned =>
      rw [herrand] at hturned
      generalize source.errand = errand at hturned
      cases hturned with
      | seeStop hlooks hstopped =>
        refine hlater.stopped ?_
        have hreached : w.snapshot.phase.hasReached .stopped = true := hstopped
        cases hphase : w.snapshot.phase <;> rw [hphase] at hreached <;> first | rfl | cases hreached
  closed := by
    intro ending hmem surface houtcome
    have hlater := hhappening.precedes
    -- Once the service has stopped, requests in flight were so before.
    have hvacant : w.snapshot.phase = .stopped →
        (∀ source ∈ w.tasks, ∀ y, source.errand = .exchange y → y.surface ≠ surface) →
        after.snapshot.phase = .stopped
          ∧ ∀ task ∈ after.tasks, ∀ x, task.errand = .exchange x → x.surface ≠ surface := by
      intro hstopped hbefore
      refine ⟨hlater.stopped hstopped, fun task htask x herrand => ?_⟩
      rcases hhappening.exchange_before htask herrand with ⟨source, hsource, y, hy, hsurface⟩ | ⟨hphase, -⟩
      · rw [← hsurface]
        exact hbefore source hsource y hy
      · rw [hstopped] at hphase
        cases hphase
    cases hhappening.endOrigin hmem with
    | same hold =>
      obtain ⟨hstopped, hbefore⟩ := h.closed ending hold surface houtcome
      exact hvacant hstopped hbefore
    | interrupted hwhy =>
      rw [houtcome] at hwhy
      cases hwhy
    | cancelled hcancelled =>
      rw [hcancelled] at houtcome
      cases houtcome
    | @ends source others effect hsource hturned hsnapshot hothers =>
      rw [houtcome] at hturned
      obtain ⟨front, back, hsplit, rfl⟩ := hothers
      generalize herrand : source.errand = errand at hturned
      cases hturned with
      | endServing hidle =>
        refine hvacant (h.finishing source hsource surface herrand) fun other hother y hy hsurface => ?_
        -- The server itself keeps no connection open, so another task would.
        have hbeside : other ∈ front ++ back := by
          rw [hsplit] at hother
          rcases List.mem_append.1 hother with hfront | hrest
          · exact List.mem_append_left _ hfront
          · rcases List.mem_cons.1 hrest with rfl | hback
            · rw [herrand] at hy
              cases hy
            · exact List.mem_append_right _ hback
        have hconnected : hasConnection { w with tasks := front ++ back } surface = true :=
          List.any_eq_true.2 ⟨other, hbeside, by simp [hy, Errand.connection?, hsurface]⟩
        rw [hidle] at hconnected
        cases hconnected

end World

end GracefulService
