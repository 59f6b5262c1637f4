import GracefulService.Serve.Effort

/-!
# The virtual clock

Tasks take turns until every one of them waits; only then does time pass, from one awaited moment to
the next.
-/

namespace GracefulService

namespace World

/-- Tasks take turns until every one of them waits. -/
def settle (setup : Setup) (w : World) : World :=
  match _h : w.step? setup with
  | none => w
  | some after => settle setup after
termination_by w.effort
decreasing_by exact step?_effort _h

/-- The earlier of two timers; of two for the same moment the one that was set first. -/
def earlier (a b : Timer) : Timer :=
  if b.deadline < a.deadline ∨ (b.deadline = a.deadline ∧ b.ticket < a.ticket) then b else a

/-- The first timer that goes off up to a moment. -/
def nextTimer? (w : World) (moment : Nat) : Option Timer :=
  (w.tasks.filterMap fun task => task.errand.timer?).foldl (fun held timer =>
    if moment < timer.deadline then held
    else some ((held.map fun other => earlier other timer).getD timer)) none

/-- A moment has come. -/
def fire (w : World) (timer : Timer) : World :=
  { w with
    clock := max w.clock timer.deadline
    tasks := w.tasks.map (Task.noticeTime timer) }

/-- Time passes from one awaited moment to the next, at most as often as `fuel` says. -/
def elapseFrom (setup : Setup) (moment : Nat) : (fuel : Nat) → World → World
  | 0, w => { w with clock := max w.clock moment }
  | fuel + 1, w =>
    match w.nextTimer? moment with
    | none => { w with clock := max w.clock moment }
    | some timer => elapseFrom setup moment fuel ((w.fire timer).settle setup)

/-- Time passes up to a moment. Every moment that a task waits for ends one of its stages. -/
def elapse (setup : Setup) (moment : Nat) (w : World) : World :=
  elapseFrom setup moment (stagesLeft w.tasks) w

end World

end GracefulService
