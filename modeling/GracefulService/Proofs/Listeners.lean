import GracefulService.Proofs.Sessions

/-!
# Those who listen

Whoever listens waits, with a drain of the service itself, until the servers are closed. Nobody cancels that
drain and nobody gives it up, so it either goes on or has ended with the cause of the shutdown.
-/

namespace GracefulService

/-- A drain that closes servers when it is over. -/
def Errand.closes : Errand → Bool
  | awaitShutdown (.close _) | awaitIdle (.close _) _ | readCause (.close _) | closeServers .. => true
  | _ => false

/-- A drain that closes servers goes on with closing them, and ends with a cause. -/
def Next.Closes : Next → Prop
  | .goOn errand => errand.closes = true
  | .finish outcome => ∃ cause, outcome = .stopped cause

/-- Every turn of a drain that closes servers is a step on the way to that. -/
theorem Turned.closes {setup : Setup} {w : World} {looks : Bool} {errand : Errand} {effect : Effect}
    {next : Next} (hturned : Turned setup w looks errand effect next)
    (hcloses : errand.closes = true) : next.Closes := by
  cases hturned with
  | @seeShutdown sequel | @seeIdle sequel | @endWindow sequel =>
    cases sequel with
    | report => cases hcloses
    | close surfaces => exact rfl
  | beginClosing | seeClosed | endGrace => exact rfl
  | endClosing => exact ⟨_, rfl⟩
  | _ => cases hcloses

open World

/-- The drain with a number closes servers, or has done so. -/
def World.Closes (w : World) (serial : Nat) : Prop :=
  (∃ errand, errand.closes = true ∧ w.Runs serial .service errand)
    ∨ ∃ cause, ⟨serial, .service, .stopped cause⟩ ∈ w.finished

/-- Whatever happens, whoever listens waits on, or the service has stopped. -/
theorem Happening.closes {setup : Setup} {move : Move} {w after : World}
    (hhappening : Happening setup move w after) {serial : Nat} (h : w.Closes serial) :
    after.Closes serial := by
  rcases h with ⟨errand, hcloses, hruns⟩ | ⟨cause, hmem⟩
  · cases hhappening.fate hruns with
    | stays hstays => exact Or.inl ⟨errand, hcloses, hstays⟩
    | goesOn hmove hturned hsnapshot hclock hnext =>
      exact Or.inl ⟨_, hturned.closes hcloses, hnext⟩
    | ends hmove hturned hsnapshot hclock hended =>
      obtain ⟨cause, rfl⟩ := hturned.closes hcloses
      exact Or.inr ⟨cause, hended⟩
    | cancelled hmove howner hended => cases howner
    | aborted hserver =>
      cases errand with
      | startServer surface address | serve surface address | finishServer surface => cases hcloses
      | _ => cases hserver
    | _ => cases hcloses
  · exact Or.inr ⟨cause, hhappening.finished hmem⟩

/-- Whatever can happen, a drain that closes servers goes on to do so or has done it. -/
theorem World.Leads.closes {w after : World} (h : w.Leads after) {serial : Nat}
    (hw : w.Closes serial) : after.Closes serial :=
  h.preserves (P := fun w => w.Closes serial)
    (fun _ _ _ _ hhappening hcloses => hhappening.closes hcloses) hw

/-- Serving the surfaces starts a drain that closes the servers; it is the last task that is started. -/
theorem Supervisor.closes_startServing (s : Supervisor) (sockets : Sockets) (site : Site) :
    (s.startServing sockets site).world.Closes
      ((s.startServing sockets site).world.started - 1) :=
  Or.inl ⟨_, rfl, _, List.mem_append_right _ List.mem_cons_self, rfl, rfl, rfl⟩

namespace Session

/-- Everybody who listens waits, or the service has stopped. -/
def AllClose (s : Session) : Prop := ∀ serial ∈ s.listeners, s.supervisor.world.Closes serial

/-- A call adds at most the one who begins to listen to those who do. -/
theorem AllClose.take {s after : Session} (h : s.AllClose) (htakes : s.Takes after) :
    after.AllClose := by
  have hleads := htakes.leads
  have hsame : after.listeners = s.listeners → after.AllClose := by
    intro hlisteners serial hmem
    rw [hlisteners] at hmem
    exact hleads.closes (h serial hmem)
  cases htakes with
  | served =>
    intro serial hmem
    rcases List.mem_append.1 hmem with hearlier | hnew
    · exact hleads.closes (h serial hearlier)
    · rw [List.mem_singleton.1 hnew]
      exact Supervisor.closes_startServing s.supervisor _ _
  | _ => exact hsame rfl

end Session

end GracefulService
