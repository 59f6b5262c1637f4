import GracefulService.Proofs.Listeners

/-!
# One caller at a time

As long as no opening overlaps another one or the beginning of listening, the bound surfaces are always in
one place: with the opening that is under way, published and not yet taken, or with the one caller who
has taken them. Where they are goes along with the phase, unless the shutdown has begun, and says what
callers have been told. Requests for the shutdown may come at any time.
-/

namespace GracefulService

/-- Where the bound surfaces are. -/
inductive Custody where
  /-- There are none. -/
  | closed
  /-- An opening has to bind them. -/
  | binding
  /-- An opening holds them and has to move the phase on. -/
  | committing (sockets : Sockets)
  /-- An opening holds them and has to publish them. -/
  | publishing (sockets : Sockets)
  /-- They wait to be served. -/
  | opened (sockets : Sockets)
  /-- They have been taken, and requests have to be let in. -/
  | admitting (sockets : Sockets)
  /-- They have been taken, and the servers have to be started. -/
  | starting (sockets : Sockets)
  /-- They are lost, since the control routes cannot be built. -/
  | broken (sockets : Sockets)
  /-- They are served until the drain with a number is over. -/
  | serving (serial : Nat) (sockets : Sockets)

namespace Custody

/-- The phase that goes along, unless the shutdown has begun. -/
def phase : Custody → Phase
  | closed | binding | committing _ => .created
  | publishing _ | opened _ | admitting _ => .opened
  | starting _ | broken _ | serving .. => .listening

/-- The openings that are under way. -/
def openings : Custody → List Opening
  | binding => [.bind]
  | committing sockets => [.commit sockets]
  | publishing sockets => [.publish sockets]
  | _ => []

/-- Those who have taken the surfaces and do not serve them yet. -/
def beginnings : Custody → List Beginning
  | admitting sockets => [.letIn sockets]
  | starting sockets => [.serve sockets]
  | _ => []

/-- Those who listen. -/
def listeners : Custody → List Nat
  | serving serial _ => [serial]
  | _ => []

/-- The surfaces that wait to be served. -/
def waiting : Custody → Option Sockets
  | opened sockets => some sockets
  | _ => none

/-- The surfaces whose addresses are published. -/
def published : Custody → Option Sockets
  | opened sockets | admitting sockets | starting sockets | broken sockets | serving _ sockets =>
    some sockets
  | _ => none

/-- The surfaces that are bound, or have been. -/
def bound : Custody → Option Sockets
  | committing sockets | publishing sockets => some sockets
  | custody => custody.published

/-- How many openings have succeeded. -/
def opens : Custody → Nat
  | closed | binding | committing _ | publishing _ => 0
  | _ => 1

/-- How many callers have taken the surfaces. -/
def takes : Custody → Nat
  | admitting _ | starting _ | broken _ | serving .. => 1
  | _ => 0

/-- The surfaces of a session are where `custody` says, and everything goes along. -/
structure Describes (config : Config) (custody : Custody) (s : Session) : Prop where
  configured : s.supervisor.config = config
  stands : s.supervisor.world.snapshot.Stands custody.phase
  caused : s.supervisor.world.snapshot.Caused
  openings : s.openings = custody.openings
  beginnings : s.beginnings = custody.beginnings
  listeners : s.listeners = custody.listeners
  waiting : s.supervisor.sockets = custody.waiting
  primary : s.supervisor.primaryAddress = custody.published.map Sockets.primary
  management : s.supervisor.managementAddress = custody.published.bind Sockets.management
  fits : ∀ sockets, custody.bound = some sockets →
    sockets.management.isSome = config.management.isSome
  opens : s.told.count .opened = custody.opens
  takes : s.told.countP Reply.isTaken = custody.takes
  serves : s.told.count .serving = custody.listeners.length

end Custody

namespace Session

/-- A call may come now: opening and listening begin only when no opening is under way. -/
def admits (s : Session) : Call → Bool
  | .openService | .listen => s.openings.isEmpty
  | _ => true

/-- A call takes its next part, unless it comes at the wrong time. -/
def attend (s : Session) (call : Call) : Session := if s.admits call then s.take call else s

/-- A session goes on, call by call, with one caller at a time. -/
def runInTurn (s : Session) (calls : List Call) : Session := calls.foldl attend s

end Session

namespace Custody

open World

/-- A service that has just been created has no surfaces. -/
theorem describes_create (config : Config) (machine : Machine) (checkup : Option Checkup) :
    closed.Describes config (Session.create config machine checkup) where
  configured := rfl
  stands := Or.inl rfl
  caused := fun h => by cases h
  openings := rfl
  beginnings := rfl
  listeners := rfl
  waiting := rfl
  primary := rfl
  management := rfl
  fits := fun _ h => by cases h
  opens := rfl
  takes := rfl
  serves := rfl

section Steps

variable {config : Config} {custody : Custody} {s : Session}

/-- A reply that is no success leaves the surfaces where they are. -/
theorem Describes.tell (h : custody.Describes config s) (reply : Reply)
    (hopened : reply ≠ .opened) (htaken : reply.isTaken = false)
    (hserving : reply ≠ .serving) :
    custody.Describes config { s with told := s.told ++ [reply] } :=
  { h with
    opens := by
      have hnone : [reply].count .opened = 0 := by simp [hopened]
      rw [List.count_append, hnone, h.opens, Nat.add_zero]
    takes := by
      have hnone : [reply].countP Reply.isTaken = 0 := by simp [htaken]
      rw [List.countP_append, hnone, h.takes, Nat.add_zero]
    serves := by
      have hnone : [reply].count .serving = 0 := by simp [hserving]
      rw [List.count_append, hnone, h.serves, Nat.add_zero] }

/-- What happens to the world apart from the calls leaves the surfaces where they are. -/
theorem Describes.aside (h : custody.Describes config s) {move : SupervisorMove}
    (haside : move.isAside = true) :
    custody.Describes config { s with supervisor := s.supervisor.move move } := by
  rw [Supervisor.move_aside haside]
  exact { h with
    stands := Supervisor.snapshot_aside haside
      (P := fun snapshot => snapshot.Stands custody.phase)
      (fun _ _ hdeed hstands => hdeed.stands hstands) h.stands
    caused := Supervisor.snapshot_aside haside (P := Snapshot.Caused)
      (fun _ _ hdeed hcaused => hdeed.caused hcaused) h.caused }

/-- Published surfaces stay published. -/
def Keeps (custody next : Custody) : Prop :=
  ∀ sockets, custody.published = some sockets → next.published = some sockets

/-- Whoever opens a service that has just been created goes on to bind its surfaces; anybody else fails. -/
theorem Describes.openService (h : custody.Describes config s) (hopenings : s.openings = []) :
    ∃ next : Custody, next.Describes config (s.take .openService) ∧ custody.Keeps next := by
  have hdone := Supervisor.stageDone s.supervisor s.supervisor.machine.bind .check
  simp only [Session.take, Session.takeStage]
  generalize s.supervisor.openStage s.supervisor.machine.bind .check = done at hdone ⊢
  obtain ⟨after, result⟩ := done
  simp only at hdone
  cases hdone with
  | checked hphase =>
    have hclosed : custody = .closed := by
      have hcreated : custody.phase = .created := by
        rcases h.stands with hsame | hshutting
        · exact hsame.symm.trans hphase
        · have hphase' : s.supervisor.world.snapshot.phase = .created := hphase
          rw [hphase'] at hshutting
          cases hshutting
      have hunder := h.openings
      rw [hopenings] at hunder
      cases custody with
      | closed => rfl
      | binding | committing sockets => exact absurd hunder (List.cons_ne_nil _ _).symm
      | _ => cases hcreated
    subst hclosed
    refine ⟨.binding, ?_, fun _ hnever => by cases hnever⟩
    exact { h with openings := by rw [hopenings]; rfl }
  | @notOpenable fault hfault =>
    refine ⟨custody, ?_, fun _ hsame => hsame⟩
    have htold := h.tell (.openingFailed fault) (by simp) rfl (by simp)
    simp only [List.append_nil]
    exact htold

/-- Surfaces that have been bound belong to the opening that has bound them. -/
theorem Describes.bound {sockets : Sockets} (h : binding.Describes config s) {world : World}
    (hcore : world.core = s.supervisor.world.core)
    (hfits : sockets.management.isSome = s.supervisor.config.management.isSome) :
    (committing sockets).Describes config { s with
      supervisor := { s.supervisor with world := world }
      openings := [.commit sockets] } := by
  have hstands := h.stands
  have hcaused := h.caused
  rw [← snapshot_of_core hcore] at hstands hcaused
  exact { h with
    stands := hstands
    caused := hcaused
    openings := rfl
    fits := fun _ hsame => by
      cases hsame
      rw [hfits, h.configured] }

/-- Where the surfaces cannot be bound there are none, and the caller is told why. -/
theorem Describes.unbound (h : binding.Describes config s) {world : World}
    (hcore : world.core = s.supervisor.world.core) (fault : ServiceFault) :
    closed.Describes config { s with
      supervisor := { s.supervisor with world := world }
      openings := []
      told := s.told ++ [.openingFailed fault] } := by
  have hstands := h.stands
  have hcaused := h.caused
  rw [← snapshot_of_core hcore] at hstands hcaused
  have htold := h.tell (.openingFailed fault) (by simp) rfl (by simp)
  exact { htold with
    stands := hstands
    caused := hcaused
    openings := rfl
    fits := fun _ hnever => by cases hnever }

/-- The phase moves on, unless the shutdown has begun meanwhile. -/
theorem Describes.committed {sockets : Sockets} (h : (committing sockets).Describes config s) :
    (publishing sockets).Describes config { s with
      supervisor := { s.supervisor with
        world := (s.supervisor.world.advance s.supervisor.setup.policy .opened).1 }
      openings := [.publish sockets] } := by
  have hstands := Deed.stands_advance h.stands .opened rfl
  have hcaused := Deed.caused_result h.caused (.advance .opened) (by simp)
  rw [← snapshot_advance s.supervisor.setup.policy] at hstands hcaused
  exact { h with
    stands := hstands
    caused := hcaused
    openings := rfl }

/-- An opening that comes too late gives its surfaces back. -/
theorem Describes.tooLate {sockets : Sockets} (h : (committing sockets).Describes config s)
    (fault : ServiceFault) :
    closed.Describes config { s with
      openings := []
      told := s.told ++ [.openingFailed fault] } := by
  have htold := h.tell (.openingFailed fault) (by simp) rfl (by simp)
  exact { htold with
    openings := rfl
    fits := fun _ hnever => by cases hnever }

/-- Published surfaces wait to be served. -/
theorem Describes.published {sockets : Sockets} (h : (publishing sockets).Describes config s) :
    (opened sockets).Describes config { s with
      supervisor := { s.supervisor with
        primaryAddress := some sockets.primary
        managementAddress := sockets.management
        sockets := some sockets }
      openings := []
      told := s.told ++ [.opened] } :=
  { h with
    openings := rfl
    waiting := rfl
    primary := rfl
    management := rfl
    opens := by
      rw [List.count_append, h.opens]
      rfl
    takes := by
      rw [List.countP_append, h.takes]
      rfl
    serves := by
      rw [List.count_append, h.serves]
      rfl }

/-- The opening that is under way takes its next stage. -/
theorem Describes.goOnOpening (h : custody.Describes config s) (place : Nat) (binding : Binding) :
    ∃ next : Custody, next.Describes config (s.take (.goOnOpening place binding))
      ∧ custody.Keeps next := by
  cases hstage : s.openings[place]? with
  | none =>
    simp only [Session.take, hstage]
    exact ⟨custody, h, fun _ hsame => hsame⟩
  | some stage =>
    -- there is only one, so it stands at the first place and nothing stands beside it
    have hplace : place = 0 ∧ custody.openings = [stage] := by
      have hunder := h.openings
      rw [hunder] at hstage
      cases custody <;> cases place <;> simp_all [Custody.openings]
    obtain ⟨rfl, hunder⟩ := hplace
    have hdone := Supervisor.stageDone s.supervisor binding stage
    simp only [Session.take, hstage, Session.takeStage]
    rw [h.openings, hunder]
    simp only [List.take_zero, List.nil_append, List.drop_succ_cons, List.drop_nil, List.append_nil]
    generalize s.supervisor.openStage binding stage = done at hdone ⊢
    obtain ⟨after, result⟩ := done
    simp only at hdone
    cases custody with
    | binding =>
      cases hunder
      cases hdone with
      | @bound world sockets hcore hfits =>
        exact ⟨_, h.bound hcore hfits, fun _ hnever => by cases hnever⟩
      | @unbound world fault hcore =>
        exact ⟨_, h.unbound hcore fault, fun _ hnever => by cases hnever⟩
    | committing sockets =>
      cases hunder
      cases hdone with
      | committed hphase => exact ⟨_, h.committed, fun _ hnever => by cases hnever⟩
      | tooLate hcreated hdraining =>
        exact ⟨_, h.tooLate _, fun _ hnever => by cases hnever⟩
    | publishing sockets =>
      cases hunder
      cases hdone with
      | published => exact ⟨_, h.published, fun _ hnever => by cases hnever⟩
    | _ => cases hunder

/-- Whoever listens takes the surfaces that wait, or is refused. -/
theorem Describes.listen (h : custody.Describes config s) (hnone : s.openings = []) :
    ∃ next : Custody, next.Describes config (s.take .listen) ∧ custody.Keeps next := by
  cases custody with
  | binding | committing sockets | publishing sockets =>
    have hunder := h.openings
    rw [hnone] at hunder
    cases hunder
  | opened sockets =>
    refine ⟨.admitting sockets, ?_, fun _ hsame => hsame⟩
    rw [Session.take_listen_some h.waiting]
    exact { h with
      beginnings := by
        have hbeginnings : s.beginnings = [] := h.beginnings
        simp only [hbeginnings]
        rfl
      waiting := rfl
      opens := by
        rw [List.count_append, h.opens]
        rfl
      takes := by
        rw [List.countP_append, h.takes]
        rfl
      serves := by
        rw [List.count_append, h.serves]
        rfl }
  | closed | admitting sockets | starting sockets | broken sockets | serving serial sockets =>
    refine ⟨_, ?_, fun _ hsame => hsame⟩
    rw [Session.take_listen_none h.waiting]
    exact h.tell _ (by simp) rfl (by simp)

/-- Whoever has taken the surfaces lets requests in, unless the shutdown has begun. -/
theorem Describes.letIn {sockets : Sockets} (h : (admitting sockets).Describes config s) :
    (starting sockets).Describes config { s with
      supervisor := s.supervisor.admitRequests
      beginnings := [.serve sockets] } := by
  have hsnapshot : s.supervisor.admitRequests.world.snapshot
      = (Deed.advance .listening).result s.supervisor.world.snapshot :=
    (snapshot_of_core (Supervisor.core_admitRequests s.supervisor)).trans (snapshot_advance _ _ _)
  have hstands := Deed.stands_advance h.stands .listening rfl
  have hcaused := Deed.caused_result h.caused (.advance .listening) (by simp)
  rw [← hsnapshot] at hstands hcaused
  rw [Supervisor.admitRequests_eq]
  exact { h with
    stands := hstands
    caused := hcaused
    beginnings := rfl }

/-- Whoever has let requests in serves the surfaces. -/
theorem Describes.serve {sockets : Sockets} (h : (starting sockets).Describes config s) (site : Site) :
    (serving ((s.supervisor.startServing sockets site).world.started - 1) sockets).Describes config
      { s with
        supervisor := s.supervisor.startServing sockets site
        beginnings := []
        listeners := s.listeners ++ [(s.supervisor.startServing sockets site).world.started - 1]
        told := s.told ++ [.serving] } := by
  have hstands := h.stands
  have hcaused := h.caused
  rw [← Supervisor.snapshot_startServing s.supervisor sockets site] at hstands hcaused
  exact { h with
    stands := hstands
    caused := hcaused
    beginnings := rfl
    listeners := by
      rw [h.listeners]
      rfl
    opens := by
      rw [List.count_append, h.opens]
      rfl
    takes := by
      rw [List.countP_append, h.takes]
      rfl
    serves := by
      rw [List.count_append, h.serves]
      rfl }

/-- Whoever has taken the surfaces goes on to serve them, unless the control routes cannot be built. -/
theorem Describes.goOnListening (h : custody.Describes config s) (place : Nat) (delegate : Delegate) :
    ∃ next : Custody, next.Describes config (s.take (.goOnListening place delegate))
      ∧ custody.Keeps next := by
  cases hbeginning : s.beginnings[place]? with
  | none =>
    simp only [Session.take, hbeginning]
    exact ⟨custody, h, fun _ hsame => hsame⟩
  | some beginning =>
    have hplace : place = 0 ∧ custody.beginnings = [beginning] := by
      have hunder := h.beginnings
      rw [hunder] at hbeginning
      cases custody <;> cases place <;> simp_all [Custody.beginnings]
    obtain ⟨rfl, hunder⟩ := hplace
    simp only [Session.take, hbeginning]
    rw [h.beginnings, hunder]
    simp only [List.take_zero, List.drop_succ_cons, List.drop_nil]
    cases custody with
    | admitting sockets =>
      cases hunder
      exact ⟨_, h.letIn, fun _ hsame => hsame⟩
    | starting sockets =>
      cases hunder
      simp only [Session.begin]
      split
      · rename_i fault hbuild
        refine ⟨.broken sockets, ?_, fun _ hsame => hsame⟩
        have htold := h.tell (.broken fault) (by simp) rfl (by simp)
        exact { htold with beginnings := rfl }
      · exact ⟨_, h.serve _, fun _ hsame => hsame⟩
    | _ => cases hunder

/-- What stays published through two calls stays so through both. -/
theorem Keeps.trans {first second third : Custody} (h : first.Keeps second)
    (hlater : second.Keeps third) : first.Keeps third :=
  fun sockets hpublished => hlater sockets (h sockets hpublished)

/-- Whatever call comes, the surfaces are in one place again. -/
theorem Describes.attend (h : custody.Describes config s) (call : Call) :
    ∃ next : Custody, next.Describes config (s.attend call) ∧ custody.Keeps next := by
  unfold Session.attend
  split
  · rename_i hadmits
    cases call with
    | openService => exact h.openService (List.isEmpty_iff.1 hadmits)
    | goOnOpening place binding => exact h.goOnOpening place binding
    | listen => exact h.listen (List.isEmpty_iff.1 hadmits)
    | goOnListening place delegate => exact h.goOnListening place delegate
    | aside move =>
      refine ⟨custody, ?_, fun _ hsame => hsame⟩
      simp only [Session.take]
      split
      · rename_i haside
        exact h.aside haside
      · exact h
  · exact ⟨custody, h, fun _ hsame => hsame⟩

/-- With one caller at a time the surfaces are always in one place. -/
theorem Describes.runInTurn (h : custody.Describes config s) (calls : List Call) :
    ∃ next : Custody, next.Describes config (s.runInTurn calls) ∧ custody.Keeps next := by
  induction calls generalizing custody s with
  | nil => exact ⟨custody, h, fun _ hsame => hsame⟩
  | cons call later ih =>
    obtain ⟨second, hsecond, hkeeps⟩ := h.attend call
    obtain ⟨third, hthird, hlater⟩ := ih hsecond
    exact ⟨third, hthird, hkeeps.trans hlater⟩

/-- Between openings either nobody has opened the service, or its surfaces wait to be served, or somebody has
taken them. -/
theorem Describes.between (h : custody.Describes config s) (hopenings : s.openings = []) :
    (custody.phase = .created ∧ s.supervisor.sockets = none ∧ .opened ∉ s.told
        ∧ s.told.countP Reply.isTaken = 0)
      ∨ (∃ sockets, s.supervisor.sockets = some sockets ∧ .opened ∈ s.told
        ∧ s.told.countP Reply.isTaken = 0)
      ∨ ((custody.phase = .opened ∨ custody.phase = .listening) ∧ s.supervisor.sockets = none
        ∧ .opened ∈ s.told ∧ s.told.countP Reply.isTaken = 1) := by
  have hunder := h.openings
  have hwaiting := h.waiting
  have htakes := h.takes
  have hopens : .opened ∈ s.told ↔ 0 < custody.opens := by
    rw [← h.opens]
    exact List.count_pos_iff.symm
  rw [hopenings] at hunder
  cases custody with
  | binding | committing sockets | publishing sockets => cases hunder
  | closed => exact Or.inl ⟨rfl, hwaiting, fun hmem => absurd (hopens.1 hmem) (Nat.lt_irrefl 0), htakes⟩
  | opened sockets => exact Or.inr (Or.inl ⟨sockets, hwaiting, hopens.2 Nat.one_pos, htakes⟩)
  | admitting sockets =>
    exact Or.inr (Or.inr ⟨Or.inl rfl, hwaiting, hopens.2 Nat.one_pos, htakes⟩)
  | starting sockets | broken sockets | serving serial sockets =>
    exact Or.inr (Or.inr ⟨Or.inr rfl, hwaiting, hopens.2 Nat.one_pos, htakes⟩)

/-- Once the shutdown has begun, whoever listens is told that the service has stopped. -/
theorem whyNoSockets_of_shutting {phase : Phase} (h : phase.isShuttingDown = true) :
    Supervisor.whyNoSockets phase = .stopped := by
  cases phase with
  | draining | stopped => rfl
  | _ => cases h

/-- As long as the shutdown has not begun, the phase is the one that goes along. -/
theorem Describes.phase_eq (h : custody.Describes config s) (hopen : s.isShuttingDown = false) :
    s.supervisor.phase = custody.phase := by
  rcases h.stands with hphase | hshutting
  · exact hphase
  · have hnever : s.isShuttingDown = true := hshutting
    rw [hopen] at hnever
    cases hnever

/-- Whoever listens between openings takes the surfaces if the service has been opened and nobody has taken
them before, and changes nothing otherwise. -/
theorem Describes.answers (h : custody.Describes config s) (hopenings : s.openings = []) :
    ((∃ sockets, s.Hears .listen (.taken sockets))
        ↔ .opened ∈ s.told ∧ s.told.countP Reply.isTaken = 0)
      ∧ ((∃ sockets, s.Hears .listen (.taken sockets))
        ∨ ∃ fault ∈ [ServiceFault.notOpen, .alreadyListening, .stopped],
          s.take .listen = { s with told := s.told ++ [.refused fault] }) := by
  simp only [Session.hears_taken_iff]
  constructor
  · rcases h.between hopenings with ⟨-, hnone, hnever, -⟩ | ⟨sockets, hsome, hopened, hnobody⟩
      | ⟨-, hnone, -, hsomebody⟩
    · simp [hnone, hnever]
    · exact iff_of_true ⟨sockets, hsome⟩ ⟨hopened, hnobody⟩
    · simp [hnone, hsomebody]
  · cases hsockets : s.supervisor.sockets with
    | some sockets => exact Or.inl ⟨sockets, rfl⟩
    | none =>
      refine Or.inr ⟨_, ?_, Session.take_listen_none hsockets⟩
      cases s.supervisor.phase <;> simp [Supervisor.whyNoSockets]

/-- Why whoever listens between openings is refused. -/
theorem Describes.refusals (h : custody.Describes config s) (hopenings : s.openings = []) :
    (s.Hears .listen (.refused .notOpen) ↔ .opened ∉ s.told ∧ s.isShuttingDown = false)
      ∧ (s.Hears .listen (.refused .alreadyListening)
        ↔ s.told.countP Reply.isTaken ≠ 0 ∧ s.isShuttingDown = false)
      ∧ (s.Hears .listen (.refused .stopped)
        ↔ s.supervisor.sockets = none ∧ s.isShuttingDown = true) := by
  simp only [Session.hears_refused_iff]
  cases hshutting : s.isShuttingDown with
  | true =>
    have hwhy : Supervisor.whyNoSockets s.supervisor.phase = .stopped :=
      whyNoSockets_of_shutting hshutting
    simp [hwhy]
  | false =>
    have hphase := h.phase_eq hshutting
    rcases h.between hopenings with ⟨hcreated, hnone, hnever, hnobody⟩
      | ⟨sockets, hsome, hopened, hnobody⟩ | ⟨hlater, hnone, hopened, hsomebody⟩
    · have hwhy : Supervisor.whyNoSockets s.supervisor.phase = .notOpen := by
        rw [hphase, hcreated]
        rfl
      simp [hwhy, hnone, hnever, hnobody]
    · simp [hsome, hopened, hnobody]
    · have hwhy : Supervisor.whyNoSockets s.supervisor.phase = .alreadyListening := by
        rw [hphase]
        rcases hlater with hlater | hlater <;> rw [hlater] <;> rfl
      simp [hwhy, hnone, hopened, hsomebody]

/-- Addresses are published where the service has been opened. -/
theorem Describes.addresses (h : custody.Describes config s) :
    (s.supervisor.primaryAddress.isSome = true ↔ .opened ∈ s.told)
      ∧ (s.supervisor.managementAddress.isSome = true
        ↔ .opened ∈ s.told ∧ config.management.isSome = true) := by
  have hfits := h.fits
  rw [h.primary, h.management, ← List.count_pos_iff, h.opens]
  cases custody with
  | closed | binding | committing sockets | publishing sockets =>
    simp [Custody.published, Custody.opens]
  | opened sockets | admitting sockets | starting sockets | broken sockets | serving serial sockets =>
    have hmanagement := hfits sockets rfl
    simp [Custody.published, Custody.opens, hmanagement]

/-- Addresses that are published never change. -/
theorem Describes.addresses_later {next : Custody} {later : Session}
    (h : custody.Describes config s) (hnext : next.Describes config later)
    (hkeeps : custody.Keeps next) (hopened : .opened ∈ s.told) :
    later.supervisor.primaryAddress = s.supervisor.primaryAddress
      ∧ later.supervisor.managementAddress = s.supervisor.managementAddress := by
  have hpublished : ∃ sockets, custody.published = some sockets := by
    have hprimary := h.addresses.1.2 hopened
    rw [h.primary, Option.isSome_map] at hprimary
    exact Option.isSome_iff_exists.1 hprimary
  obtain ⟨sockets, hpublished⟩ := hpublished
  have hlater := hkeeps sockets hpublished
  rw [h.primary, h.management, hnext.primary, hnext.management, hpublished, hlater]
  exact ⟨rfl, rfl⟩

end Steps

end Custody

namespace Session

open World

/-- What every call preserves, calls in turn preserve. -/
theorem attend_induction {P : Session → Prop} {s : Session}
    (htake : ∀ s call, P s → P (s.take call)) (hP : P s) (calls : List Call) :
    P (s.runInTurn calls) := by
  refine List.foldlRecOn calls attend hP fun s hs call _ => ?_
  unfold attend
  split
  · exact htake s call hs
  · exact hs

/-- With one caller at a time, too, the world goes on by what can happen. -/
theorem runInTurn_leads (s : Session) (calls : List Call) :
    s.supervisor.world.Leads (s.runInTurn calls).supervisor.world :=
  attend_induction (P := fun later => s.supervisor.world.Leads later.supervisor.world)
    (fun later call hleads => hleads.trans (takes_take later call).leads) (leads_refl _) calls

end Session

/-- With one caller at a time a service is opened at most once, and never when its shutdown began before
that. At most one caller takes the bound surfaces, after the opening, and listens until the service has
stopped with the cause of its shutdown, whenever that began. Everybody else who listens changes
nothing and is told exactly why. The addresses are there where the service has been opened, and never
change. -/
theorem one_caller_at_a_time (config : Config) (machine : Machine) (checkup : Option Checkup)
    (calls : List Call) :
    let s := (Session.create config machine checkup).runInTurn calls
    (s.told.count .opened ≤ 1
        ∧ (s.isShuttingDown = true →
          s.take .openService = { s with told := s.told ++ [.openingFailed .stopped] }))
      ∧ s.told.countP Reply.isTaken ≤ s.told.count .opened
      ∧ (s.openings = [] →
        (((∃ sockets, s.Hears .listen (.taken sockets))
            ↔ .opened ∈ s.told ∧ s.told.countP Reply.isTaken = 0)
          ∧ ((∃ sockets, s.Hears .listen (.taken sockets))
            ∨ ∃ fault ∈ [ServiceFault.notOpen, .alreadyListening, .stopped],
              s.take .listen = { s with told := s.told ++ [.refused fault] }))
        ∧ (s.Hears .listen (.refused .notOpen) ↔ .opened ∉ s.told ∧ s.isShuttingDown = false)
        ∧ (s.Hears .listen (.refused .alreadyListening)
          ↔ s.told.countP Reply.isTaken ≠ 0 ∧ s.isShuttingDown = false)
        ∧ (s.Hears .listen (.refused .stopped)
          ↔ s.supervisor.sockets = none ∧ s.isShuttingDown = true))
      ∧ (s.listeners.length = s.told.count .serving
        ∧ s.told.count .serving ≤ s.told.countP Reply.isTaken
        ∧ (∀ serial ∈ s.listeners, s.supervisor.world.Closes serial)
        ∧ (∀ ending ∈ s.supervisor.world.finished, ∀ cause, ending.outcome = .stopped cause →
          s.supervisor.phase = .stopped ∧ s.supervisor.world.begun = [cause])
        ∧ (s.isShuttingDown = true ↔ s.supervisor.world.begun ≠ []))
      ∧ (s.supervisor.primaryAddress.isSome = true ↔ .opened ∈ s.told)
      ∧ (s.supervisor.managementAddress.isSome = true
        ↔ .opened ∈ s.told ∧ config.management.isSome = true)
      ∧ (.opened ∈ s.told → ∀ later,
        (s.runInTurn later).supervisor.primaryAddress = s.supervisor.primaryAddress
          ∧ (s.runInTurn later).supervisor.managementAddress = s.supervisor.managementAddress) := by
  intro s
  obtain ⟨custody, h, -⟩ := (Custody.describes_create config machine checkup).runInTurn calls
  have horderly : Supervisor.Orderly s.supervisor.world :=
    Supervisor.orderly_leads (Session.runInTurn_leads _ calls) (Supervisor.orderly_initial checkup)
  have hbegun : s.supervisor.world.begun = s.supervisor.world.snapshot.cause.toList :=
    horderly.begun
  have hcause : s.isShuttingDown = true ↔ s.supervisor.world.begun ≠ [] := by
    rw [hbegun]
    constructor
    · intro hshutting hnone
      exact h.caused hshutting (Option.toList_eq_nil_iff.1 hnone)
    · intro hsome
      exact horderly.recorded.sound.cause fun hnone => hsome (Option.toList_eq_nil_iff.2 hnone)
  have hends : ∀ ending ∈ s.supervisor.world.finished, ∀ cause, ending.outcome = .stopped cause →
      s.supervisor.phase = .stopped ∧ s.supervisor.world.begun = [cause] := by
    intro ending hmem cause houtcome
    have hagrees := horderly.agreed.ends ending hmem
    rw [houtcome] at hagrees
    obtain ⟨hstopped, rfl⟩ := hagrees
    refine ⟨hstopped, ?_⟩
    have hshutting : s.isShuttingDown = true := by
      have hphase : s.supervisor.phase = .stopped := hstopped
      rw [Session.isShuttingDown, hphase]
      rfl
    obtain ⟨cause, hsome⟩ := Option.ne_none_iff_exists'.1 (h.caused hshutting)
    rw [hbegun, hsome]
    rfl
  have hnobody : (Session.create config machine checkup).AllClose := List.forall_mem_nil _
  have hlisten : ∀ serial ∈ s.listeners, s.supervisor.world.Closes serial :=
    Session.attend_induction (P := Session.AllClose)
      (fun _ call hall => hall.take (Session.takes_take _ call)) hnobody calls
  have hcounts : custody.takes ≤ custody.opens ∧ custody.opens ≤ 1
      ∧ custody.listeners.length ≤ custody.takes := by
    cases custody <;> simp [Custody.takes, Custody.opens, Custody.listeners]
  refine ⟨⟨?_, Session.take_openService_of_shutting⟩, ?_, fun hopenings =>
    ⟨h.answers hopenings, h.refusals hopenings⟩, ⟨?_, ?_, hlisten, hends, hcause⟩, h.addresses.1,
    h.addresses.2, fun hopened later => ?_⟩
  · rw [h.opens]
    exact hcounts.2.1
  · rw [h.opens, h.takes]
    exact hcounts.1
  · rw [h.serves, h.listeners]
  · rw [h.serves, h.takes]
    exact hcounts.2.2
  · obtain ⟨next, hnext, hkeeps⟩ := h.runInTurn later
    exact h.addresses_later hnext hkeeps hopened

/-- A service whose shutdown begins in the middle of its opening is opened and listened on all the same. -/
example : ((Session.create .usual (.confined []) none).runInTurn
      [.listen, .openService, .aside (.trigger none), .goOnOpening 0 (Machine.confined []).bind,
        .goOnOpening 0 (Machine.confined []).bind, .goOnOpening 0 (Machine.confined []).bind, .listen,
        .listen, .openService]).told
    = [.refused .notOpen, .opened, .taken ⟨⟨"0.0.0.0", 32768⟩, none⟩, .refused .stopped,
      .openingFailed .stopped] := by
  decide +kernel

end GracefulService
