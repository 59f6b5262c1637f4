import GracefulService.Proofs.Overlap
import GracefulService.Proofs.Serving

/-!
# The orderly stop

Whoever listens alone on a service, as they do unless openings that overlap have both succeeded, comes back
only when the service has stopped and no server is left, so that nobody can reach it any more. The servers share
one deadline, and requests in flight are given up exactly if one of them has not closed by then. By the time
everything has come to rest, every request that was let in has been answered once, by its delegate or like one
that was turned away, and all slots are free.
-/

namespace GracefulService

open Http

namespace Session

open World

/-- Whoever listens with the drain with a number has been told the cause of the stop. -/
def Returned (s : Session) (serial : Nat) : Prop :=
  ∃ cause, ⟨serial, .service, .stopped cause⟩ ∈ s.supervisor.world.finished

/-- A request in flight is decided about in the turn after some calls. From the moment on at which its delegate
has finished or requests are given up, no time passes before. -/
structure DecidedAfter (s : Session) (first : List Call) (move : Move) (serial : Nat) (owner : Owner)
    (x : Exchange) (outcome : Outcome) : Prop where
  /-- Until then it is in flight, and the turn decides about it. -/
  verdict : ∃ y, x.Follows y ∧ (s.run first).supervisor.world.Runs serial owner (.exchange y)
    ∧ y.Verdict (s.run first).supervisor.world serial move outcome
  /-- Its delegate answers as it would have done from the start, or it is refused. -/
  answer : outcome = .answered .delegate (x.send x.progress.yield)
    ∨ outcome = .answered .abandonment (x.send .unavailable)
  /-- No time passes once it can be decided about. -/
  prompt : ∀ middle rest y, first = middle ++ rest →
    (s.run middle).supervisor.world.Runs serial owner (.exchange y) →
    (s.run middle).supervisor.world.snapshot.abandoned = true
      ∨ y.progress.isReady (s.run middle).supervisor.world.clock = true →
    (s.run first).supervisor.world.clock = (s.run middle).supervisor.world.clock

section Alone

/-- Those who listen, and those who are about to, have taken surfaces. -/
def TakenFirst (s : Session) : Prop :=
  s.listeners.length + s.beginnings.length ≤ s.told.countP Reply.isTaken

/-- Nobody comes to listen without having taken surfaces. -/
theorem TakenFirst.take {s : Session} (h : s.TakenFirst) (call : Call) : (s.take call).TakenFirst := by
  unfold TakenFirst at h ⊢
  have hstage : ∀ binding stage before after,
      (s.takeStage binding stage before after).listeners = s.listeners
        ∧ (s.takeStage binding stage before after).beginnings = s.beginnings
        ∧ s.told.countP Reply.isTaken
          ≤ (s.takeStage binding stage before after).told.countP Reply.isTaken := by
    intro binding stage before after
    unfold takeStage
    split <;> simp
  cases call with
  | openService =>
    obtain ⟨hlisteners, hbeginnings, htold⟩ := hstage s.supervisor.machine.bind .check s.openings []
    simp only [Session.take, hlisteners, hbeginnings]
    exact Nat.le_trans h htold
  | goOnOpening place binding =>
    simp only [Session.take]
    split
    · exact h
    · rename_i stage hfound
      obtain ⟨hlisteners, hbeginnings, htold⟩ := hstage binding stage (s.openings.take place)
        (s.openings.drop (place + 1))
      rw [hlisteners, hbeginnings]
      exact Nat.le_trans h htold
  | listen =>
    cases hsockets : s.supervisor.sockets with
    | none =>
      rw [take_listen_none hsockets]
      simpa [Reply.isTaken] using h
    | some sockets =>
      rw [take_listen_some hsockets]
      simp only [List.length_append, List.countP_append]
      exact Nat.add_le_add_right h 1
  | goOnListening place delegate =>
    simp only [Session.take]
    split
    · exact h
    · rename_i beginning hfound
      obtain ⟨hplace, -⟩ := List.getElem?_eq_some_iff.1 hfound
      cases beginning with
      | letIn sockets =>
        simp only [begin, List.length_append, List.length_cons, List.length_take, List.length_drop]
        omega
      | serve sockets =>
        simp only [begin]
        split <;> simp only [List.length_append, List.length_take, List.length_drop, List.length_cons,
          List.length_nil, List.countP_append] <;> omega
  | aside move =>
    simp only [Session.take]
    split <;> exact h

variable (config : Config) (machine : Machine) (checkup : Option Checkup) (calls : List Call)

/-- Surfaces that somebody serves or is about to serve, or that wait to be served, were all published by
openings that have succeeded. -/
theorem published_first (config : Config) (machine : Machine) (checkup : Option Checkup) (calls : List Call) :
    let s := (create config machine checkup).run calls
    s.listeners.length + s.beginnings.length + s.supervisor.sockets.toList.length
      ≤ s.told.count .opened := by
  intro s
  have htaken : s.TakenFirst :=
    List.foldlRecOn calls Session.take (Nat.le_refl 0) fun _ hs call _ => hs.take call
  exact Nat.le_trans (Nat.add_le_add_right htaken _) ((exclusive_create config machine checkup).run calls).takes

/-- Where at most one opening has succeeded, whoever listens does so alone. -/
theorem listens_alone (hopened : ((create config machine checkup).run calls).told.count .opened ≤ 1)
    {serial : Nat} (hlistens : serial ∈ ((create config machine checkup).run calls).listeners) :
    ((create config machine checkup).run calls).listeners = [serial] := by
  have hpublished := published_first config machine checkup calls
  have hfew : ((create config machine checkup).run calls).listeners.length ≤ 1 := by omega
  obtain ⟨only, honly⟩ := List.length_eq_one_iff.1 (Nat.le_antisymm hfew (List.length_pos_of_mem hlistens))
  rw [honly] at hlistens ⊢
  rw [List.mem_singleton.1 hlistens]

end Alone

section Return

variable {s : Session} {serial : Nat} (hsound : s.supervisor.world.Sound) (hlistened : s.Listened)
  (hlisteners : s.listeners = [serial])
include hsound hlistened hlisteners

/-- Whoever listens comes back when the service has stopped and no server is left. -/
theorem Returned.stopped (h : s.Returned serial) : s.supervisor.world.snapshot.phase = .stopped
    ∧ ∀ surface, s.supervisor.world.hasServer surface = false := by
  obtain ⟨cause, hended⟩ := h
  refine ⟨(hsound.agreed.ends _ hended).1, fun surface => ?_⟩
  rw [← Bool.not_eq_true, hasServer_iff]
  have hnone := (hlistened.tended serial hlisteners).none_left hsound.numbered hended surface
  omega

/-- From then on nobody reaches an address of a surface at which no socket waits to be served. -/
theorem Returned.refuses (h : s.Returned serial) (surface : Surface) (address : BoundAddress)
    (hunbound : ∀ sockets ∈ s.bound, sockets.addressOf surface ≠ some address) :
    s.contact surface address = .error .refused := by
  have hnone := (h.stopped hsound hlistened hlisteners).2 surface
  have hserves : s.supervisor.serves surface address = false := by
    rw [← Bool.not_eq_true]
    intro hserves
    obtain ⟨task, hmem, htask⟩ := List.any_eq_true.1 hserves
    have hserver : s.supervisor.world.hasServer surface = true := by
      refine List.any_eq_true.2 ⟨task, hmem, ?_⟩
      rcases Bool.or_eq_true_iff.1 htask with hstarts | hruns
      · rw [of_decide_eq_true hstarts]
        exact decide_eq_true rfl
      · rw [of_decide_eq_true hruns]
        exact decide_eq_true rfl
    rw [hnone] at hserver
    cases hserver
  have hqueues : (s.supervisor.sockets.toList ++ s.held).any
      (fun sockets => sockets.addressOf surface = some address) = false := by
    refine List.any_eq_false.2 fun sockets hmem hsame => hunbound sockets ?_ (of_decide_eq_true hsame)
    simp only [held, List.mem_append] at hmem
    simp only [bound, List.mem_append]
    tauto
  unfold contact Supervisor.contact
  rw [hserves, hqueues]
  split <;> rfl

/-- Once whoever listens has come back and every task waits, no request is in flight. -/
theorem Returned.none_in_flight (h : s.Returned serial) (hrest : s.supervisor.world.isResting = true)
    {request : Nat} {owner : Owner} {x : Exchange} :
    ¬s.supervisor.world.Runs request owner (.exchange x) := by
  intro hruns
  obtain ⟨cause, hended⟩ := h
  obtain ⟨hkept, -⟩ := hsound.attentive.exchange_at_rest hrest hruns
  obtain ⟨task, hmem, -, -, herrand⟩ := hruns
  have hprimary := hsound.vacates.flights task hmem x herrand
  have hserved : Surface.primary ∈ s.supervisor.setup.site.surfaces := by
    unfold Site.surfaces
    split <;> simp
  rcases (hlistened.tended serial hlisteners).closed_or_abandoned hsound.numbered hended hserved with
    hclosed | habandoned
  · obtain ⟨ending, hending, houtcome⟩ := closed_pos.1 hclosed
    exact (hsound.vacates.closed ending hending .primary houtcome).2 task hmem x herrand hprimary
  · rw [hkept] at habandoned
    cases habandoned

/-- Then no slot is held but by those who hold one outside the gate. -/
theorem Returned.inFlight (h : s.Returned serial) (hrest : s.supervisor.world.isResting = true) :
    s.supervisor.world.snapshot.inFlight = s.supervisor.world.guards.length := by
  have hcounted := hsound.balanced.counted
  have hholders : holders s.supervisor.world.tasks = 0 := by
    refine List.countP_eq_zero.2 fun task hmem hholds => ?_
    cases herrand : task.errand with
    | exchange x =>
      exact h.none_in_flight hsound hlistened hlisteners hrest ⟨task, hmem, rfl, rfl, herrand⟩
    | _ => simp [herrand, holdsSlot] at hholds
  rw [liveSlots, hholders] at hcounted
  exact hcounted

end Return

section Grace

variable {s : Session} {serial : Nat} {call : Call}

end Grace

section Requests

variable {request : Nat} {owner : Owner} {x : Exchange}

/-- What has ended in a session has ended for ever. -/
theorem finished_take_run (s : Session) (calls : List Call) {ending : Ending}
    (hmem : ending ∈ s.supervisor.world.finished) : ending ∈ (s.run calls).supervisor.world.finished :=
  (run_leads s calls).preserves (P := fun w => ending ∈ w.finished)
    (fun _ _ _ _ hhappening hended => hhappening.finished hended) hmem

/-- A call leaves a request in flight, decides about it in its turn, or cancels it. -/
theorem take_verdict (s : Session) (call : Call)
    (hruns : s.supervisor.world.Runs request owner (.exchange x)) :
    (∃ y, x.Follows y ∧ (s.take call).supervisor.world.Runs request owner (.exchange y))
      ∨ (∃ move outcome, call = .aside (.run move) ∧ x.Verdict s.supervisor.world request move outcome
        ∧ ⟨request, owner, outcome⟩ ∈ (s.take call).supervisor.world.finished)
      ∨ ⟨request, owner, .cancelled⟩ ∈ (s.take call).supervisor.world.finished := by
  rcases proceeds_or_serves s call with ⟨move, hproceeds⟩ | ⟨sockets, site, hseparate, hserves, -⟩
  · rcases hproceeds.happens.verdict hruns with hgoesOn | ⟨outcome, hverdict, hended⟩ | hcancelled
    · exact Or.inl hgoesOn
    · have hturn : move.isTurnOf request = true := by
        cases hverdict <;> assumption
      exact Or.inr (Or.inl ⟨move, outcome, hproceeds.turn_aside hturn, hverdict, hended⟩)
    · exact Or.inr (Or.inr hcancelled)
  · obtain ⟨servers, htasks, -⟩ := Supervisor.tasks_startServing s.supervisor sockets hseparate
    obtain ⟨task, hmem, hfound⟩ := hruns
    refine Or.inl ⟨x, .same, task, ?_, hfound⟩
    rw [hserves, htasks, List.append_assoc]
    exact List.mem_append_left _ hmem

/-- A call lets no time pass while a request in flight can be decided about. -/
theorem take_clock (s : Session) (call : Call) (hattentive : s.supervisor.world.Attentive)
    (hruns : s.supervisor.world.Runs request owner (.exchange x))
    (hdue : s.supervisor.world.snapshot.abandoned = true
      ∨ x.progress.isReady s.supervisor.world.clock = true) :
    (s.take call).supervisor.world.clock = s.supervisor.world.clock := by
  rcases proceeds_or_serves s call with ⟨move, hproceeds⟩ | ⟨sockets, site, -, hserves, -⟩
  · exact hproceeds.happens.clock_of_decidable hattentive hruns hdue
  · rw [hserves]
    exact Supervisor.startServing_induction s.supervisor
      (P := fun w => w.clock = s.supervisor.world.clock) sockets site (fun _ _ _ hclock => hclock) rfl

/-- As long as a request in flight can be decided about and is not, no time passes. -/
theorem run_clock (s : Session) (calls : List Call) (hsound : s.supervisor.world.Sound)
    (hruns : s.supervisor.world.Runs request owner (.exchange x))
    (hdue : s.supervisor.world.snapshot.abandoned = true
      ∨ x.progress.isReady s.supervisor.world.clock = true) {y : Exchange}
    (hlater : (s.run calls).supervisor.world.Runs request owner (.exchange y)) :
    (s.run calls).supervisor.world.clock = s.supervisor.world.clock := by
  induction calls generalizing s x with
  | nil => rfl
  | cons call calls ih =>
    have hafter : (s.take call).supervisor.world.Sound := (takes_take s call).leads.sound hsound
    have hclock := take_clock s call hsound.attentive hruns hdue
    -- It has not ended in the call, since it is in flight later.
    have hunended : ∀ outcome, ⟨request, owner, outcome⟩ ∉ (s.take call).supervisor.world.finished := by
      intro outcome hended
      have hstill := finished_take_run (s.take call) calls hended
      obtain ⟨task, hmem, hserial, -⟩ := hlater
      exact ((run_leads (s.take call) calls).sound hafter).numbered.not_over hmem hstill hserial
    rcases take_verdict s call hruns with ⟨z, hfollows, hz⟩ | ⟨move, outcome, -, -, hended⟩ | hended
    · have hdue' : (s.take call).supervisor.world.snapshot.abandoned = true
          ∨ z.progress.isReady (s.take call).supervisor.world.clock = true := by
        rcases hdue with habandoned | hready
        · exact Or.inl ((takes_take s call).leads.precedes.abandoned habandoned)
        · right
          rw [hclock]
          exact hfollows.isReady hready
      exact (ih (s.take call) hafter hz hdue' hlater).trans hclock
    · exact absurd hended (hunended _)
    · exact absurd hended (hunended _)

/-- A request in flight stays so, is decided about in one turn, or is cancelled. -/
theorem run_verdict (s : Session) (calls : List Call)
    (hruns : s.supervisor.world.Runs request owner (.exchange x)) :
    (∃ y, x.Follows y ∧ (s.run calls).supervisor.world.Runs request owner (.exchange y))
      ∨ (∃ first move last y outcome, calls = first ++ .aside (.run move) :: last ∧ x.Follows y
        ∧ (s.run first).supervisor.world.Runs request owner (.exchange y)
        ∧ y.Verdict (s.run first).supervisor.world request move outcome
        ∧ ⟨request, owner, outcome⟩ ∈ (s.run calls).supervisor.world.finished)
      ∨ ⟨request, owner, .cancelled⟩ ∈ (s.run calls).supervisor.world.finished := by
  induction calls generalizing s x with
  | nil => exact Or.inl ⟨x, .same, hruns⟩
  | cons call calls ih =>
    rcases take_verdict s call hruns with ⟨y, hfollows, hy⟩ | ⟨move, outcome, rfl, hverdict, hended⟩ | hended
    · rcases ih (s.take call) hy with ⟨z, hfollows', hz⟩ | ⟨first, move, last, z, outcome, rfl, hfollows',
        hz, hverdict, hended⟩ | hended
      · exact Or.inl ⟨z, hfollows.trans hfollows', hz⟩
      · exact Or.inr (Or.inl ⟨call :: first, move, last, z, outcome, rfl, hfollows.trans hfollows', hz,
          hverdict, hended⟩)
      · exact Or.inr (Or.inr hended)
    · exact Or.inr (Or.inl ⟨[], move, calls, x, outcome, rfl, .same, hruns, hverdict,
        finished_take_run _ calls hended⟩)
    · exact Or.inr (Or.inr (finished_take_run _ calls hended))

/-- A request in flight that neither goes on nor is cancelled has been answered once. -/
theorem decided_run (s : Session) (calls : List Call) (hsound : s.supervisor.world.Sound)
    (hruns : s.supervisor.world.Runs request owner (.exchange x))
    (hended : ∀ y, ¬(s.run calls).supervisor.world.Runs request owner (.exchange y))
    (hcancelled : ⟨request, owner, .cancelled⟩ ∉ (s.run calls).supervisor.world.finished) :
    ∃ first move last outcome, calls = first ++ .aside (.run move) :: last
      ∧ s.DecidedAfter first move request owner x outcome
      ∧ (s.run calls).supervisor.world.finished.filter (fun ending => ending.serial = request)
        = [⟨request, owner, outcome⟩] := by
  rcases run_verdict s calls hruns with ⟨y, -, hy⟩ | ⟨first, move, last, y, outcome, hcalls, hfollows, hy,
    hverdict, hmem⟩ | hmem
  · exact absurd hy (hended y)
  · refine ⟨first, move, last, outcome, hcalls, ⟨⟨y, hfollows, hy, hverdict⟩, hverdict.answer hfollows, ?_⟩, ?_⟩
    · rintro middle rest z rfl hz hdue
      have hmiddle : (s.run middle).supervisor.world.Sound := (run_leads s middle).sound hsound
      rw [run_append] at hy ⊢
      exact run_clock (s.run middle) rest hmiddle hz hdue hy
    · have hnumbered := ((run_leads s calls).sound hsound).numbered
      exact hnumbered.endings_filter hmem
  · exact absurd hmem hcancelled

end Requests

section Deadline

variable {config : Config} {machine : Machine} {checkup : Option Checkup} {serial : Nat}

/-- The drain with a number is over, and goes on to close servers or is closing them. -/
def IsClosing (s : Session) (serial : Nat) : Prop :=
  (∃ surfaces, s.supervisor.world.Runs serial .service (.readCause (.close surfaces)))
    ∨ ∃ cause timer surfaces, s.supervisor.world.Runs serial .service (.closeServers cause timer surfaces)

/-- A drain does not come to close servers before its deadline is about to be set. -/
theorem IsClosing.begins {s : Session} {call : Call} (h : (s.take call).IsClosing serial)
    (hbefore : ¬s.IsClosing serial) :
    ∃ surfaces, (s.take call).supervisor.world.Runs serial .service (.readCause (.close surfaces)) := by
  refine h.resolve_right ?_
  rintro ⟨cause, timer, surfaces, task, hmem, hserial, howner, herrand⟩
  have hsource : ∀ source ∈ s.supervisor.world.tasks, source.serial = task.serial →
      source.owner = task.owner → source.errand ≠ .closeServers cause timer surfaces := by
    intro source hsource hsame hsame' hcloses
    exact hbefore (Or.inr ⟨_, _, _, source, hsource, hsame.trans hserial, hsame'.trans howner, hcloses⟩)
  rcases proceeds_or_serves s call with ⟨move, hproceeds⟩ | ⟨sockets, site, hseparate, hserves, -⟩
  · cases hproceeds.happens.origin hmem with
    | same hold hresembles =>
      exact hsource _ hold hresembles.serial.symm hresembles.owner.symm (hresembles.errand.symm.trans herrand)
    | vain hold hturn htask =>
      rw [htask] at herrand hsource
      exact hsource _ hold rfl rfl herrand
    | begun hbegins hlistens =>
      rw [herrand] at hbegins
      cases hbegins
    | released hold hheld hprogress htask =>
      rw [htask] at herrand
      cases herrand
    | signalled htask =>
      rw [htask] at herrand
      cases herrand
    | @goesOn source others effect hold hturned hwoken hsnapshot hsame howns =>
      rw [herrand] at hturned
      generalize hstage : source.errand = errand at hturned
      have hruns : s.supervisor.world.Runs serial .service errand :=
        ⟨source, hold, hsame.symm.trans hserial, howns.symm.trans howner, hstage⟩
      cases hturned with
      | beginClosing => exact hbefore (Or.inl ⟨_, hruns⟩)
      | seeClosed hgone => exact hbefore (Or.inr ⟨_, _, _, hruns⟩)
      | endGrace hserver hdue => exact hbefore (Or.inr ⟨_, _, _, hruns⟩)
  · obtain ⟨servers, htasks, hservers, -⟩ := Supervisor.tasks_startServing s.supervisor sockets hseparate
    rw [hserves, htasks, List.append_assoc] at hmem
    rcases List.mem_append.1 hmem with hold | hnew
    · exact hsource task hold rfl rfl herrand
    · rcases List.mem_append.1 hnew with hserver | hlast
      · have hcloses := (hservers task hserver).2
        rw [herrand] at hcloses
        cases hcloses
      · rw [List.mem_singleton.1 hlast] at herrand
        cases herrand

end Deadline

section Losses

variable {s : Session} {call : Call}

/-- Somebody listens, and whoever does so alone has a server to close that has not closed and never will. -/
def Loses (s : Session) : Prop :=
  s.listeners ≠ [] ∧ ∀ serial, s.listeners = [serial] → ∃ surface ∈ s.supervisor.setup.site.surfaces,
    s.supervisor.world.running surface = 0 ∧ s.supervisor.world.closed surface = 0

/-- Such a server does not come back. -/
theorem Loses.take (h : s.Loses) (hlistened : s.Listened) (call : Call) : (s.take call).Loses := by
  obtain ⟨hsomebody, hlost⟩ := h
  rcases proceeds_or_serves s call with ⟨move, hproceeds⟩ | ⟨sockets, site, -, -, hlisteners⟩
  · refine ⟨hproceeds.listeners ▸ hsomebody, fun serial hserial => ?_⟩
    rw [hproceeds.listeners] at hserial
    obtain ⟨surface, hmem, hrunning, hclosed⟩ := hlost serial hserial
    have hfewer := (servers_fewer hproceeds.happens hproceeds.quiet
      (hlistened.tended serial hserial).own surface).2
    refine ⟨surface, hproceeds.setup ▸ hmem, ?_⟩
    omega
  · -- Now that somebody else comes to listen, nobody does so alone.
    unfold Loses
    rw [hlisteners]
    refine ⟨List.append_ne_nil_of_right_ne_nil _ (List.cons_ne_nil _ _), fun serial hserial => ?_⟩
    have hlength := congrArg List.length hserial
    have hpositive := List.length_pos_of_ne_nil hsomebody
    rw [List.length_append] at hlength
    simp only [List.length_cons, List.length_nil] at hlength
    omega

end Losses

end Session

end GracefulService
