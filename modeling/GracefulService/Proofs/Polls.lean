import GracefulService.Proofs.Moves

/-!
# What the probes go by, and what they leave behind

A probe goes by the health check and leaves behind that it was asked: each answer is counted by probe and
status. Nothing else that happens to a service touches either of the two but the callers who change what the
health check answers, so after a run the counts are those of the reports that went out in it, one after
the other.
-/

namespace GracefulService

open Http

/-! ## Requests for probes -/

/-- The probe that answers. -/
def Destination.probe? : Destination → Option Probe
  | control (.probe probe) => some probe
  | _ => none

/-- An id leaves all other headers. -/
theorem Http.Request.withId_visibleHeader? (request : Request) (id name : String)
    (hname : name ≠ requestIdHeader) : (request.withId id).visibleHeader? name = request.visibleHeader? name := by
  have hheader : (request.withId id).header? name = request.header? name := by
    unfold withId
    split
    · rfl
    · have hnone : [(requestIdHeader, id)].lookup name = none := by
        simp only [List.lookup_cons, beq_eq_false_iff_ne.2 hname, List.lookup_nil]
      unfold header?
      rw [List.lookup_append, hnone, Option.or_none]
  unfold visibleHeader?
  rw [hheader]

/-- On its way in a request for the control routes changes in nothing they look at. -/
theorem World.identify_request (w : World) (surface : Surface) (request : Request) :
    (w.identify surface request).2.method = request.method
      ∧ (w.identify surface request).2.target = request.target
      ∧ (w.identify surface request).2.bodyFormat = request.bodyFormat := by
  have hwithId : ∀ id, (request.withId id).method = request.method
      ∧ (request.withId id).target = request.target
      ∧ (request.withId id).bodyFormat = request.bodyFormat := by
    intro id
    refine ⟨?_, ?_, ?_⟩
    · unfold Request.withId
      split <;> rfl
    · unfold Request.withId
      split <;> rfl
    · unfold Request.bodyFormat
      rw [Request.withId_visibleHeader? request id "accept" (by decide)]
  unfold identify
  split
  · exact hwithId _
  · exact ⟨rfl, rfl, rfl⟩

/-- Where a request goes does not depend on its id. -/
theorem World.destination_identify (w : World) (site : Site) (surface : Surface) (request : Request) :
    site.destination surface (w.identify surface request).2 = site.destination surface request := by
  obtain ⟨hmethod, htarget, -⟩ := identify_request w surface request
  simp only [Site.destination, RouteTable.dispatch, hmethod, htarget]

/-! ## The health check -/

/-- What the health check answers after a move. -/
def Move.checkup (installed : Option Checkup) : Move → Option Checkup
  | act (.health checkup) => installed.map fun _ => checkup
  | _ => installed

/-- What the health check answers after some moves: the last answer that was put there, once a check is
installed at all. -/
def currentCheckup (installed : Option Checkup) (moves : List Move) : Option Checkup :=
  moves.foldl Move.checkup installed

/-! ## Reports that go out -/

/-- A report that has gone out. -/
structure SentReport where
  /-- The number of the request that it answers. -/
  serial : Nat
  /-- The probe. -/
  probe : Probe
  /-- What the probe says. -/
  report : Report
deriving DecidableEq, Repr

/-- What a report is counted under. -/
def SentReport.key (sent : SentReport) : Probe × Status := (sent.probe, sent.report.status)

namespace World

/-- The report that a request of some number gets when it is received: none where it goes elsewhere. -/
def reportTo? (setup : Setup) (w : World) (serial : Nat) (surface : Surface) (request : Request) :
    Option SentReport :=
  (setup.site.destination surface request).probe?.map fun probe =>
    ⟨serial, probe, probe.report w.snapshot.phase w.checkup⟩

/-- The report that goes out when a task takes a turn. -/
def reportOf? (setup : Setup) (w : World) (task : Task) : Option SentReport :=
  match task.errand with
  | .arrive surface request => w.reportTo? setup task.serial surface request
  | _ => none

/-- The report that goes out with a move. -/
def reportIn? (setup : Setup) (w : World) : Move → Option SentReport
  | .turn serial | .preempt serial =>
    (Task.takeFirst (fun task => task.serial = serial) w.tasks).bind fun (task, _) =>
      w.reportOf? setup task
  | _ => none

/-- The reports that go out during a run. -/
def reports (setup : Setup) (w : World) : List Move → List SentReport
  | [] => []
  | move :: moves => (w.reportIn? setup move).toList ++ (w.move setup move).reports setup moves

/-- What the probes go by and leave behind: the health check, and the counts of their answers. -/
def polls (w : World) : Option Checkup × List ((Probe × Status) × Nat) := (w.checkup, w.meters.probes)

/-- The counts with those of some reports. -/
def countReports (sent : List SentReport) (counts : List ((Probe × Status) × Nat)) :
    List ((Probe × Status) × Nat) :=
  (sent.map SentReport.key).foldl (fun counts key => Meters.countUp key counts) counts

/-- The polls after some reports. -/
def pollsAfter (w : World) (sent : Option SentReport) : Option Checkup × List ((Probe × Status) × Nat) :=
  (w.checkup, countReports sent.toList w.meters.probes)

section Polls

variable (setup : Setup) (policy : WakePolicy) (w : World)

/-- No step forward answers a probe. -/
theorem polls_advance (target : Phase) : (w.advance policy target).1.polls = w.polls := by
  unfold advance
  split <;> rfl

/-- To ask for a slot answers no probe. -/
theorem polls_enter : (w.enter policy).1.polls = w.polls := by
  unfold enter
  split <;> rfl

/-- To give a slot back answers no probe. -/
theorem polls_release : (w.release policy).polls = w.polls := by
  unfold release uncount
  split <;> rfl

/-- To begin the shutdown answers no probe. -/
theorem polls_beginDrain (cause : Cause) : (w.beginDrain policy cause).1.polls = w.polls := by
  unfold beginDrain
  split <;> rfl

/-- To give requests up answers no probe. -/
theorem polls_abandon : (w.abandon policy).1.polls = w.polls := by
  unfold abandon
  split <;> rfl

/-- To identify a request answers no probe. -/
theorem polls_identify (surface : Surface) (request : Request) :
    (w.identify surface request).1.polls = w.polls := by
  unfold identify
  split <;> rfl

/-- The answer of a probe is counted. -/
theorem polls_answerProbe (serial : Nat) (probe : Probe) (request : Request) :
    (w.answerProbe probe request).1.polls
      = w.pollsAfter (some ⟨serial, probe, probe.report w.snapshot.phase w.checkup⟩) := by
  simp only [answerProbe]
  split <;> rfl

/-- A mark-down answers no probe. -/
theorem polls_answerMarkdown : (w.answerMarkdown policy).1.polls = w.polls := by
  have hbegun := polls_beginDrain policy w .markedDown
  simp only [answerMarkdown]
  split <;> exact hbegun

/-- To hand a request over answers no probe. -/
theorem polls_handOver (surface : Surface) (request : Request) (handling : Handling) :
    (w.handOver policy surface request handling).1.polls = w.polls := by
  have hreleased := polls_release policy (w.call request)
  unfold handOver
  cases handling.work with
  | answer | broken => exact hreleased
  | pause | hold => rfl

/-- The gate answers no probe. -/
theorem polls_passGate (surface : Surface) (request : Request) :
    (w.passGate setup surface request).1.polls = w.polls := by
  have hentered := polls_enter setup.policy w
  unfold passGate
  split
  · rename_i after h
    rw [h] at hentered
    exact (polls_handOver setup.policy after surface request _).trans hentered
  · rename_i after h
    rw [h] at hentered
    exact hentered

/-- A request that is received is counted where it gets a report. -/
theorem polls_receive (serial : Nat) (surface : Surface) (request : Request) :
    (w.receive setup surface request).1.polls = w.pollsAfter (w.reportTo? setup serial surface request) := by
  have hidentified := polls_identify w surface request
  have hsnapshot : (w.identify surface request).1.snapshot = w.snapshot := by
    unfold identify
    split <;> rfl
  have hdestination := destination_identify w setup.site surface request
  simp only [receive, reportTo?, hdestination]
  generalize (w.identify surface request).1 = entered at hidentified hsnapshot ⊢
  obtain ⟨hcheckup, hprobes⟩ := Prod.mk.inj hidentified
  cases setup.site.destination surface request with
  | control action =>
    cases action with
    | probe probe =>
      have hanswered := polls_answerProbe entered serial probe (w.identify surface request).2
      simp only [pollsAfter, hsnapshot, hcheckup, hprobes] at hanswered
      exact hanswered
    | markdown => exact (polls_answerMarkdown setup.policy entered).trans hidentified
  | otherMethods allowed => exact hidentified
  | gate => exact (polls_passGate setup entered surface _).trans hidentified
  | nowhere => exact hidentified

/-- To close servers answers no probe. -/
theorem polls_turnCloseServers (cause : Cause) (timer : Timer) (surfaces : List Surface) {after : World}
    {next : Next} (h : w.turnCloseServers policy cause timer surfaces = some (after, next)) :
    after.polls = w.polls := by
  cases surfaces with
  | nil =>
    cases h
    rfl
  | cons surface surfaces =>
    simp only [turnCloseServers] at h
    split at h
    · cases h
      rfl
    · split at h
      · cases h
        exact polls_abandon policy (w.tell .serverOverdue)
      · cases h

/-- Only a request that is received with a report counts for the probes. -/
theorem polls_turn (looks : Bool) (task : Task) {after : World} {next : Next}
    (h : w.turn setup looks task.errand = some (after, next)) :
    after.polls = w.pollsAfter (w.reportOf? setup task) := by
  unfold reportOf?
  generalize task.errand = errand at h ⊢
  cases errand with
  | awaitPhase | awaitAbandonment | awaitShutdown | serve =>
    simp only [turn] at h
    split at h
    · cases h
      rfl
    · cases h
  | awaitIdle sequel timer =>
    simp only [turn, turnAwaitIdle] at h
    split at h
    · cases h
      exact polls_advance setup.policy w .stopped
    · split at h
      · cases h
        exact polls_advance setup.policy (w.tell _) .stopped
      · cases h
  | readCause sequel => cases sequel <;> cases h <;> rfl
  | closeServers cause timer surfaces => exact polls_turnCloseServers setup.policy w cause timer surfaces h
  | startServer surface address =>
    cases h
    rfl
  | finishServer surface =>
    simp only [turn] at h
    split at h
    · cases h
    · cases h
      rfl
  | watchSignals caught =>
    cases caught with
    | none =>
      simp only [turn, turnWatchSignals] at h
      split at h
      · cases h
        rfl
      · cases h
    | some name =>
      cases h
      exact polls_beginDrain setup.policy (w.tell _) _
  | arrive surface request =>
    have hreceived := polls_receive setup w task.serial surface request
    have hafter : w.receive setup surface request = (after, next) := Option.some.inj h
    rw [hafter] at hreceived
    exact hreceived
  | exchange x =>
    have hreleased := polls_release setup.policy w
    have habandoned : ∀ result, (if looks ∧ w.snapshot.abandoned then
        some (w.endExchange setup.policy x .abandonment .unavailable) else none) = some result →
        result.1.polls = w.polls := by
      intro result h
      split at h
      · cases h
        exact hreleased
      · cases h
    simp only [turn, turnExchange] at h
    split at h
    · cases h
      exact hreleased
    · split at h
      · cases h
        exact hreleased
      · exact habandoned _ h
    · exact habandoned _ h

/-- A turn that comes to nothing sends no report. -/
theorem reportOf?_of_vain {task : Task} {looks : Bool} (h : w.turn setup looks task.errand = none) :
    w.reportOf? setup task = none := by
  unfold reportOf?
  split
  · rename_i surface request herrand
    rw [herrand] at h
    cases h
  · rfl

/-- A turn answers the probe that its task asks for, and no other. -/
theorem polls_takeTurn (task : Task) (others : List Task) :
    (w.takeTurn setup task others).polls = w.pollsAfter (w.reportOf? setup task) := by
  have hbeside : ({ w with tasks := others } : World).reportOf? setup task = w.reportOf? setup task := rfl
  have hturned : ∀ after next, turn setup { w with tasks := others } task.looks task.errand = some (after, next) →
      after.polls = w.pollsAfter (w.reportOf? setup task) :=
    fun _ _ h => polls_turn setup { w with tasks := others } _ task h
  unfold takeTurn
  split
  · rename_i hvain
    rw [← hbeside, reportOf?_of_vain setup { w with tasks := others } hvain]
    rfl
  · rename_i after errand h
    exact hturned after _ h
  · rename_i after outcome h
    exact hturned after _ h

/-- A turn in which abandonment comes first answers no other probe. -/
theorem polls_preempt (task : Task) (others : List Task) :
    (w.preempt setup task others).polls = w.pollsAfter (w.reportOf? setup task) := by
  unfold preempt
  split
  · rename_i x herrand
    split
    · have hnone : w.reportOf? setup task = none := by
        unfold reportOf?
        rw [herrand]
      rw [hnone]
      exact polls_release setup.policy { w with tasks := others }
    · exact polls_takeTurn setup w task others
  · exact polls_takeTurn setup w task others

/-- A slot that a caller gives back answers no probe. -/
theorem polls_leaveGuard (id : String) : (w.leaveGuard policy id).1.polls = w.polls := by
  unfold leaveGuard
  split
  · exact polls_release policy { w with guards := w.guards.erase id }
  · rfl

/-- To cancel a task answers no probe. -/
theorem polls_cancel (id : String) : (w.cancel policy id).1.polls = w.polls := by
  unfold cancel
  split
  · rfl
  · rename_i task others h
    simp only
    split
    · exact polls_release policy { w with tasks := others }
    · rfl

/-- What the health check answers is changed by callers alone, and what goes out in a move is counted. -/
theorem polls_move (move : Move) : (w.move setup move).polls
    = (move.checkup w.checkup, countReports (w.reportIn? setup move).toList w.meters.probes) := by
  cases move with
  | act step =>
    cases step with
    | advance target =>
      have hadvanced := polls_advance setup.policy w target
      simp only [World.move, act]
      split <;> rename_i h <;> rw [h] at hadvanced <;> exact hadvanced
    | enter id =>
      have hentered := polls_enter setup.policy w
      simp only [World.move, act]
      split
      · rename_i after h
        rw [h] at hentered
        exact (polls_leaveGuard setup.policy after id).trans hentered
      · rename_i after h
        rw [h] at hentered
        exact hentered
    | leave id => exact polls_leaveGuard setup.policy w id
    | beginDrain cause => exact polls_beginDrain setup.policy w cause
    | abandon => exact polls_abandon setup.policy w
    | request id surface request => cases request <;> rfl
    | cancel id => exact polls_cancel setup.policy w id
    | health checkup =>
      cases hinstalled : w.checkup <;>
        simp [World.move, act, polls, Move.checkup, reportIn?, countReports, hinstalled]
    | _ => rfl
  | turn serial =>
    simp only [World.move, reportIn?]
    cases Task.takeFirst (fun task => decide (task.serial = serial)) w.tasks with
    | none => rfl
    | some found => exact polls_takeTurn setup w found.1 found.2
  | preempt serial =>
    simp only [World.move, reportIn?]
    cases Task.takeFirst (fun task => decide (task.serial = serial)) w.tasks with
    | none => rfl
    | some found => exact polls_preempt setup w found.1 found.2
  | tick milliseconds =>
    simp only [World.move]
    split <;> rfl
  | ring timer =>
    simp only [World.move]
    split <;> rfl
  | _ => rfl

/-- After a run the health check answers what was put there last, and the counts are those of the reports
that went out. -/
theorem polls_run (moves : List Move) : (w.run setup moves).polls
    = (currentCheckup w.checkup moves, countReports (w.reports setup moves) w.meters.probes) := by
  induction moves generalizing w with
  | nil => rfl
  | cons move later ih =>
    have hlater := ih (w.move setup move)
    have hmove := polls_move setup w move
    obtain ⟨hcheckup, hprobes⟩ := Prod.mk.inj hmove
    rw [hcheckup, hprobes] at hlater
    have hrun : w.run setup (move :: later) = (w.move setup move).run setup later := rfl
    rw [hrun, hlater, reports]
    simp only [countReports, List.map_append, List.foldl_append]
    rfl

end Polls

end World

end GracefulService
