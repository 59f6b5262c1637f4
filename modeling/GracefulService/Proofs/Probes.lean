import GracefulService.Proofs.Admission
import GracefulService.Proofs.ControlRoutes
import GracefulService.Proofs.Polls

/-!
# What probes answer

A request that reaches a probe is answered in its turn, in every phase, with a report about that moment: on
liveness what the health check says, on readiness the same until the shutdown begins, and that traffic
should stay away ever after. Only the callers who change what the health check answers do so, and the
format of the body has no part in the code.
-/

namespace GracefulService

open Http

/-! ## Routes to the probes -/

/-- The path of a probe. -/
def ProbePaths.path (paths : ProbePaths) : Probe → String
  | .liveness => paths.health
  | .readiness => paths.ready

/-- Every probe has its control route. -/
theorem mem_controlRoutes (config : Config) (probe : Probe) :
    (config.probes.path probe, .get, .probe probe) ∈ Supervisor.controlRoutes config := by
  unfold Supervisor.controlRoutes probeRoutes
  cases probe with
  | liveness => exact List.mem_append_left _ List.mem_cons_self
  | readiness => exact List.mem_append_left _ (List.mem_cons_of_mem _ List.mem_cons_self)

/-- The control routes look at what comes in on a surface. -/
def Site.controls (site : Site) (surface : Surface) : Prop :=
  surface = .management ∨ site.separate = false

/-- Where the control routes look at it, a request that fetches the path of a probe reaches the probe. -/
theorem Site.destination_probe {site : Site} {config : Config}
    (hbuild : RouteTable.build (Supervisor.controlRoutes config) = .ok site.control) {surface : Surface}
    (hcontrols : site.controls surface) {request : Request} {probe : Probe}
    (hfetches : request.Fetches site.control (config.probes.path probe)) :
    site.destination surface request = .control (.probe probe) := by
  have hdispatch := hfetches.dispatch (RouteTable.holds_of_build hbuild) (mem_controlRoutes config probe)
  unfold Site.destination
  cases surface with
  | management =>
    rw [hdispatch]
    rfl
  | primary =>
    rcases hcontrols with hnever | hshared
    · cases hnever
    · rw [hshared, hdispatch]
      rfl

/-! ## Reports -/

/-- What the health check says, in full: its status with its reason or, where it gives none, the name of the
status. Where no check is installed all is well. -/
def healthReport : Option Checkup → Report
  | none => ⟨.ok, "OK"⟩
  | some ⟨status, none⟩ => ⟨status, status.name⟩
  | some ⟨status, some reason⟩ => ⟨status, reason⟩

/-- Whether a service is alive is what its health check says. -/
theorem livenessReport_eq (checkup : Option Checkup) : livenessReport checkup = healthReport checkup := by
  match checkup with
  | none => rfl
  | some ⟨_, none⟩ => rfl
  | some ⟨_, some _⟩ => rfl

/-- A service that is not alive answers with 503. -/
theorem code_liveness (status : Status) :
    Probe.liveness.code status = if status = .failed then 503 else 200 := by
  cases status <;> rfl

/-- A service that is not ready answers with 503. -/
theorem code_readiness (status : Status) :
    Probe.readiness.code status = if status = .ok then 200 else 503 := by
  cases status <;> rfl

/-- What is worse than not being ready is to have failed. -/
theorem worse_notReady (status : Status) :
    status.worse .notReady = if status = .failed then .failed else .notReady := by
  cases status <;> rfl

/-- Until the shutdown begins, readiness says what the health check says. -/
theorem readinessReport_before {phase : Phase} (h : phase.isShuttingDown = false) (checkup : Option Checkup) :
    readinessReport phase checkup = healthReport checkup := by
  unfold readinessReport
  rw [h, livenessReport_eq]
  rfl

/-- From then on, readiness says at best that the service is not ready, and why: its phase. -/
theorem readinessReport_after {phase : Phase} (h : phase.isShuttingDown = true) (checkup : Option Checkup) :
    readinessReport phase checkup
      = ⟨if (healthReport checkup).status = .failed then .failed else .notReady,
          "Service is " ++ phase.name⟩ := by
  simp only [readinessReport, h, if_true, livenessReport_eq, worse_notReady]
  rfl

/-- A response shows a report in a format: with its reason alone, or with all of it. -/
structure Http.Response.Shows (response : Response) (report : Report) (format : BodyFormat) : Prop where
  body : response.body = match format with | .text => report.reason | .json => report.json
  contentType : response.contentType
    = some (match format with | .text => Response.plainText | .json => Response.jsonText)

/-- What leaves a surface for a request that fetches has the status and the body of what was answered. -/
theorem Http.Response.leave_get (response : Response) (surface : Surface) {request : Request}
    (hmethod : request.method = .standard .get) :
    (response.leave surface request true none).body = response.body
      ∧ (response.leave surface request true none).contentType = response.contentType := by
  cases surface <;> simp [Response.leave, Response.finish, hmethod]

/-- The format decides about the body of an answer, not about its code. -/
theorem respond_leave (report : Report) (probe : Probe) (format : BodyFormat) (surface : Surface)
    {request : Request} (hmethod : request.method = .standard .get) :
    let response := (report.respond probe format).leave surface request true none
    response.Shows report format ∧ response.status = probe.code report.status := by
  have hleave := Response.leave_get (report.respond probe format) surface hmethod
  have hstatus := Response.status_leave (report.respond probe format) surface request true none
  cases format <;> exact ⟨⟨hleave.1, hleave.2⟩, hstatus⟩

/-! ## Answers during runs -/

/-- What comes of a request that does not go to the gate. -/
structure Direct where
  /-- Who answers. -/
  answerer : Answerer
  /-- What leaves the surface. -/
  response : Response
  /-- What it does to the snapshot. -/
  deed : Deed

/-- A request with a number is answered directly: neither the gate nor the delegate hears of it. -/
structure Direct.Given (direct : Direct) (w after : World) (serial : Nat) (owner : Owner) : Prop where
  /-- It ends with the answer. -/
  answered : ⟨serial, owner, .answered direct.answerer direct.response⟩ ∈ after.finished
  /-- The deed that comes with the answer is done to the snapshot. -/
  snapshot : after.snapshot = direct.deed.result w.snapshot
  /-- The delegate is not called. -/
  calls : after.calls = w.calls
  /-- The gate lets nobody in. -/
  accepted : after.meters.accepted = w.meters.accepted
  /-- It turns nobody away. -/
  rejected : after.meters.rejected = w.meters.rejected

namespace World

variable {setup : Setup} {w : World} {serial : Nat} {owner : Owner} {surface : Surface} {request : Request}

/-- What comes of a request, with its id, that does not go to the gate. -/
def direct? (setup : Setup) (w : World) (surface : Surface) (request : Request) : Option Direct :=
  match setup.site.destination surface request with
  | .control (.probe probe) =>
    some ⟨.control, ((probe.report w.snapshot.phase w.checkup).respond probe request.bodyFormat).leave
      surface request true none, .nothing⟩
  | .control .markdown =>
    some ⟨.control, markedDown.leave surface request true none, .beginDrain .markedDown⟩
  | .otherMethods allowed =>
    some ⟨.control, (Response.bare 405).leave surface request true (some allowed), .nothing⟩
  | .nowhere => some ⟨.nobody, (Response.bare 404).leave surface request false none, .nothing⟩
  | .gate => none

/-- A request that does not go to the gate is answered where it is received. -/
theorem receive_direct (w : World) {identified : Request}
    (hidentified : identified = (w.identify surface request).2) {direct : Direct}
    (hdirect : w.direct? setup surface identified = some direct) :
    (w.receive setup surface request).2 = .finish (.answered direct.answerer direct.response)
      ∧ (w.receive setup surface request).1.core = w.core.carryOut setup.policy direct.deed := by
  have hcore := core_identify w surface request
  obtain ⟨hcheckup, -⟩ := Prod.mk.inj (polls_identify w surface request)
  have hsnapshot : (w.identify surface request).1.snapshot = w.snapshot :=
    (congrArg snapshot hcore).trans rfl
  unfold direct? at hdirect
  simp only [receive, ← hidentified]
  generalize (w.identify surface request).1 = entered at hcore hcheckup hsnapshot ⊢
  cases hdestination : setup.site.destination surface identified with
  | control action =>
    rw [hdestination] at hdirect
    cases action with
    | probe probe =>
      cases hdirect
      have hreport : (entered.answerProbe probe identified).2
          = (probe.report w.snapshot.phase w.checkup).respond probe identified.bodyFormat := by
        simp only [answerProbe, hsnapshot, hcheckup]
      simp only [answerControl, hreport, carryOut_nothing]
      exact ⟨trivial, (core_answerProbe entered probe identified).trans hcore⟩
    | markdown =>
      cases hdirect
      refine ⟨rfl, ?_⟩
      have hanswered := core_answerMarkdown setup.policy entered
      rw [hcore] at hanswered
      exact hanswered
  | otherMethods allowed =>
    rw [hdestination] at hdirect
    cases hdirect
    exact ⟨rfl, hcore.trans (carryOut_nothing setup.policy w.core).symm⟩
  | gate =>
    rw [hdestination] at hdirect
    cases hdirect
  | nowhere =>
    rw [hdestination] at hdirect
    cases hdirect
    exact ⟨rfl, hcore.trans (carryOut_nothing setup.policy w.core).symm⟩

/-- The turn of a request that does not go to the gate ends with its answer. Only the snapshot changes, by
the deed that comes with it, and neither the gate nor the delegate hears of the request. -/
theorem move_direct (hnumbered : w.Numbered) (hruns : w.Runs serial owner (.arrive surface request))
    {move : Move} (hmove : move.isTurnOf serial = true) {identified : Request}
    (hidentified : identified = (w.identify surface request).2) {direct : Direct}
    (hdirect : w.direct? setup surface identified = some direct) :
    direct.Given w (w.move setup move) serial owner := by
  obtain ⟨task, front, back, rfl, rfl, herrand, -, hmoved⟩ :=
    hnumbered.move_runs_eq setup hruns (fun _ => Errand.noConfusion) hmove
  have hsame := (identify_tasks w (front ++ back) surface request).trans hidentified.symm
  have hbeside : ({ w with tasks := front ++ back } : World).direct? setup surface identified
      = some direct := hdirect
  obtain ⟨hnext, hcore⟩ := receive_direct { w with tasks := front ++ back } hsame.symm hbeside
  have hadmissions : ((direct.deed.readings w.snapshot).foldl Meters.record w.core.meters).accepted
        = w.meters.accepted
      ∧ ((direct.deed.readings w.snapshot).foldl Meters.record w.core.meters).rejected
        = w.meters.rejected := by
    have hdeed : direct.deed = .nothing ∨ direct.deed = .beginDrain .markedDown := by
      unfold direct? at hdirect
      split at hdirect <;> cases hdirect
      · exact Or.inl rfl
      · exact Or.inr rfl
      · exact Or.inl rfl
      · exact Or.inl rfl
    rcases hdeed with hdeed | hdeed
    · rw [hdeed]
      exact ⟨rfl, rfl⟩
    · rw [hdeed]
      cases hchange : (Deed.beginDrain .markedDown).change w.snapshot <;>
        simp only [Deed.readings, hchange, List.foldl_nil, List.foldl_cons, Meters.record] <;>
        exact ⟨rfl, rfl⟩
  rw [hmoved]
  simp only [takeTurn, herrand, turn]
  generalize ({ w with tasks := front ++ back } : World).receive setup surface request = received
    at hnext hcore ⊢
  obtain ⟨after, next⟩ := received
  simp only at hnext hcore
  subst hnext
  constructor
  · exact List.mem_append_right _ List.mem_cons_self
  · exact (congrArg snapshot hcore).trans rfl
  · exact (congrArg calls hcore).trans rfl
  · exact (congrArg (fun v => v.meters.accepted) hcore).trans hadmissions.1
  · exact (congrArg (fun v => v.meters.rejected) hcore).trans hadmissions.2

/-- The turn of a request for a probe ends with the report about the moment, and the snapshot stays as it
is. -/
theorem move_probe (hnumbered : w.Numbered) (hruns : w.Runs serial owner (.arrive surface request))
    {move : Move} (hmove : move.isTurnOf serial = true) {probe : Probe} {identified : Request}
    (hidentified : identified = (w.identify surface request).2)
    (hdestination : setup.site.destination surface identified = .control (.probe probe)) :
    (w.move setup move).snapshot = w.snapshot
      ∧ ⟨serial, owner, .answered .control (((probe.report w.snapshot.phase w.checkup).respond probe
          identified.bodyFormat).leave surface identified true none)⟩ ∈ (w.move setup move).finished := by
  have hdirect : w.direct? setup surface identified = some ⟨.control,
      ((probe.report w.snapshot.phase w.checkup).respond probe identified.bodyFormat).leave surface
        identified true none, .nothing⟩ := by
    simp only [direct?, hdestination]
  have hgiven := move_direct hnumbered hruns hmove hidentified hdirect
  exact ⟨hgiven.snapshot, hgiven.answered⟩

/-- While a request has not been received, somebody has something to do. -/
theorem arrival_not_at_rest (hattentive : w.Attentive) (hruns : w.Runs serial owner (.arrive surface request)) :
    w.isResting = false := by
  obtain ⟨task, hmem, rfl, rfl, herrand⟩ := hruns
  cases hrest : w.isResting with
  | false => rfl
  | true =>
    have hwaits := (hattentive.waits_at_rest hrest hmem).2.1
    rw [herrand] at hwaits
    cases hwaits

end World

/-- In every run, a request that fetches the path of a probe ends in its next turn, and nobody rests before
that. Liveness shows what the health check says at the moment and answers with an error only where that is a
failure, whatever became of the service. Readiness shows the same and answers with an error unless all is
well, while the shutdown has not begun; after any moment of the run at which it had begun, readiness answers
with an error and shows the phase as the reason. In no case has the format a part in the code. -/
theorem probes_report (setup : Setup) (config : Config) (checkup : Option Checkup) (moves : List Move)
    (hbuild : RouteTable.build (Supervisor.controlRoutes config) = .ok setup.site.control) {serial : Nat}
    {owner : Owner} {surface : Surface} {request : Request} {probe : Probe}
    (hruns : ((World.initial checkup).run setup moves).Runs serial owner (.arrive surface request))
    (hcontrols : setup.site.controls surface)
    (hfetches : request.Fetches setup.site.control (config.probes.path probe)) {move : Move}
    (hmove : move.isTurnOf serial = true) :
    let w := (World.initial checkup).run setup moves
    let health := healthReport (currentCheckup checkup moves)
    ∃ report response,
      ⟨serial, owner, .answered .control response⟩ ∈ (w.move setup move).finished
        ∧ (w.move setup move).snapshot = w.snapshot
        ∧ w.isResting = false
        ∧ response.Shows report request.bodyFormat
        ∧ (∀ format, (report.respond probe format).status = response.status)
        ∧ (probe = .liveness →
          report = health ∧ response.status = if health.status = .failed then 503 else 200)
        ∧ (probe = .readiness → w.snapshot.phase.isShuttingDown = false →
          report = health ∧ response.status = if health.status = .ok then 200 else 503)
        ∧ (probe = .readiness →
          (∃ before later, moves = before ++ later
            ∧ ((World.initial checkup).run setup before).snapshot.phase.isShuttingDown = true) →
          report = ⟨if health.status = .failed then .failed else .notReady,
              "Service is " ++ w.snapshot.phase.name⟩
            ∧ response.status = 503) := by
  intro w health
  have hidentified := w.identify_request surface request
  generalize hequal : (w.identify surface request).2 = identified at hidentified
  obtain ⟨hmethod, htarget, hformat⟩ := hidentified
  have hasked : identified.Fetches setup.site.control (config.probes.path probe) := by
    obtain ⟨hget, hrouted⟩ := hfetches
    exact ⟨hmethod.trans hget, htarget ▸ hrouted⟩
  have hnumbered : w.Numbered := World.numbered_run (World.numbered_initial checkup) moves
  have hattentive : w.Attentive := World.attentive_run (World.attentive_initial checkup) moves
  obtain ⟨hsnapshot, hended⟩ := World.move_probe hnumbered hruns hmove hequal.symm
    (Site.destination_probe hbuild hcontrols hasked)
  obtain ⟨hshows, hstatus⟩ := respond_leave (probe.report w.snapshot.phase w.checkup) probe
    identified.bodyFormat surface hasked.method
  have hcheckup : w.checkup = currentCheckup checkup moves :=
    congrArg Prod.fst (World.polls_run setup (World.initial checkup) moves)
  rw [hformat] at hended hshows hstatus
  refine ⟨_, _, hended, hsnapshot, World.arrival_not_at_rest hattentive hruns, hshows, ?_, ?_, ?_, ?_⟩
  · intro format
    rw [hstatus]
    cases format <;> rfl
  · rintro rfl
    have hreport : Probe.liveness.report w.snapshot.phase w.checkup = health := by
      rw [hcheckup]
      exact livenessReport_eq _
    exact ⟨hreport, by rw [hstatus, hreport, code_liveness]⟩
  · rintro rfl hbefore
    have hreport : Probe.readiness.report w.snapshot.phase w.checkup = health := by
      rw [hcheckup]
      exact readinessReport_before hbefore _
    exact ⟨hreport, by rw [hstatus, hreport, code_readiness]⟩
  · rintro rfl ⟨before, later, rfl, hbegun⟩
    have hshutting : w.snapshot.phase.isShuttingDown = true := by
      have hprecedes := World.precedes_run setup ((World.initial checkup).run setup before) later
      rw [← World.run_append] at hprecedes
      exact hprecedes.isShuttingDown hbegun
    have hreport : Probe.readiness.report w.snapshot.phase w.checkup
        = ⟨if health.status = .failed then .failed else .notReady,
            "Service is " ++ w.snapshot.phase.name⟩ := by
      rw [hcheckup]
      exact readinessReport_after hshutting _
    refine ⟨hreport, ?_⟩
    rw [hstatus, hreport, code_readiness]
    split <;> rfl

/-- A service with the usual probes beside a delegate that knows nothing. -/
def bystander : Setup :=
  ⟨⟨(RouteTable.build (Supervisor.controlRoutes .usual)).toOption.getD .empty, false,
    Supervisor.closedSite.delegate⟩, 1000, 1000, .onNotice⟩

/-- The health check of the bystander fails, its shutdown begins, and somebody asks whether it is ready. -/
def bystanderAsked : List Move :=
  [.act (.advance .opened), .act (.advance .listening), .act (.health ⟨.failed, some "disk full"⟩),
    .act (.beginDrain .manualStop),
    .act (.request "a" .primary (some ⟨.standard .get, ⟨"/ready", none⟩, []⟩))]

/-- The bystander answers that it is draining, and worse. -/
theorem probes_report_draining : ∃ response,
    ⟨0, .caller "a", .answered .control response⟩ ∈ (((World.initial (some ⟨.ok, none⟩)).run bystander
        bystanderAsked).move bystander (.turn 0)).finished
      ∧ response.Shows ⟨.failed, "Service is Draining"⟩ .json ∧ response.status = 503 := by
  obtain ⟨control, hbuild⟩ := Config.build_usual
  have hsite : RouteTable.build (Supervisor.controlRoutes .usual) = .ok bystander.site.control := by
    simp [bystander, hbuild, Except.toOption]
  have hfetches : (Request.mk (.standard .get) ⟨"/ready", none⟩ []).Fetches bystander.site.control
      (Config.usual.probes.path .readiness) :=
    .of_plain (RouteTable.holds_of_build hsite)
      (Config.plain_usual _ (List.mem_cons_of_mem _ List.mem_cons_self))
      (mem_controlRoutes .usual .readiness) rfl
  have hruns : ((World.initial (some ⟨.ok, none⟩)).run bystander bystanderAsked).Runs 0 (.caller "a")
      (.arrive .primary ⟨.standard .get, ⟨"/ready", none⟩, []⟩) :=
    ⟨_, List.mem_cons_self, rfl, rfl, rfl⟩
  obtain ⟨report, response, hended, _, _, hshows, _, _, _, hdraining⟩ :=
    probes_report bystander .usual (some ⟨.ok, none⟩) bystanderAsked hsite hruns (Or.inr rfl) hfetches
      (show (Move.turn 0).isTurnOf 0 = true from rfl)
  obtain ⟨rfl, hstatus⟩ := hdraining rfl ⟨bystanderAsked, [], by simp, by decide⟩
  exact ⟨response, hended, hshows, hstatus⟩

end GracefulService
