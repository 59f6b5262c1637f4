import GracefulService.Proofs.Destinations

/-!
# Who answers a request

In every phase and for every method, the control routes answer the requests for the configured paths where
they stand, and no others. Whoever they answer takes no slot and is heard of neither at the gate nor by the
delegate. All other requests go to the gate on the primary surface, and find nobody on the management
surface. This holds of any site that offers the control routes of a configuration, and the sites that
sessions come to serve do.
-/

namespace GracefulService

open Http

/-! ## Answers of control routes -/

/-- A response delivers what was sent to a request with a method: a request for the head alone gets no
body. -/
structure Http.Response.Delivers (response sent : Response) (method : Method) : Prop where
  status : response.status = sent.status
  contentType : response.contentType = sent.contentType
  contentLength : response.contentLength = some sent.body.utf8ByteSize
  body : response.body = if method = .standard .head then "" else sent.body

/-- A response refuses a method and lists those that are served. -/
structure Http.Response.RefusesMethod (response : Response) (allowed : String) : Prop where
  status : response.status = 405
  allow : response.allow = some allowed
  body : response.body = ""

/-- A report leaves a surface as it is, whether it is fetched or asked for its head alone. -/
theorem Report.delivers_leave (report : Report) (probe : Probe) (format : BodyFormat) (surface : Surface)
    {request : Request} (hmethod : Verb.serves .get request.method = true) :
    ((report.respond probe format).leave surface request true none).Delivers
      (report.respond probe format) request.method := by
  have hcases : request.method = .standard .get ∨ request.method = .standard .head := by
    simpa [Verb.serves] using hmethod
  have hlength : (report.respond probe format).contentLength = none := by
    cases format <;> rfl
  rcases hcases with hget | hhead
  · constructor <;> cases surface <;> simp [Response.leave, Response.finish, hget, hlength]
  · constructor <;> cases surface <;> simp [Response.leave, Response.finish, hhead, hlength]

/-- The refusal of a method leaves a surface with the methods that are served. -/
theorem Http.Response.refusesMethod_leave (surface : Surface) (request : Request) (allowed : String) :
    ((Response.bare 405).leave surface request true (some allowed)).RefusesMethod allowed := by
  constructor <;> cases surface <;>
    simp [Response.leave, Response.finish, Response.bare, Response.isSuccess]

namespace World

/-- What a control route for a method does with a request. -/
def routeAnswer (w : World) (surface : Surface) (request : Request) (verb : Verb) (action : Control) :
    Direct :=
  if verb.serves request.method then
    match action with
    | .probe probe =>
      ⟨.control, ((probe.report w.snapshot.phase w.checkup).respond probe request.bodyFormat).leave
        surface request true none, .nothing⟩
    | .markdown => ⟨.control, markedDown.leave surface request true none, .beginDrain .markedDown⟩
  else ⟨.control, (Response.bare 405).leave surface request true (some verb.allowed), .nothing⟩

section RouteAnswer

variable (w : World) (surface : Surface) (request : Request) (verb : Verb) (action : Control)

/-- Whatever a route answers, a control route has answered. -/
theorem answerer_routeAnswer : (w.routeAnswer surface request verb action).answerer = .control := by
  unfold routeAnswer
  split
  · cases action <;> rfl
  · rfl

/-- What a control route does moves no slot. -/
theorem inFlight_routeAnswer :
    ((w.routeAnswer surface request verb action).deed.result w.snapshot).inFlight
      = w.snapshot.inFlight := by
  unfold routeAnswer
  split
  · cases action with
    | probe probe => rfl
    | markdown =>
      simp only [Deed.result_beginDrain]
      split <;> rfl
  · rfl

/-- The route of the mark-down begins the shutdown for the methods that it serves. -/
theorem routeAnswer_markdown (hserves : verb.serves request.method = true) :
    w.routeAnswer surface request verb .markdown
      = ⟨.control, markedDown.leave surface request true none, .beginDrain .markedDown⟩ := by
  unfold routeAnswer
  rw [if_pos hserves]

/-- Any route refuses the other methods, and does nothing. -/
theorem routeAnswer_refuses (hserves : verb.serves request.method = false) :
    (w.routeAnswer surface request verb action).response.RefusesMethod verb.allowed
      ∧ (w.routeAnswer surface request verb action).deed = .nothing := by
  unfold routeAnswer
  rw [if_neg (by rw [hserves]; exact Bool.false_ne_true)]
  exact ⟨Response.refusesMethod_leave surface request verb.allowed, rfl⟩

end RouteAnswer

end World

/-! ## Requests in every phase -/

/-- What became of the turn of a request, where the control routes of a configuration are offered. -/
structure Dispatched (config : Config) (setup : Setup) (w after : World) (serial : Nat) (owner : Owner)
    (surface : Surface) (request : Request) : Prop where
  /-- The control routes answer exactly the requests for the configured paths, where they stand. -/
  control_iff : (∃ response, ⟨serial, owner, .answered .control response⟩ ∈ after.finished)
    ↔ config.StandsOn surface ∧ request.target.path ∈ config.routePaths
  /-- Such a request takes no slot and reaches neither the gate nor the delegate. -/
  apart : config.StandsOn surface → request.target.path ∈ config.routePaths →
    after.snapshot.inFlight = w.snapshot.inFlight ∧ after.calls = w.calls
      ∧ after.meters.accepted = w.meters.accepted ∧ after.meters.rejected = w.meters.rejected
  /-- A probe reports about the moment, to requests that fetch and to those that ask for the head alone. It
  refuses every other method. -/
  probe : ∀ probe, config.StandsOn surface → request.target.path = config.probes.path probe →
    after.snapshot = w.snapshot ∧ ∃ response,
      ⟨serial, owner, .answered .control response⟩ ∈ after.finished
        ∧ (request.method = .standard .get ∨ request.method = .standard .head →
          response.Delivers ((probe.report w.snapshot.phase w.checkup).respond probe request.bodyFormat)
            request.method)
        ∧ (request.method ≠ .standard .get → request.method ≠ .standard .head →
          response.RefusesMethod "GET,HEAD")
  /-- The mark-down begins the shutdown, for the methods that its route serves. It refuses every other
  method. -/
  markdown : ∀ markdown, config.StandsOn surface → config.markdown = some markdown →
    request.target.path = markdown.path →
    ∃ verb response, Verb.ofName? markdown.method = some verb
      ∧ ⟨serial, owner, .answered .control response⟩ ∈ after.finished
      ∧ (verb.serves request.method = true → response.status = 200
        ∧ after.snapshot = (Deed.beginDrain .markedDown).result w.snapshot)
      ∧ (verb.serves request.method = false → response.RefusesMethod verb.allowed
        ∧ after.snapshot = w.snapshot)
  /-- Every other request on the primary surface goes to the gate, and so does every request there where
  the control routes have a surface of their own. -/
  gate : surface = .primary →
    ¬ (config.StandsOn surface ∧ request.target.path ∈ config.routePaths) →
    ∃ identified, identified = (w.identify surface request).2
      ∧ (w.snapshot.phase = .listening →
        LetIn w after serial owner (setup.site.delegate identified) surface identified)
      ∧ (w.snapshot.phase ≠ .listening →
        TurnedAway w after serial owner (setup.site.delegate identified) surface identified)
  /-- Every other request on the management surface finds nobody. -/
  nowhere : surface = .management → request.target.path ∉ config.routePaths →
    after.snapshot = w.snapshot ∧ after.calls = w.calls
      ∧ ∃ response, ⟨serial, owner, .answered .nobody response⟩ ∈ after.finished ∧ response.status = 404

namespace World

variable {config : Config} {setup : Setup} {w : World} {serial : Nat} {owner : Owner} {surface : Surface}
  {request : Request}

section Turn

variable (hsound : config.issues = []) (hliteral : config.IsLiteral) (hoffers : setup.site.Offers config)
  (hnumbered : w.Numbered) (hruns : w.Runs serial owner (.arrive surface request)) {move : Move}
  (hmove : move.isTurnOf serial = true)

include hsound hliteral hoffers hnumbered hruns hmove

omit hliteral in
/-- A request that is routed to a configured path is answered by its route, where that stands. -/
theorem given_routed (hstands : config.StandsOn surface) {path : String}
    (hroutes : setup.site.control.Routes request.target.path path) {verb : Verb} {action : Control}
    (hadded : (path, verb, action) ∈ Supervisor.controlRoutes config) :
    (w.routeAnswer surface (w.identify surface request).2 verb action).Given w (w.move setup move)
      serial owner := by
  obtain ⟨hmethod, -, -⟩ := identify_request w surface request
  have hdestination := hoffers.destination_routed hsound hstands hroutes hadded
  rw [← destination_identify w setup.site surface request] at hdestination
  refine move_direct hnumbered hruns hmove rfl ?_
  unfold direct? routeAnswer
  rw [hdestination, hmethod]
  cases verb.serves request.method <;> cases action <;> rfl

/-- A request for a configured path is answered by its route, where that stands. -/
theorem given_own (hstands : config.StandsOn surface) {verb : Verb} {action : Control}
    (hadded : (request.target.path, verb, action) ∈ Supervisor.controlRoutes config) :
    (w.routeAnswer surface (w.identify surface request).2 verb action).Given w (w.move setup move)
      serial owner := by
  have hmem : request.target.path ∈ config.routePaths := by
    rw [← Config.controlRoutes_paths hsound]
    exact List.mem_map_of_mem hadded
  have hroutes := hoffers.routes_plain (hliteral.plain hsound _ hmem) hadded
  exact given_routed hsound hoffers hnumbered hruns hmove hstands hroutes hadded

/-- A request that goes to the gate is let in or turned away, by the phase alone. -/
theorem given_gate (hprimary : surface = .primary)
    (hother : ¬ (config.StandsOn surface ∧ request.target.path ∈ config.routePaths))
    {identified : Request} (hidentified : identified = (w.identify surface request).2) :
    (w.snapshot.phase = .listening → LetIn w (w.move setup move) serial owner
        (setup.site.delegate identified) surface identified)
      ∧ (w.snapshot.phase ≠ .listening → TurnedAway w (w.move setup move) serial owner
        (setup.site.delegate identified) surface identified) := by
  have hdestination : setup.site.destination surface request = .gate := by
    by_cases hstands : config.StandsOn surface
    · have hpath : request.target.path ∉ config.routePaths := fun hmem => hother ⟨hstands, hmem⟩
      rw [hoffers.destination_other hsound hliteral hstands hpath, hprimary]
      rfl
    · exact (hoffers.destination_of_not_stands hstands).2
  rw [← destination_identify w setup.site surface request, ← hidentified] at hdestination
  exact turn_arrive setup hnumbered hruns hmove hidentified hdestination

/-- A request for another path on the management surface is answered by nobody. -/
theorem given_nowhere (hmanagement : surface = .management)
    (hother : request.target.path ∉ config.routePaths) :
    Direct.Given ⟨.nobody, (Response.bare 404).leave surface (w.identify surface request).2 false none,
      .nothing⟩ w (w.move setup move) serial owner := by
  have hstands : config.StandsOn surface := Or.inl hmanagement
  have hdestination := hoffers.destination_other hsound hliteral hstands hother
  rw [← destination_identify w setup.site surface request] at hdestination
  refine move_direct hnumbered hruns hmove rfl ?_
  unfold direct?
  rw [hdestination, hmanagement]
  rfl

/-- Who is answered by a control route has asked for a configured path where the control routes stand. -/
theorem own_of_answered {response : Response}
    (hanswered : ⟨serial, owner, .answered .control response⟩ ∈ (w.move setup move).finished) :
    config.StandsOn surface ∧ request.target.path ∈ config.routePaths := by
  have hafter : (w.move setup move).Numbered := (move_happens setup w move).numbered hnumbered
  -- Any other end of the request would be a second one.
  have hunique : ∀ {outcome}, ⟨serial, owner, outcome⟩ ∈ (w.move setup move).finished →
      outcome = .answered .control response := by
    intro outcome hended
    have hsame := hafter.ending_unique hended hanswered rfl
    exact (Ending.mk.inj hsame).2.2
  by_contra hother
  cases hsurface : surface with
  | primary =>
    obtain ⟨hletIn, hturnedAway⟩ := given_gate hsound hliteral hoffers hnumbered hruns hmove hsurface hother
      rfl
    by_cases hlistening : w.snapshot.phase = .listening
    · cases himmediate : (setup.site.delegate (w.identify surface request).2).work.isImmediate with
      | false =>
        obtain ⟨-, x, -, task, hmem, hserial, -⟩ := (hletIn hlistening).waits himmediate
        exact hafter.not_over hmem hanswered hserial
      | true => cases hunique ((hletIn hlistening).immediate himmediate).2
    · cases hunique (hturnedAway hlistening).answered
  | management =>
    have hpath : request.target.path ∉ config.routePaths := fun hmem => hother ⟨Or.inl hsurface, hmem⟩
    cases hunique (given_nowhere hsound hliteral hoffers hnumbered hruns hmove hsurface hpath).answered

/-- A probe reports to those who fetch, with or without the body, and refuses all others. -/
theorem given_probe (hstands : config.StandsOn surface) {probe : Probe}
    (hpath : request.target.path = config.probes.path probe) :
    (w.move setup move).snapshot = w.snapshot ∧ ∃ response,
      ⟨serial, owner, .answered .control response⟩ ∈ (w.move setup move).finished
        ∧ (request.method = .standard .get ∨ request.method = .standard .head →
          response.Delivers ((probe.report w.snapshot.phase w.checkup).respond probe request.bodyFormat)
            request.method)
        ∧ (request.method ≠ .standard .get → request.method ≠ .standard .head →
          response.RefusesMethod "GET,HEAD") := by
  have hadded := mem_controlRoutes config probe
  rw [← hpath] at hadded
  have hgiven := given_own hsound hliteral hoffers hnumbered hruns hmove hstands hadded
  obtain ⟨hmethod, -, hformat⟩ := identify_request w surface request
  unfold routeAnswer at hgiven
  rw [hmethod, hformat] at hgiven
  by_cases hserves : Verb.serves .get request.method = true
  · rw [if_pos hserves] at hgiven
    refine ⟨hgiven.snapshot, _, hgiven.answered, fun _ => ?_, fun hget hhead => ?_⟩
    · rw [← hmethod] at hserves ⊢
      exact Report.delivers_leave _ probe _ surface hserves
    · simp [Verb.serves, hget, hhead] at hserves
  · rw [if_neg hserves] at hgiven
    refine ⟨hgiven.snapshot, _, hgiven.answered, fun hfetches => ?_, fun _ _ => ?_⟩
    · rcases hfetches with hget | hhead
      · simp [Verb.serves, hget] at hserves
      · simp [Verb.serves, hhead] at hserves
    · exact Response.refusesMethod_leave surface _ _

/-- The mark-down begins the shutdown for the methods that it serves, and refuses all others. -/
theorem given_markdown (hstands : config.StandsOn surface) {markdown : MarkdownRoute}
    (hmarkdown : config.markdown = some markdown) (hpath : request.target.path = markdown.path) :
    ∃ verb response, Verb.ofName? markdown.method = some verb
      ∧ ⟨serial, owner, .answered .control response⟩ ∈ (w.move setup move).finished
      ∧ (verb.serves request.method = true → response.status = 200
        ∧ (w.move setup move).snapshot = (Deed.beginDrain .markedDown).result w.snapshot)
      ∧ (verb.serves request.method = false → response.RefusesMethod verb.allowed
        ∧ (w.move setup move).snapshot = w.snapshot) := by
  obtain ⟨verb, hverb, hadded⟩ := Config.exists_markdown hsound hmarkdown
  rw [← hpath] at hadded
  have hgiven := given_own hsound hliteral hoffers hnumbered hruns hmove hstands hadded
  have hanswered := hgiven.answered
  have hsnapshot := hgiven.snapshot
  rw [answerer_routeAnswer] at hanswered
  rw [← (identify_request w surface request).1]
  refine ⟨verb, _, hverb, hanswered, fun hserves => ?_, fun hrefused => ?_⟩
  · rw [routeAnswer_markdown w surface _ verb hserves] at hsnapshot ⊢
    exact ⟨Response.status_leave _ _ _ _ _, hsnapshot⟩
  · obtain ⟨hrefuses, hnothing⟩ := routeAnswer_refuses w surface _ verb .markdown hrefused
    rw [hnothing] at hsnapshot
    exact ⟨hrefuses, hsnapshot⟩

/-- The turn of a request goes as the configuration says. -/
theorem dispatched : Dispatched config setup w (w.move setup move) serial owner surface request := by
  have hown : ∀ {verb action}, config.StandsOn surface →
      (request.target.path, verb, action) ∈ Supervisor.controlRoutes config →
      (w.routeAnswer surface (w.identify surface request).2 verb action).Given w (w.move setup move)
        serial owner :=
    fun hstands hadded => given_own hsound hliteral hoffers hnumbered hruns hmove hstands hadded
  constructor
  · constructor
    · rintro ⟨response, hanswered⟩
      exact own_of_answered hsound hliteral hoffers hnumbered hruns hmove hanswered
    · rintro ⟨hstands, hmem⟩
      obtain ⟨verb, action, hadded⟩ := Config.exists_route hsound hmem
      have hanswered := (hown hstands hadded).answered
      rw [answerer_routeAnswer] at hanswered
      exact ⟨_, hanswered⟩
  · intro hstands hmem
    obtain ⟨verb, action, hadded⟩ := Config.exists_route hsound hmem
    have hgiven := hown hstands hadded
    refine ⟨?_, hgiven.calls, hgiven.accepted, hgiven.rejected⟩
    rw [hgiven.snapshot]
    exact inFlight_routeAnswer w surface _ verb action
  · intro probe hstands hpath
    exact given_probe hsound hliteral hoffers hnumbered hruns hmove hstands hpath
  · intro markdown hstands hmarkdown hpath
    exact given_markdown hsound hliteral hoffers hnumbered hruns hmove hstands hmarkdown hpath
  · intro hprimary hother
    obtain ⟨hletIn, hturnedAway⟩ := given_gate hsound hliteral hoffers hnumbered hruns hmove hprimary hother
      rfl
    exact ⟨_, rfl, hletIn, hturnedAway⟩
  · intro hmanagement hpath
    have hgiven := given_nowhere hsound hliteral hoffers hnumbered hruns hmove hmanagement hpath
    exact ⟨hgiven.snapshot, hgiven.calls, _, hgiven.answered, Response.status_leave _ _ _ _ _⟩

end Turn

end World

/-! ## Sessions -/

namespace Session

open World

/-- Bound surfaces are those that are configured, and what is served offers the control routes. -/
structure Fits (config : Config) (s : Session) : Prop where
  /-- The session is about the configuration. -/
  configured : s.supervisor.config = config
  /-- Openings hold the surfaces that are configured. -/
  openings : ∀ stage ∈ s.openings, ∀ sockets ∈ stage.sockets?,
    sockets.management.isSome = config.management.isSome
  /-- So do those who have taken surfaces. -/
  beginnings : ∀ beginning ∈ s.beginnings,
    beginning.sockets.management.isSome = config.management.isSome
  /-- So do the surfaces that wait to be served. -/
  waiting : ∀ sockets ∈ s.supervisor.sockets, sockets.management.isSome = config.management.isSome
  /-- What is served offers the control routes. -/
  site : ∀ site ∈ s.supervisor.site, site.Offers config

/-- A session that has just begun holds no surfaces. -/
theorem fits_create (config : Config) (machine : Machine) (checkup : Option Checkup) :
    (create config machine checkup).Fits config where
  configured := rfl
  openings := List.forall_mem_nil _
  beginnings := List.forall_mem_nil _
  waiting _ hnone := by cases hnone
  site _ hnone := by cases hnone

variable {config : Config} {s : Session}

/-- Whatever a stage of an opening comes to, the surfaces that it passes on or publishes are those that are
configured. -/
theorem Fits.stageDone (h : s.Fits config) {stage : Opening} {after : Supervisor} {next : OpeningNext}
    (hstage : ∀ sockets ∈ stage.sockets?, sockets.management.isSome = config.management.isSome)
    (hdone : Supervisor.StageDone s.supervisor stage after next) :
    after.config = config ∧ after.site = s.supervisor.site
      ∧ (∀ sockets ∈ after.sockets, sockets.management.isSome = config.management.isSome)
      ∧ ∀ later, next = .goOn later → ∀ sockets ∈ later.sockets?,
        sockets.management.isSome = config.management.isSome := by
  have hconfig := h.configured
  have hwaiting := h.waiting
  cases hdone with
  | checked hphase =>
    refine ⟨hconfig, rfl, hwaiting, ?_⟩
    rintro _ ⟨⟩ sockets hnone
    cases hnone
  | notOpenable hfault => exact ⟨hconfig, rfl, hwaiting, fun _ hgoes => by cases hgoes⟩
  | bound hcore hfits =>
    refine ⟨hconfig, rfl, hwaiting, ?_⟩
    rintro _ ⟨⟩ _ ⟨⟩
    rw [← hconfig]
    exact hfits
  | unbound hcore => exact ⟨hconfig, rfl, hwaiting, fun _ hgoes => by cases hgoes⟩
  | committed hphase =>
    refine ⟨hconfig, rfl, hwaiting, ?_⟩
    rintro _ ⟨⟩
    exact hstage
  | tooLate hcreated hdraining => exact ⟨hconfig, rfl, hwaiting, fun _ hgoes => by cases hgoes⟩
  | published => exact ⟨hconfig, rfl, hstage, fun _ hgoes => by cases hgoes⟩

/-- A stage of an opening binds the surfaces that are configured, and passes them on. -/
theorem Fits.takeStage (h : s.Fits config) {stage : Opening} {before after : List Opening}
    (hopening : s.HasOpening stage before after) (binding : Binding) :
    (s.takeStage binding stage before after).Fits config := by
  have hall : (∀ sockets ∈ stage.sockets?, sockets.management.isSome = config.management.isSome)
      ∧ ∀ other ∈ before ++ after, ∀ sockets ∈ other.sockets?,
        sockets.management.isSome = config.management.isSome := by
    have hopenings := h.openings
    rcases hopening with hopenings' | ⟨rfl, rfl, rfl⟩
    · rw [hopenings', List.forall_mem_append, List.forall_mem_cons] at hopenings
      exact ⟨hopenings.2.1, List.forall_mem_append.2 ⟨hopenings.1, hopenings.2.2⟩⟩
    · rw [List.append_nil]
      exact ⟨(fun _ hnone => by cases hnone), hopenings⟩
  obtain ⟨hstage, hothers⟩ := hall
  have hdone := Supervisor.stageDone s.supervisor binding stage
  unfold Session.takeStage
  split
  · rename_i supervisor next heq
    rw [heq] at hdone
    obtain ⟨hconfig, hsite, hwaiting, hnext⟩ := h.stageDone hstage hdone
    rw [List.forall_mem_append] at hothers
    refine ⟨hconfig, ?_, h.beginnings, hwaiting, fun site hmem => h.site site (hsite ▸ hmem)⟩
    exact List.forall_mem_append.2 ⟨hothers.1, List.forall_mem_cons.2 ⟨hnext next rfl, hothers.2⟩⟩
  · rename_i supervisor result heq
    rw [heq] at hdone
    obtain ⟨hconfig, hsite, hwaiting, -⟩ := h.stageDone hstage hdone
    exact ⟨hconfig, hothers, h.beginnings, hwaiting, fun site hmem => h.site site (hsite ▸ hmem)⟩

/-- Whoever has taken surfaces serves them with the control routes, or the routes cannot be built. -/
theorem Fits.begin (h : s.Fits config) {beginning : Beginning} {before after : List Beginning}
    (hbeginnings : s.beginnings = before ++ beginning :: after) (delegate : Delegate) :
    (s.begin beginning delegate before after).Fits config := by
  have hall := h.beginnings
  rw [hbeginnings, List.forall_mem_append, List.forall_mem_cons] at hall
  obtain ⟨hbefore, hbeginning, hafter⟩ := hall
  cases beginning with
  | letIn sockets =>
    have hworld := Supervisor.admitRequests_eq s.supervisor
    simp only [Session.begin]
    rw [hworld]
    exact ⟨h.configured, h.openings,
      List.forall_mem_append.2 ⟨hbefore, List.forall_mem_cons.2 ⟨hbeginning, hafter⟩⟩, h.waiting, h.site⟩
  | serve sockets =>
    have hothers := List.forall_mem_append.2 ⟨hbefore, hafter⟩
    simp only [Session.begin]
    split
    · exact ⟨h.configured, h.openings, hothers, h.waiting, h.site⟩
    · rename_i control hbuild
      rw [h.configured] at hbuild
      refine ⟨h.configured, h.openings, hothers, h.waiting, ?_⟩
      rintro _ ⟨⟩
      exact ⟨hbuild, hbeginning⟩

/-- Every call leaves what is bound and served as it is configured. -/
theorem Fits.take (h : s.Fits config) (call : Call) : (s.take call).Fits config := by
  cases call with
  | openService => exact h.takeStage (Or.inr ⟨rfl, rfl, rfl⟩) s.supervisor.machine.bind
  | goOnOpening place binding =>
    simp only [Session.take]
    split
    · exact h
    · rename_i stage hstage
      obtain ⟨hplace, rfl⟩ := List.getElem?_eq_some_iff.1 hstage
      refine h.takeStage (Or.inl ?_) binding
      rw [List.getElem_cons_drop, List.take_append_drop]
  | listen =>
    cases hsockets : s.supervisor.sockets with
    | none =>
      rw [take_listen_none hsockets]
      exact ⟨h.configured, h.openings, h.beginnings, h.waiting, h.site⟩
    | some sockets =>
      rw [take_listen_some hsockets]
      refine ⟨h.configured, h.openings, ?_, (fun _ hnone => by cases hnone), h.site⟩
      exact List.forall_mem_append.2 ⟨h.beginnings, List.forall_mem_singleton.2 (h.waiting sockets hsockets)⟩
  | goOnListening place delegate =>
    simp only [Session.take]
    split
    · exact h
    · rename_i beginning hbeginning
      obtain ⟨hplace, rfl⟩ := List.getElem?_eq_some_iff.1 hbeginning
      refine h.begin ?_ delegate
      rw [List.getElem_cons_drop, List.take_append_drop]
  | aside move =>
    simp only [Session.take]
    split
    · rename_i haside
      have hworld := Supervisor.move_aside (s := s.supervisor) haside
      rw [hworld]
      exact ⟨h.configured, h.openings, h.beginnings, h.waiting, h.site⟩
    · exact h

/-- All calls leave what is bound and served as it is configured. -/
theorem Fits.run (h : s.Fits config) (calls : List Call) : (s.run calls).Fits config := by
  induction calls generalizing s with
  | nil => exact h
  | cons call later ih => exact ih (h.take call)

/-- No session gives two tasks one number. -/
theorem numbered_run_create (config : Config) (machine : Machine) (checkup : Option Checkup)
    (calls : List Call) : ((create config machine checkup).run calls).supervisor.world.Numbered :=
  (run_leads (create config machine checkup) calls).preserves
    (fun _ _ _ _ hhappening hnumbered => hhappening.numbered hnumbered) (numbered_initial checkup)

end Session

/-- Dispatch is exact where all configured paths stand for themselves. The control routes of a sound
configuration can be built then, and every site that offers them dispatches as the configuration says, in
every run and so in every phase, for every request. In every session, whoever goes on to serve the bound
surfaces does so with such a site. -/
theorem dispatch_exact (config : Config) (hsound : config.issues = []) (hliteral : config.IsLiteral) :
    (∃ control, RouteTable.build (Supervisor.controlRoutes config) = .ok control)
      ∧ (∀ (setup : Setup) (checkup : Option Checkup) (moves : List Move), setup.site.Offers config →
        let w := (World.initial checkup).run setup moves
        ∀ serial owner surface request move, w.Runs serial owner (.arrive surface request) →
          move.isTurnOf serial = true →
          Dispatched config setup w (w.move setup move) serial owner surface request)
      ∧ ∀ (machine : Machine) (checkup : Option Checkup) (calls : List Call),
        let s := (Session.create config machine checkup).run calls
        (∀ place sockets delegate, s.beginnings[place]? = some (.serve sockets) →
          s.Hears (.goOnListening place delegate) .serving)
        ∧ ∀ site, s.supervisor.site = some site → site.Offers config
          ∧ ∀ serial owner surface request move,
            s.supervisor.world.Runs serial owner (.arrive surface request) →
            move.isTurnOf serial = true →
            Dispatched config s.supervisor.setup s.supervisor.world
              (s.supervisor.world.move s.supervisor.setup move) serial owner surface request := by
  have hbuild : ∃ control, RouteTable.build (Supervisor.controlRoutes config) = .ok control :=
    (Config.build_controlRoutes_iff hsound).2
      (Config.routable_of_plain hsound (hliteral.plain hsound))
  refine ⟨hbuild, ?_, ?_⟩
  · intro setup checkup moves hoffers w serial owner surface request move hruns hmove
    have hnumbered : w.Numbered := World.numbered_run (World.numbered_initial checkup) moves
    exact World.dispatched hsound hliteral hoffers hnumbered hruns hmove
  · intro machine checkup calls s
    have hfits : s.Fits config := (Session.fits_create config machine checkup).run calls
    have hnumbered : s.supervisor.world.Numbered :=
      Session.numbered_run_create config machine checkup calls
    constructor
    · intro place sockets delegate hplace
      rw [Session.hears_serving_iff hplace, hfits.configured]
      exact hbuild
    · intro site hsite
      have hoffers : site.Offers config := hfits.site site hsite
      refine ⟨hoffers, ?_⟩
      intro serial owner surface request move hruns hmove
      have hserved : s.supervisor.setup.site = site := by
        unfold Supervisor.setup
        rw [hsite]
        rfl
      exact World.dispatched hsound hliteral (hserved ▸ hoffers) hnumbered hruns hmove

/-- The usual configuration with a management surface and a mark-down. -/
def managed : Config :=
  { Config.usual with management := some .anywhere, markdown := some .usual }

/-- The managed configuration is sound. -/
theorem issues_managed : managed.issues = [] := by decide

/-- All paths of the managed configuration stand for themselves. -/
theorem literal_managed : managed.IsLiteral := by
  intro path hpath
  have hcases : path = "/health" ∨ path = "/ready" ∨ path = "/markdown" := by
    simpa [Config.routePaths, Config.paths, managed, Config.usual, ProbePaths.usual, MarkdownRoute.usual]
      using hpath
  rcases hcases with rfl | rfl | rfl <;> exact ⟨by decide, by decide, by decide⟩

/-- The managed service listens. Somebody asks for its health on the primary surface, somebody marks it down,
and somebody asks for its health by a path with one more slash. -/
def managedCalls : List Call :=
  Session.attempt 0 (Machine.bind ⟨[], true⟩) ++ [.listen,
    .goOnListening 0 Supervisor.closedSite.delegate, .goOnListening 0 Supervisor.closedSite.delegate]
  ++ ([.act (.request "a" .primary (some ⟨.standard .get, ⟨"/health", none⟩, []⟩)),
    .act (.request "b" .management (some ⟨.standard .post, ⟨"/markdown", none⟩, []⟩)),
    .act (.request "c" .management (some ⟨.standard .get, ⟨"/health/", none⟩, []⟩))] : List Move).map
      fun move => .aside (.run move)

/-- The first is let in at the gate, the second begins the shutdown, and the third finds nobody. -/
theorem dispatch_exact_managed :
    let s := (Session.create managed ⟨[], true⟩ none).run managedCalls
    (∃ handling identified, LetIn s.supervisor.world (s.supervisor.world.move s.supervisor.setup (.turn 3)) 3
        (.caller "a") handling .primary identified)
      ∧ (s.supervisor.world.move s.supervisor.setup (.turn 4)).snapshot.phase = .draining
      ∧ ∃ response, ⟨5, .caller "c", .answered .nobody response⟩
          ∈ (s.supervisor.world.move s.supervisor.setup (.turn 5)).finished
        ∧ response.status = 404 := by
  intro s
  have hserved : s.supervisor.site.isSome = true := by decide +kernel
  obtain ⟨site, hsite⟩ := Option.isSome_iff_exists.1 hserved
  have hdispatched := ((dispatch_exact managed issues_managed literal_managed).2.2 ⟨[], true⟩ none
    managedCalls).2 site hsite
  have hlistening : s.supervisor.world.snapshot.phase = .listening := by decide +kernel
  have halone : ¬ managed.StandsOn .primary := by
    rintro (hnever | hnone)
    · cases hnever
    · cases hnone
  refine ⟨?_, ?_, ?_⟩
  · have hruns : s.supervisor.world.Runs 3 (.caller "a")
        (.arrive .primary ⟨.standard .get, ⟨"/health", none⟩, []⟩) :=
      ⟨.fresh 3 (.caller "a") (.arrive .primary ⟨.standard .get, ⟨"/health", none⟩, []⟩),
        by decide +kernel, rfl, rfl, rfl⟩
    obtain ⟨identified, -, hletIn, -⟩ := (hdispatched.2 3 (.caller "a") .primary _ (.turn 3) hruns rfl).gate
      rfl fun hstands => halone hstands.1
    exact ⟨_, identified, hletIn hlistening⟩
  · have hruns : s.supervisor.world.Runs 4 (.caller "b")
        (.arrive .management ⟨.standard .post, ⟨"/markdown", none⟩, []⟩) :=
      ⟨.fresh 4 (.caller "b") (.arrive .management ⟨.standard .post, ⟨"/markdown", none⟩, []⟩),
        by decide +kernel, rfl, rfl, rfl⟩
    obtain ⟨verb, response, hverb, -, hserves, -⟩ :=
      (hdispatched.2 4 (.caller "b") .management _ (.turn 4) hruns rfl).markdown .usual (Or.inl rfl) rfl rfl
    have hpost : verb = .post := by
      have hname : Verb.ofName? MarkdownRoute.usual.method = some .post := by decide
      exact Option.some.inj (hverb.symm.trans hname)
    rw [(hserves (by rw [hpost]; rfl)).2, Deed.result_beginDrain, hlistening]
    rfl
  · have hruns : s.supervisor.world.Runs 5 (.caller "c")
        (.arrive .management ⟨.standard .get, ⟨"/health/", none⟩, []⟩) :=
      ⟨.fresh 5 (.caller "c") (.arrive .management ⟨.standard .get, ⟨"/health/", none⟩, []⟩),
        by decide +kernel, rfl, rfl, rfl⟩
    exact ((hdispatched.2 5 (.caller "c") .management _ (.turn 5) hruns rfl).nowhere rfl (by decide)).2.2

end GracefulService
