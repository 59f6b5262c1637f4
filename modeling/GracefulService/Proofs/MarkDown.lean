import GracefulService.Proofs.Dispatch

/-!
# What a mark-down does

A mark-down is configured with one method. A request with that method is told that the service is marked down: it
begins the shutdown unless that has begun, and changes nothing afterwards. All other methods are refused and change
nothing. Only a route for fetching also takes the requests that ask for the head alone, so that these begin the
shutdown too. The answer to such a request has no body, and neither has the answer to a request for a tunnel.
This holds in every phase of every run, for any path that is routed to the mark-down, and for its route alone.
-/

namespace GracefulService

open Http

/-- A response says that the service is marked down, to a request with a method. -/
structure Http.Response.SaysMarkedDown (response : Response) (method : Method) : Prop where
  status : response.status = 200
  contentType : response.contentType = some Response.plainText
  /-- HTTP leaves the body out where only the head is asked for, and where a tunnel is. -/
  body : response.body = if method = .standard .head ∨ method = .standard .connect then "" else "Marked down"

/-- A mark-down for a method is triggered by that very method and, where it can be fetched, by requests for the head
alone. -/
def Http.Verb.TriggeredBy (verb : Verb) (method : Method) : Prop :=
  method = .standard verb ∨ (verb = .get ∧ method = .standard .head)

/-- What the mark-down for one method answers to a request with some method, and what it makes of the snapshot. -/
structure MarksDown (verb : Verb) (method : Method) (before after : Snapshot) (response : Response) : Prop where
  /-- Who triggers it is told that the service is marked down. -/
  told : verb.TriggeredBy method → response.SaysMarkedDown method
  /-- It begins the shutdown, unless that has begun. -/
  begins : verb.TriggeredBy method → before.phase.isShuttingDown = false →
    after = { before with phase := .draining, cause := some .markedDown }
  /-- A shutdown that has begun goes on as it is. -/
  keeps : before.phase.isShuttingDown = true → after = before
  /-- All others are refused and change nothing. -/
  refuses : ¬ verb.TriggeredBy method → response.RefusesMethod verb.allowed ∧ after = before

/-- The answer to a mark-down leaves a surface as the method of the request wants it. -/
theorem saysMarkedDown_leave (surface : Surface) (request : Request) :
    (World.markedDown.leave surface request true none).SaysMarkedDown request.method := by
  have hsuccess : World.markedDown.isSuccess = true := by decide
  have hsome : World.markedDown.body.isEmpty = false := by decide
  constructor
  · exact Response.status_leave _ _ _ _ _
  all_goals
    by_cases hconnect : request.method = .standard .connect
    · cases surface <;>
        simp [Response.leave, Response.finish, Response.asTunnel, hconnect, hsuccess, hsome] <;> rfl
    · by_cases hhead : request.method = .standard .head <;> cases surface <;>
        simp [Response.leave, Response.finish, hconnect, hhead] <;> rfl

namespace World

/-- What the route of a mark-down does with a request. -/
theorem marksDown_routeAnswer (w : World) (surface : Surface) (request : Request) (verb : Verb) :
    MarksDown verb request.method w.snapshot
      ((w.routeAnswer surface request verb .markdown).deed.result w.snapshot)
      (w.routeAnswer surface request verb .markdown).response := by
  have htriggered : verb.serves request.method = true ↔ verb.TriggeredBy request.method := by
    simp [Verb.serves, Verb.TriggeredBy]
  have hresult := Deed.result_beginDrain w.snapshot .markedDown
  rw [Deed.canAdvance_draining] at hresult
  cases hserves : verb.serves request.method with
  | true =>
    have hdoes := htriggered.1 hserves
    rw [routeAnswer_markdown w surface request verb hserves]
    constructor
    · exact fun _ => saysMarkedDown_leave surface request
    · intro _ hopen
      exact hresult.trans (by rw [hopen]; rfl)
    · intro hshutting
      exact hresult.trans (by rw [hshutting]; rfl)
    · exact fun hnot => absurd hdoes hnot
  | false =>
    have hnot : ¬ verb.TriggeredBy request.method := fun hdoes =>
      Bool.false_ne_true (hserves.symm.trans (htriggered.2 hdoes))
    obtain ⟨hrefuses, hnothing⟩ := routeAnswer_refuses w surface request verb .markdown hserves
    rw [hnothing]
    exact ⟨fun hdoes => absurd hdoes hnot, fun hdoes => absurd hdoes hnot, fun _ => rfl, fun _ => ⟨hrefuses, rfl⟩⟩

end World

/-- A request that is routed to the mark-down for a method is answered there and then, and nothing else happens in its
turn: the delegate is not called. -/
structure AnsweredByMarkDown (verb : Verb) (w after : World) (serial : Nat) (owner : Owner) (request : Request) :
    Prop where
  marksDown : ∃ response, ⟨serial, owner, .answered .control response⟩ ∈ after.finished
    ∧ MarksDown verb request.method w.snapshot after.snapshot response
  calls : after.calls = w.calls

/-- Wherever a mark-down of a sound configuration is offered, the requests that are routed to it are answered by it. -/
theorem World.answeredByMarkDown {config : Config} (hsound : config.issues = []) {path : String} {verb : Verb}
    (hadded : (path, verb, .markdown) ∈ Supervisor.controlRoutes config) {setup : Setup}
    (hoffers : setup.site.Offers config) {w : World} (hnumbered : w.Numbered) {serial : Nat} {owner : Owner}
    {surface : Surface} {request : Request} (hruns : w.Runs serial owner (.arrive surface request)) {move : Move}
    (hmove : move.isTurnOf serial = true) (hstands : config.StandsOn surface)
    (hroutes : setup.site.control.Routes request.target.path path) :
    AnsweredByMarkDown verb w (w.move setup move) serial owner request := by
  have hgiven := World.given_routed hsound hoffers hnumbered hruns hmove hstands hroutes hadded
  have hmarks := World.marksDown_routeAnswer w surface (w.identify surface request).2 verb
  rw [(identify_request w surface request).1, ← hgiven.snapshot] at hmarks
  have hanswered := hgiven.answered
  rw [World.answerer_routeAnswer] at hanswered
  exact ⟨⟨_, hanswered, hmarks⟩, hgiven.calls⟩

/-- The route of a mark-down does the same where it is called alone. -/
theorem Supervisor.marksDown_callMarkdown (s : Supervisor) {path : String} {verb : Verb} {control : RouteTable Control}
    (hbuild : RouteTable.build [(path, verb, .markdown)] = .ok control) {request : Request}
    (hroutes : control.Routes request.target.path path) :
    MarksDown verb request.method s.world.snapshot (s.callMarkdown control request).1.world.snapshot
      (s.callMarkdown control request).2 := by
  have hdispatch := (RouteTable.holds_of_build hbuild).dispatch_routed (by simp) hroutes List.mem_cons_self
  have hdirect : s.world.direct? { s.setup with site := ⟨control, true, closedSite.delegate⟩ } .management request
      = some (s.world.routeAnswer .management request verb .markdown) := by
    unfold World.direct? World.routeAnswer
    simp only [Site.destination, hdispatch]
    cases verb.serves request.method <;> rfl
  have hidentified : request = (s.world.identify .management request).2 := rfl
  obtain ⟨hnext, hcore⟩ := World.receive_direct s.world hidentified hdirect
  have hsnapshot : (s.callMarkdown control request).1.world.snapshot
      = (s.world.routeAnswer .management request verb .markdown).deed.result s.world.snapshot := by
    rw [callMarkdown_world]
    exact (congrArg World.snapshot hcore).trans rfl
  rw [callMarkdown_response s hnext, hsnapshot]
  exact World.marksDown_routeAnswer s.world .management request verb

/-- A mark-down is exact. The one that a sound configuration has is for a standard method, and whatever offers it
answers the requests that are routed to it by that method alone, in every run and so in every phase. A path
without holes is routed to it. In every session, what is served does so, and the route of the mark-down alone. -/
theorem markdown_exact (config : Config) (hsound : config.issues = []) {markdown : MarkdownRoute}
    (hmarkdown : config.markdown = some markdown) :
    ∃ verb, Verb.ofName? markdown.method = some verb
      ∧ (∀ (setup : Setup) (checkup : Option Checkup) (moves : List Move), setup.site.Offers config →
        let w := (World.initial checkup).run setup moves
        (IsPlain markdown.path → setup.site.control.Routes markdown.path markdown.path)
        ∧ ∀ serial owner surface request move, w.Runs serial owner (.arrive surface request) →
          move.isTurnOf serial = true → config.StandsOn surface →
          setup.site.control.Routes request.target.path markdown.path →
          AnsweredByMarkDown verb w (w.move setup move) serial owner request)
      ∧ ∀ (machine : Machine) (checkup : Option Checkup) (calls : List Call),
        let s := ((Session.create config machine checkup).run calls).supervisor
        (∀ site, s.site = some site →
          site.Offers config
          ∧ ∀ serial owner surface request move, s.world.Runs serial owner (.arrive surface request) →
            move.isTurnOf serial = true → config.StandsOn surface →
            site.control.Routes request.target.path markdown.path →
            AnsweredByMarkDown verb s.world (s.world.move s.setup move) serial owner request)
        ∧ ∀ control, RouteTable.build [(markdown.path, verb, .markdown)] = .ok control →
          ∀ request, control.Routes request.target.path markdown.path →
          MarksDown verb request.method s.world.snapshot (s.callMarkdown control request).1.world.snapshot
            (s.callMarkdown control request).2 := by
  obtain ⟨verb, hverb, hadded⟩ := Config.exists_markdown hsound hmarkdown
  refine ⟨verb, hverb, ?_, ?_⟩
  · intro setup checkup moves hoffers w
    refine ⟨fun hplain => hoffers.routes_plain hplain hadded, ?_⟩
    intro serial owner surface request move hruns hmove hstands hroutes
    have hnumbered : w.Numbered := World.numbered_run (World.numbered_initial checkup) moves
    exact World.answeredByMarkDown hsound hadded hoffers hnumbered hruns hmove hstands hroutes
  · intro machine checkup calls s
    refine ⟨?_, fun control hbuild request hroutes => s.marksDown_callMarkdown hbuild hroutes⟩
    intro site hsite
    have hoffers : site.Offers config :=
      ((Session.fits_create config machine checkup).run calls).site site hsite
    have hserved : s.setup.site = site := by
      unfold Supervisor.setup
      rw [hsite]
      rfl
    refine ⟨hoffers, ?_⟩
    intro serial owner surface request move hruns hmove hstands hroutes
    have hnumbered : s.world.Numbered := Session.numbered_run_create config machine checkup calls
    exact World.answeredByMarkDown hsound hadded (hserved ▸ hoffers) hnumbered hruns hmove hstands
      (hserved ▸ hroutes)

/-- Posting to the usual mark-down begins the shutdown of a service that listens. -/
theorem markdown_exact_posted :
    let s := ((Session.create managed ⟨[], true⟩ none).run managedCalls).supervisor
    let after := s.world.move s.setup (.turn 4)
    after.snapshot = ⟨.draining, 0, some .markedDown, false⟩
      ∧ ∃ response, ⟨4, .caller "b", .answered .control response⟩ ∈ after.finished
        ∧ response.SaysMarkedDown (.standard .post) := by
  intro s after
  have hmarkdown : managed.markdown = some .usual := rfl
  obtain ⟨verb, hverb, -, hsessions⟩ := markdown_exact managed issues_managed hmarkdown
  have hpost : verb = .post := by
    have hname : Verb.ofName? MarkdownRoute.usual.method = some .post := by decide
    exact Option.some.inj (hverb.symm.trans hname)
  subst hpost
  have hserved : s.site.isSome = true := by decide +kernel
  obtain ⟨site, hsite⟩ := Option.isSome_iff_exists.1 hserved
  obtain ⟨hoffers, hturns⟩ := (hsessions ⟨[], true⟩ none managedCalls).1 site hsite
  have hplain : IsPlain MarkdownRoute.usual.path := ⟨by decide, by decide, by decide, by decide⟩
  have hadded : (MarkdownRoute.usual.path, Verb.post, Control.markdown) ∈ Supervisor.controlRoutes managed := by
    decide
  have hruns : s.world.Runs 4 (.caller "b") (.arrive .management ⟨.standard .post, ⟨"/markdown", none⟩, []⟩) :=
    ⟨.fresh 4 (.caller "b") (.arrive .management ⟨.standard .post, ⟨"/markdown", none⟩, []⟩),
      by decide +kernel, rfl, rfl, rfl⟩
  obtain ⟨⟨response, hanswered, hmarks⟩, -⟩ := hturns 4 (.caller "b") .management _ (.turn 4) hruns rfl (Or.inl rfl)
    (hoffers.routes_plain hplain hadded)
  have hlistening : s.world.snapshot = ⟨.listening, 0, none, false⟩ := by decide +kernel
  refine ⟨?_, response, hanswered, hmarks.told (Or.inl rfl)⟩
  have hbegun := hmarks.begins (Or.inl rfl) (by rw [hlistening]; rfl)
  rw [hlistening] at hbegun
  exact hbegun

/-- Where the mark-down is configured for fetching, a request for the head alone begins the shutdown of a service that
listens, and is answered with a success. -/
theorem marked_down_by_head :
    let config := { managed with markdown := some ⟨"/markdown", "GET"⟩ }
    let s := ((Session.create config ⟨[], true⟩ none).run
      (Session.attempt 0 (Machine.bind ⟨[], true⟩) ++ [.listen,
        .goOnListening 0 Supervisor.closedSite.delegate, .goOnListening 0 Supervisor.closedSite.delegate,
        .aside (.run (.act (.request "a" .management
          (some ⟨.standard .head, ⟨"/markdown", none⟩, []⟩))))])).supervisor
    let after := s.world.move s.setup (.turn 3)
    config.issues = []
      ∧ s.world.snapshot = ⟨.listening, 0, none, false⟩
      ∧ after.snapshot = ⟨.draining, 0, some .markedDown, false⟩
      ∧ (after.finished.map fun ending =>
        match ending.outcome with
        | .answered answerer response => some (answerer, response.status)
        | _ => none) = [some (.control, 200)] := by
  decide +kernel

end GracefulService
