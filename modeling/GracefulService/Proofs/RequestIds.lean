import GracefulService.Proofs.Accounts
import GracefulService.Proofs.Numerals
import GracefulService.Proofs.Probes
import GracefulService.Supervisor.Script

/-!
# The ids of requests

On the primary surface every request has an id: its own, or the next one that is to be given out, which no
other request gets. The id is set before anything looks at the request and put on its answer after everybody
who can answer has done so, so the delegate sees it and every answer carries it: those of the control routes,
of the gate and of the delegate, those for a delegate that broke and those for requests that were given up. Only
a delegate that names an id itself is left its own. A surface for the control routes alone gives out no ids and
puts none on its answers.
-/

namespace GracefulService

open Http

/-! ## The ids that are given out -/

/-- The number in an id can be read back, whatever zeros stand in front of it. -/
theorem readDigits_twelveDigits (n : Nat) :
    Number.readDigits 16 Number.hexDigit? 0 (twelveDigits n) = some n := by
  have hvalue : ∀ d < 16, Number.hexDigit? (Text.hexDigit d) = some d := by decide
  have hzeros : ∀ k, Number.readDigits 16 Number.hexDigit? 0 (List.replicate k '0') = some 0 := by
    intro k
    induction k with
    | zero => rfl
    | succ k ih => exact ih
  rw [twelveDigits, Number.readDigits_append, hzeros]
  exact Number.readDigits_spelled hvalue (Text.spelled_hex n)

/-- So all ids in the form of random ones are different. -/
theorem distinctId_injective : Function.Injective distinctId := by
  intro m n hsame
  unfold distinctId at hsame
  have hdigits : twelveDigits m = twelveDigits n :=
    String.ofList_injective ((String.append_right_inj _).1 hsame)
  have hread := readDigits_twelveDigits m
  rw [hdigits, readDigits_twelveDigits n] at hread
  exact (Option.some.inj hread).symm

namespace World

/-- A service with other ids to give out. -/
def givingOut (w : World) (tape : Nat → String) : World := { w with ids := tape }

/-- Whatever ids are given out, no number was given twice at first. -/
theorem numbered_givingOut (checkup : Option Checkup) (tape : Nat → String) :
    ((initial checkup).givingOut tape).Numbered :=
  numbered_core.1 (numbered_core (w := initial checkup).2 (numbered_initial checkup))

/-- An id that no request will be given any more. -/
def Spent (setup : Setup) (w : World) (id : String) : Prop := ∀ later n, (w.run setup later).ids n ≠ id

section Drawing

variable {setup : Setup} {w : World}

/-- From its own past a service goes on with the ids that are still ahead. -/
theorem ids_resume_ownPast (w v : World) (ahead : Nat) :
    (v.resume (w.ownPast ahead)).ids = fun n => w.ids (n + ahead) := rfl

/-- To give a slot back gives out no id. -/
theorem ids_release (policy : WakePolicy) (w : World) : (w.release policy).ids = w.ids := by
  have hreleased := release_resume ((w.ownPast 0).ahead 0) (w.present w.ids) policy
  rw [resume_ownPast] at hreleased
  rw [hreleased]
  exact ids_resume_ownPast w _ 0

/-- A turn gives out an id to a request that arrives on the primary surface without one, and none otherwise. -/
theorem ids_takeTurn (task : Task) (others : List Task) :
    (w.takeTurn setup task others).ids = fun n => w.ids (n + task.errand.draws) := by
  have htaken := takeTurn_resume setup (w.ownPast task.errand.draws) (w.present w.ids) task others
  have htasks : others.map (Task.renumber id) = others := List.map_id _
  have hothers : others.map (Task.renumber (w.ownPast task.errand.draws).number) = others := htasks
  rw [resume_ownPast, hothers] at htaken
  have hturn : w.takeTurn setup (task.renumber (w.ownPast task.errand.draws).number) others
      = w.takeTurn setup task others := rfl
  rw [← hturn, htaken]
  exact ids_resume_ownPast w _ _

/-- A turn in which abandonment comes first gives out ids in order, too. -/
theorem ids_preempt (task : Task) (others : List Task) :
    ∃ drawn, (w.preempt setup task others).ids = fun n => w.ids (n + drawn) := by
  unfold preempt
  split
  · split
    · exact ⟨0, ids_release setup.policy { w with tasks := others }⟩
    · exact ⟨_, ids_takeTurn task others⟩
  · exact ⟨_, ids_takeTurn task others⟩

/-- Callers are given no ids. -/
theorem ids_act {step : Step} (hawake : ∀ milliseconds, step ≠ .sleep milliseconds) :
    (w.act setup step).1.ids = w.ids := by
  have hacted := act_resume setup ((w.ownPast 0).ahead 0) (w.present w.ids) rfl hawake
  rw [resume_ownPast] at hacted
  rw [hacted]
  exact ids_resume_ownPast w _ 0

/-- Ids are given out one after the other, in every move. -/
theorem ids_move (setup : Setup) (w : World) (move : Move) :
    ∃ drawn, (w.move setup move).ids = fun n => w.ids (n + drawn) := by
  cases move with
  | act step =>
    cases step with
    | sleep milliseconds => exact ⟨0, rfl⟩
    | _ => exact ⟨0, ids_act (by simp)⟩
  | turn serial =>
    simp only [World.move]
    split
    · exact ⟨0, rfl⟩
    · exact ⟨_, ids_takeTurn _ _⟩
  | preempt serial =>
    simp only [World.move]
    split
    · exact ⟨0, rfl⟩
    · exact ids_preempt _ _
  | tick milliseconds =>
    simp only [World.move]
    split <;> exact ⟨0, rfl⟩
  | ring timer =>
    simp only [World.move]
    split <;> exact ⟨0, rfl⟩
  | _ => exact ⟨0, rfl⟩

/-- And so they are in every run. -/
theorem ids_run (setup : Setup) (w : World) (moves : List Move) :
    ∃ drawn, (w.run setup moves).ids = fun n => w.ids (n + drawn) := by
  induction moves generalizing w with
  | nil => exact ⟨0, rfl⟩
  | cons move moves ih =>
    obtain ⟨first, hfirst⟩ := ids_move setup w move
    obtain ⟨rest, hrest⟩ := ih (w.move setup move)
    refine ⟨rest + first, ?_⟩
    have hrun : w.run setup (move :: moves) = (w.move setup move).run setup moves := rfl
    rw [hrun, hrest, hfirst]
    funext n
    exact congrArg w.ids (Nat.add_assoc n rest first)

/-- The ids that are still ahead are among those that were ahead before. -/
theorem ids_run_mem_range (setup : Setup) (w : World) (moves : List Move) (n : Nat) :
    (w.run setup moves).ids n ∈ Set.range w.ids := by
  obtain ⟨drawn, hids⟩ := ids_run setup w moves
  exact ⟨n + drawn, (congrFun hids n).symm⟩

/-- Different ids stay different. -/
theorem injective_ids_run (hdistinct : Function.Injective w.ids) (moves : List Move) :
    Function.Injective (w.run setup moves).ids := by
  obtain ⟨drawn, hids⟩ := ids_run setup w moves
  intro m n hsame
  rw [hids] at hsame
  exact Nat.add_right_cancel (hdistinct hsame)

/-- Where the ids ahead are different, one that was given out is not given out again. -/
theorem spent_of_drawn {after : World} (hdistinct : Function.Injective w.ids)
    (hdrawn : after.ids = fun n => w.ids (n + 1)) : after.Spent setup (w.ids 0) := by
  intro later n hsame
  obtain ⟨drawn, hids⟩ := ids_run setup after later
  rw [hids, hdrawn] at hsame
  have hplace : n + drawn + 1 = 0 := hdistinct hsame
  omega

end Drawing

end World

/-! ## Ids on requests and responses -/

/-- The first id that a request was sent with stays; where there is none, it has the one it is given. -/
theorem Http.Request.id?_withId (request : Request) (id : String) :
    (request.withId id).id? = some (request.id?.getD id) := by
  unfold withId
  cases hid : request.id? with
  | some own => exact hid
  | none =>
    have hnone : request.headers.lookup requestIdHeader = none := hid
    simp only [Request.id?, header?, List.lookup_append, hnone]
    rfl

/-- The id that answers to a request carry on a surface. -/
def Http.Request.label? (request : Request) : Surface → Option String
  | .primary => request.id?
  | .management => none

/-- No route touches the id of a response. -/
theorem Http.Response.requestId_finish (response : Response) (method : Method) (allow : Option String) :
    (response.finish method allow).requestId = response.requestId := by
  unfold finish
  split
  · unfold asTunnel
    split <;> rfl
  · dsimp only
    split <;> rfl

/-- On its way out a response gets the id of its request, unless it has one. -/
theorem Http.Response.requestId_leave (response : Response) (surface : Surface) (request : Request)
    (routed : Bool) (allow : Option String) :
    (response.leave surface request routed allow).requestId
      = response.requestId.or (request.label? surface) := by
  have hfinish := response.requestId_finish request.method allow
  cases surface <;> cases routed <;>
    simp only [leave, Request.label?, hfinish, Option.or_none, if_true, Bool.false_eq_true, if_false]

/-- The id that the answer to a request names before it leaves the surface. Only the delegate can name one. -/
def Answerer.ownId? (answerer : Answerer) (handling : Handling) : Option String :=
  match answerer with
  | .delegate => handling.work.yield.requestId
  | _ => none

/-- Nobody but the delegate names an id. -/
theorem Answerer.ownId?_of_ne {answerer : Answerer} (hother : answerer ≠ .delegate) (handling : Handling) :
    answerer.ownId? handling = none := by
  cases answerer with
  | delegate => exact absurd rfl hother
  | _ => rfl

/-- The answer of a probe names no id. -/
theorem Report.requestId_respond (report : Report) (probe : Probe) (format : BodyFormat) :
    (report.respond probe format).requestId = none := by
  cases format <;> rfl

/-- On a surface for control routes alone no request comes to the gate. -/
theorem Site.destination_management (site : Site) (request : Request) :
    site.destination .management request ≠ .gate := by
  unfold Site.destination Http.Dispatch.destination
  cases site.control.dispatch request <;> simp

/-! ## Ids in runs -/

/-- What becomes of a request once it was received, as it is then, on a surface. -/
structure Labelled (setup : Setup) (w after : World) (serial : Nat) (owner : Owner) (surface : Surface)
    (received : Request) : Prop where
  /-- It is answered, or holds a slot. -/
  decided : after.Decided serial owner
  /-- If the delegate is called, then with the request as it was received. -/
  called : after.calls = w.calls ∨ after.calls = w.calls ++ [received]
  /-- It is not called with it again. -/
  calledOnce : ∀ later move, move.isTurnOf serial = true →
    ((after.run setup later).move setup move).calls = (after.run setup later).calls
  /-- Whoever answers it at any time, the answer carries the label, unless the delegate named an id itself. -/
  answered : ∀ later answerer response,
    ⟨serial, owner, .answered answerer response⟩ ∈ (after.run setup later).finished →
      response.requestId
        = (answerer.ownId? (setup.site.delegate received)).or (received.label? surface)

namespace World

section Labelled

variable {setup : Setup} {w : World} {serial : Nat} {owner : Owner} {surface : Surface} {request : Request}

/-- What is answered without the gate and the delegate carries the label. -/
theorem label_direct {received : Request} {direct : Direct}
    (hdirect : w.direct? setup surface received = some direct) :
    direct.answerer ≠ .delegate ∧ direct.response.requestId = received.label? surface := by
  have hleave : ∀ response : Response, response.requestId = none → ∀ routed allow,
      (response.leave surface received routed allow).requestId = received.label? surface := by
    intro response hnone routed allow
    rw [Response.requestId_leave, hnone, Option.none_or]
  unfold direct? at hdirect
  split at hdirect <;> cases hdirect
  · exact ⟨by simp, hleave _ (Report.requestId_respond _ _ _) _ _⟩
  · exact ⟨by simp, hleave _ rfl _ _⟩
  · exact ⟨by simp, hleave _ rfl _ _⟩
  · exact ⟨by simp, hleave _ rfl _ _⟩

/-- A refusal carries the label of its request. -/
theorem label_refusal (handling : Handling) (surface : Surface) (received : Request) :
    (handling.refusal surface received).requestId = received.label? surface := by
  rw [Handling.refusal, Response.requestId_leave]
  rfl

/-- The answer of a delegate carries the id that it names, or else the label of its request. -/
theorem label_answer (handling : Handling) (surface : Surface) (received : Request) :
    (handling.answer surface received).requestId
      = handling.work.yield.requestId.or (received.label? surface) := by
  rw [Handling.answer, Response.requestId_leave]

/-- What is decided about a request stays so, so it is enough to look at its answers. -/
theorem labelled_of_decided {after : World} (hnumbered : after.Numbered) {received : Request}
    (hdecided : after.Decided serial owner)
    (hcalled : after.calls = w.calls ∨ after.calls = w.calls ++ [received])
    (hanswered : ∀ later answerer response,
      ⟨serial, owner, .answered answerer response⟩ ∈ (after.run setup later).finished →
        response.requestId
          = (answerer.ownId? (setup.site.delegate received)).or (received.label? surface)) :
    Labelled setup w after serial owner surface received where
  decided := hdecided
  called := hcalled
  calledOnce := fun later _ hturn =>
    calls_of_decided (numbered_run hnumbered later) (decided_run hdecided later) hturn
  answered := hanswered

/-- A request with an answer that carries its label is answered for good. -/
theorem labelled_of_ending {after : World} (hnumbered : after.Numbered) {received : Request}
    {answerer : Answerer} {response : Response}
    (hended : ⟨serial, owner, .answered answerer response⟩ ∈ after.finished)
    (hcalls : after.calls = w.calls ∨ after.calls = w.calls ++ [received])
    (hlabel : response.requestId
      = (answerer.ownId? (setup.site.delegate received)).or (received.label? surface)) :
    Labelled setup w after serial owner surface received := by
  refine labelled_of_decided hnumbered (Or.inr ⟨_, hended⟩) hcalls ?_
  intro later answerer' response' hended'
  have hsame := (numbered_run hnumbered later).ending_unique hended' (finished_run setup hended later) rfl
  cases hsame
  exact hlabel

/-- A request that was let in carries its label to the delegate and to whatever it is answered. -/
theorem labelled_of_letIn {after : World} (hnumbered : after.Numbered) {received : Request}
    (hletIn : LetIn w after serial owner (setup.site.delegate received) surface received) :
    Labelled setup w after serial owner surface received := by
  cases himmediate : (setup.site.delegate received).work.isImmediate with
  | true =>
    exact labelled_of_ending hnumbered (hletIn.immediate himmediate).2 (Or.inr hletIn.calls)
      (label_answer _ surface received)
  | false =>
    obtain ⟨-, x, hserves, hruns⟩ := hletIn.waits himmediate
    refine labelled_of_decided hnumbered (Or.inl ⟨x, hruns⟩) (Or.inr hletIn.calls) ?_
    intro later answerer response hended
    have hlater : (after.run setup later).Numbered := numbered_run hnumbered later
    have hunique : ∀ outcome, ⟨serial, owner, outcome⟩ ∈ (after.run setup later).finished →
        outcome = .answered answerer response := by
      intro outcome hother
      exact congrArg Ending.outcome (hlater.ending_unique hother hended rfl)
    cases served_run setup hserves hruns later with
    | waits hserves' h =>
      obtain ⟨task, hmem, hserial, -, -⟩ := h
      exact absurd hserial (hlater.not_over hmem hended)
    | delivered h =>
      cases hunique _ h
      exact label_answer _ surface received
    | givenUp hmoves hruns' habandoned hturn hready h =>
      cases hunique _ h
      exact label_refusal _ surface received
    | preempted hmoves hruns' habandoned hready h =>
      cases hunique _ h
      exact label_refusal _ surface received
    | cancelled hmove howner h => cases hunique _ h

/-- In its turn a request comes to somebody who answers it, or to a slot, as it was received. -/
theorem labelled_turn (setup : Setup) (hnumbered : w.Numbered)
    (hruns : w.Runs serial owner (.arrive surface request)) {move : Move}
    (hmove : move.isTurnOf serial = true) {received : Request}
    (hreceived : received = (w.identify surface request).2) :
    Labelled setup w (w.move setup move) serial owner surface received := by
  have hafter : (w.move setup move).Numbered := (move_happens setup w move).numbered hnumbered
  cases hdirect : w.direct? setup surface received with
  | some direct =>
    have hgiven := move_direct hnumbered hruns hmove hreceived hdirect
    obtain ⟨hother, hlabel⟩ := label_direct hdirect
    refine labelled_of_ending hafter hgiven.answered (Or.inl hgiven.calls) ?_
    rw [Answerer.ownId?_of_ne hother, hlabel, Option.none_or]
  | none =>
    have hgate : setup.site.destination surface received = .gate := by
      unfold direct? at hdirect
      split at hdirect <;> first | assumption | cases hdirect
    obtain ⟨hletIn, hturnedAway⟩ := turn_arrive setup hnumbered hruns hmove hreceived hgate
    by_cases hlistening : w.snapshot.phase = .listening
    · exact labelled_of_letIn hafter (hletIn hlistening)
    · have haway := hturnedAway hlistening
      refine labelled_of_ending hafter haway.answered (Or.inl haway.calls) ?_
      rw [Answerer.ownId?_of_ne (by simp), label_refusal, Option.none_or]

/-- The turn of a request that arrives gives out the ids that are drawn for it. -/
theorem ids_arrive (hnumbered : w.Numbered) (hruns : w.Runs serial owner (.arrive surface request))
    {move : Move} (hmove : move.isTurnOf serial = true) :
    (w.move setup move).ids = fun n => w.ids (n + drawn surface request) := by
  obtain ⟨task, front, back, -, -, herrand, -, hmoved⟩ :=
    hnumbered.move_runs_eq setup hruns (fun _ => Errand.noConfusion) hmove
  rw [hmoved, ids_takeTurn, herrand]
  rfl

/-- A request without an id is given the next one ahead, and no request is given it afterwards. -/
theorem spent_arrive (hnumbered : w.Numbered) (hruns : w.Runs serial owner (.arrive .primary request))
    {move : Move} (hmove : move.isTurnOf serial = true) (hnone : request.id? = none)
    (hdistinct : Function.Injective w.ids) : (w.move setup move).Spent setup (w.ids 0) := by
  refine spent_of_drawn hdistinct ?_
  rw [ids_arrive hnumbered hruns hmove]
  simp only [drawn, hnone]

/-- On a surface for control routes alone the delegate is not called, and no answer carries an id. -/
theorem unlabelled_turn (setup : Setup) (hnumbered : w.Numbered)
    (hruns : w.Runs serial owner (.arrive .management request)) {move : Move}
    (hmove : move.isTurnOf serial = true) :
    (w.move setup move).calls = w.calls ∧ ∀ later answerer response,
      ⟨serial, owner, .answered answerer response⟩ ∈ ((w.move setup move).run setup later).finished →
        response.requestId = none := by
  have hafter : (w.move setup move).Numbered := (move_happens setup w move).numbered hnumbered
  obtain ⟨direct, hdirect⟩ : ∃ direct, w.direct? setup .management request = some direct := by
    unfold direct?
    split
    case h_5 hgate => exact absurd hgate (setup.site.destination_management request)
    all_goals exact ⟨_, rfl⟩
  have hgiven := move_direct hnumbered hruns hmove rfl hdirect
  refine ⟨hgiven.calls, ?_⟩
  intro later answerer response hended
  have hsame := (numbered_run hafter later).ending_unique hended (finished_run setup hgiven.answered later) rfl
  cases hsame
  exact (label_direct hdirect).2

/-- On the primary surface a request is received with an id. -/
theorem identify_primary (w : World) (request : Request) :
    (w.identify .primary request).2 = request.withId (request.id?.getD (w.ids 0)) := by
  unfold identify Request.withId
  cases hid : request.id? with
  | some own => rfl
  | none =>
    rfl

end Labelled

end World

/-- In every run, whatever the phase, a request on the primary surface has an id from the moment of its turn: the
first that it was sent with, or else the next one ahead, which no request is given afterwards. The delegate is
called with the request and that id or not at all, and whoever answers the request at any later time, the
answer carries that id; only where the delegate names an id in its own answer, that one is left. On a surface
for the control routes alone the delegate is not called, and no answer carries an id. -/
theorem ids_reach_answers (setup : Setup) (checkup : Option Checkup) {tape : Nat → String}
    (hdistinct : Function.Injective tape) (moves : List Move) {serial : Nat} {owner : Owner}
    {surface : Surface} {request : Request}
    (hruns : (((World.initial checkup).givingOut tape).run setup moves).Runs serial owner
      (.arrive surface request))
    {move : Move} (hmove : move.isTurnOf serial = true) :
    let w := ((World.initial checkup).givingOut tape).run setup moves
    let after := w.move setup move
    (surface = .primary → ∃ id,
        (∀ own, request.id? = some own → id = own)
          ∧ (request.id? = none → id = w.ids 0 ∧ id ∈ Set.range tape ∧ after.Spent setup id)
          ∧ (request.withId id).id? = some id
          ∧ Labelled setup w after serial owner .primary (request.withId id))
      ∧ (surface = .management →
        after.Decided serial owner
          ∧ after.calls = w.calls
          ∧ ∀ later answerer response,
            ⟨serial, owner, .answered answerer response⟩ ∈ (after.run setup later).finished →
              response.requestId = none) := by
  intro w after
  have hnumbered : w.Numbered := World.numbered_run (World.numbered_givingOut checkup tape) moves
  have hlabelled := World.labelled_turn setup hnumbered hruns hmove rfl
  have hahead : Function.Injective w.ids := World.injective_ids_run hdistinct moves
  constructor
  · rintro rfl
    rw [World.identify_primary] at hlabelled
    refine ⟨request.id?.getD (w.ids 0), ?_, ?_, ?_, hlabelled⟩
    · intro own hown
      rw [hown]
      rfl
    · intro hnone
      rw [hnone, Option.getD_none]
      exact ⟨rfl, World.ids_run_mem_range setup ((World.initial checkup).givingOut tape) moves 0,
        World.spent_arrive hnumbered hruns hmove hnone hahead⟩
    · rw [Request.id?_withId]
      cases request.id? <;> rfl
  · rintro rfl
    exact ⟨hlabelled.decided, World.unlabelled_turn setup hnumbered hruns hmove⟩

/-- The delegate of the greeter sees the id that the request is given, and its greeting carries it. -/
theorem ids_reach_greeting : ∃ id response,
    (greeterAsked.move greeter (.turn 0)).calls
        = [⟨.standard .get, ⟨"/hello", none⟩, [(requestIdHeader, id)]⟩]
      ∧ ⟨0, .caller "a", .answered .delegate response⟩
        ∈ ((greeterAsked.move greeter (.turn 0)).run greeter [.release "key", .turn 0]).finished
      ∧ response.requestId = some id
      ∧ (greeterAsked.move greeter (.turn 0)).Spent greeter id := by
  have hruns : greeterAsked.Runs 0 (.caller "a")
      (.arrive .primary ⟨.standard .get, ⟨"/hello", none⟩, []⟩) :=
    ⟨_, List.mem_cons_self, rfl, rfl, rfl⟩
  obtain ⟨id, -, hgiven, hlabel, hlabelled⟩ := (ids_reach_answers greeter none distinctId_injective
    [.act (.advance .opened), .act (.advance .listening),
      .act (.request "a" .primary (some ⟨.standard .get, ⟨"/hello", none⟩, []⟩))]
    hruns (show (Move.turn 0).isTurnOf 0 = true from rfl)).1 rfl
  obtain ⟨rfl, -, hspent⟩ := hgiven rfl
  have hgreeted : ⟨0, .caller "a", .answered .delegate (Handling.answer
      ⟨none, .hold "key" (.text 200 "hello")⟩ .primary
        ⟨.standard .get, ⟨"/hello", none⟩, [(requestIdHeader, distinctId 0)]⟩)⟩
      ∈ ((greeterAsked.move greeter (.turn 0)).run greeter [.release "key", .turn 0]).finished :=
    List.mem_cons_self
  exact ⟨_, _, rfl, hgreeted, (hlabelled.answered [.release "key", .turn 0] _ _ hgreeted).trans hlabel, hspent⟩

/-- A delegate that answers at once and names an id of its own. -/
def selfNaming : Delegate :=
  fun _ => ⟨none, .answer { Response.text 200 "hello" with requestId := some "own" }⟩

/-- A request that was sent with an id, and with some more header lines. -/
def numberedRequest (more : Nat) : Request :=
  ⟨.standard .get, ⟨"/hello", none⟩, (requestIdHeader, "sent") :: List.replicate more ("x-more", "")⟩

/-- An answer carries the id that its delegate names instead of the one that the request was sent with. Where a
request has more header lines than a server reads, the server answers without an id. -/
theorem own_or_no_id :
    ((Rehearsal.start (Supervisor.create .usual ⟨[], true⟩ none) selfNaming).perform
        [.openSurfaces, .listen, .request "a" false .primary (some (numberedRequest 0)),
          .request "b" false .primary (some (numberedRequest 120))]).map
      (fun record =>
        match record.result with
        | .answered response => some (response.status, response.requestId)
        | _ => none)
      = [none, none, some (200, some "own"), some (431, none)] := by
  decide +kernel

end GracefulService
