import GracefulService.Proofs.Origins
import GracefulService.Proofs.Supervision

/-!
# The first cause wins

Anybody may ask for the shutdown, at any time and as often as they like. The first request that finds it not
begun begins it, and its cause is recorded; every later one changes nothing in the snapshot. Whatever
drains or has listened reports that cause in the end, or a manual stop where the service went over
to draining without a request.
-/

namespace GracefulService

open Http

/-- The cause with which a shutdown has begun, where an event tells of it. -/
def Event.begun? : Event → Option Cause
  | drainStarted _ _ cause => some cause
  | _ => none

/-- The causes with which a shutdown has begun, one for each request that began one. -/
def World.begun (w : World) : List Cause := w.log.filterMap Event.begun?

/-- The cause with which a deed begins the shutdown, if it does. -/
def Deed.begins (s : Snapshot) : Deed → Option Cause
  | beginDrain cause => if s.phase.isShuttingDown then none else some cause
  | _ => none

namespace Deed

/-- The log tells of a beginning exactly when a deed is one. -/
theorem begun_events (s : Snapshot) (deed : Deed) :
    (deed.events s).filterMap Event.begun? = (deed.begins s).toList := by
  cases deed with
  | beginDrain cause =>
    have hcan := canAdvance_draining s.phase
    cases hshutting : s.phase.isShuttingDown <;>
      simp [events, change, begins, Snapshot.beginDrain, hcan, hshutting, Event.begun?]
  | _ =>
    unfold events begins
    split <;> simp_all [Event.begun?]

/-- A deed records the cause with which it begins the shutdown, and leaves it alone otherwise. -/
theorem cause_result (s : Snapshot) (deed : Deed) :
    (deed.result s).cause = (deed.begins s).or s.cause := by
  cases deed with
  | nothing => rfl
  | advance target => rw [result_advance]; split <;> rfl
  | enter => rw [result_enter]; split <;> rfl
  | leave => rw [result_leave]; rfl
  | abandon => rw [result_abandon]; split <;> rfl
  | beginDrain cause =>
    have hcan := canAdvance_draining s.phase
    rw [result_beginDrain]
    cases hshutting : s.phase.isShuttingDown <;> simp [begins, hcan, hshutting]

end Deed

/-- The recorded cause is that of the only beginning in the log. -/
structure Recorded (story : Snapshot × List Event) : Prop where
  /-- At most one shutdown has begun, with the recorded cause. -/
  begun : story.2.filterMap Event.begun? = story.1.cause.toList
  /-- There is a cause only where the shutdown has begun. -/
  sound : story.1.Sound

/-- Every deed keeps the record. -/
theorem Recorded.narrate {story : Snapshot × List Event} (h : Recorded story) (deed : Deed) :
    Recorded (deed.narrate story) := by
  refine ⟨?_, Deed.sound_result h.sound deed⟩
  have hbegun : (deed.narrate story).2.filterMap Event.begun?
      = story.1.cause.toList ++ (deed.begins story.1).toList := by
    simp only [Deed.narrate, List.filterMap_append, h.begun, Deed.begun_events]
  have hcause : (deed.narrate story).1.cause = (deed.begins story.1).or story.1.cause :=
    Deed.cause_result story.1 deed
  rw [hbegun, hcause]
  cases hbegins : deed.begins story.1 with
  | none => simp
  | some cause =>
    -- Where a deed begins the shutdown nothing has been recorded before.
    have hnone : story.1.cause = none := by
      cases hrecorded : story.1.cause with
      | none => rfl
      | some earlier =>
        have hshutting := h.sound.cause (by rw [hrecorded]; exact Option.some_ne_none earlier)
        cases deed with
        | beginDrain cause => simp [Deed.begins, hshutting] at hbegins
        | _ => cases hbegins
    simp [hnone]

/-- An errand agrees with what is recorded: a drain that is over follows the stop, and closes the servers
for the recorded cause. -/
def Errand.Agrees (s : Snapshot) : Errand → Prop
  | awaitIdle .. => s.phase.isShuttingDown = true
  | readCause _ => s.phase = .stopped
  | closeServers cause _ _ => s.phase = .stopped ∧ cause = Cause.orManual s.cause
  | _ => True

/-- An end agrees with what is recorded: a drain reports the recorded cause after the stop. -/
def Outcome.Agrees (s : Snapshot) : Outcome → Prop
  | drained cause | stopped cause => s.phase = .stopped ∧ cause = Cause.orManual s.cause
  | _ => True

/-- What a task goes on with, or how it ends, agrees with what is recorded. -/
def Next.Agrees (s : Snapshot) : Next → Prop
  | .goOn errand => errand.Agrees s
  | .finish outcome => outcome.Agrees s

section Agrees

variable {a b : Snapshot} (hprecedes : a.Precedes b)
include hprecedes

/-- What is recorded of a service that has stopped stays so. -/
theorem Snapshot.Precedes.stopped_cause {cause : Cause}
    (h : a.phase = .stopped ∧ cause = Cause.orManual a.cause) :
    b.phase = .stopped ∧ cause = Cause.orManual b.cause := by
  have hshutting : a.phase.isShuttingDown = true := by
    rw [h.1]
    rfl
  rw [hprecedes.cause hshutting]
  exact ⟨hprecedes.stopped h.1, h.2⟩

/-- A task that agrees with a snapshot agrees with all that come after it. -/
theorem Errand.Agrees.later {errand : Errand} (h : errand.Agrees a) : errand.Agrees b := by
  cases errand with
  | awaitIdle sequel timer => exact hprecedes.isShuttingDown h
  | readCause sequel => exact hprecedes.stopped h
  | closeServers cause timer surfaces => exact hprecedes.stopped_cause h
  | _ => trivial

/-- An end that agrees with a snapshot agrees with all that come after it. -/
theorem Outcome.Agrees.later {outcome : Outcome} (h : outcome.Agrees a) : outcome.Agrees b := by
  cases outcome with
  | drained cause => exact hprecedes.stopped_cause h
  | stopped cause => exact hprecedes.stopped_cause h
  | _ => trivial

end Agrees

open World

/-- A turn of a task that agrees with what is recorded goes on or ends in agreement. -/
theorem Turned.agrees {setup : Setup} {w : World} {looks : Bool} {errand : Errand} {effect : Effect}
    {next : Next} (hturned : Turned setup w looks errand effect next)
    (hagrees : errand.Agrees w.snapshot) : next.Agrees (effect.result w.snapshot) := by
  cases hturned with
  | seeShutdown hlooks hshutting => exact hshutting
  | seeIdle hlooks hidle => exact (Deed.stopped_of_advance hagrees).1
  | endWindow hdue => exact (Deed.stopped_of_advance hagrees).1
  | report => exact ⟨hagrees, rfl⟩
  | beginClosing => exact ⟨hagrees, rfl⟩
  | endClosing => exact hagrees
  | seeClosed hgone => exact hagrees
  | endGrace hserver hdue => exact (Deed.precedes_result w.snapshot .abandon).stopped_cause hagrees
  | _ => trivial

/-- All tasks and all ends agree with what is recorded. -/
structure World.Agreed (w : World) : Prop where
  /-- The tasks agree. -/
  tasks : ∀ task ∈ w.tasks, task.errand.Agrees w.snapshot
  /-- The ends agree. -/
  ends : ∀ ending ∈ w.finished, ending.outcome.Agrees w.snapshot

/-- Whatever happens, all tasks and all ends agree with what is recorded. -/
theorem Happening.agreed {setup : Setup} {move : Move} {w after : World}
    (hhappening : Happening setup move w after) (h : w.Agreed) : after.Agreed := by
  have hprecedes := hhappening.precedes
  constructor
  · intro task hmem
    cases hhappening.origin hmem with
    | same hsource hresembles =>
      rw [hresembles.errand]
      exact (h.tasks _ hsource).later hprecedes
    | vain hsource hturn htask =>
      rw [htask]
      exact (h.tasks _ hsource).later hprecedes
    | begun hbegins =>
      cases herrand : task.errand <;> simp_all [Errand.begins, Errand.Agrees]
    | released hsource herrand hheld htask =>
      rw [htask]
      trivial
    | signalled htask =>
      rw [htask]
      trivial
    | @goesOn source others effect hsource hturned hwoken hsnapshot =>
      have hgoesOn := Turned.agrees hturned (h.tasks source hsource)
      rw [hsnapshot]
      exact hgoesOn
  · intro ending hmem
    cases hhappening.endOrigin hmem with
    | same hold => exact (h.ends ending hold).later hprecedes
    | interrupted hwhy =>
      generalize ending.outcome = outcome at hwhy
      cases hwhy <;> trivial
    | cancelled houtcome =>
      rw [houtcome]
      trivial
    | @ends source others effect hsource hturned hsnapshot =>
      have hends := Turned.agrees hturned (h.tasks source hsource)
      rw [hsnapshot]
      exact hends

namespace World

/-- The beginnings in the log are among the events that tell of deeds. -/
theorem begun_eq (w : World) : w.begun = w.deeds.filterMap Event.begun? := by
  unfold begun deeds
  rw [List.filterMap_filter]
  congr 1
  funext event
  cases event <;> rfl

/-- Worlds with the same story have had the same beginnings of a shutdown. -/
theorem begun_of_story {w after : World} (h : after.story = w.story) : after.begun = w.begun := by
  have hdeeds : after.deeds = w.deeds := congrArg Prod.snd h
  rw [begun_eq, begun_eq, hdeeds]

/-- A deed adds the cause with which it begins the shutdown, and nothing else. -/
theorem begun_of_narrate {w after : World} {deed : Deed}
    (h : after.story = deed.narrate w.story) :
    after.begun = w.begun ++ (deed.begins w.snapshot).toList := by
  have hdeeds : after.deeds = w.deeds ++ deed.events w.snapshot := congrArg Prod.snd h
  rw [begun_eq, begun_eq, hdeeds, List.filterMap_append, Deed.begun_events]

/-- Asking for the shutdown is answered with yes exactly when it has not begun, and then the cause is
recorded as that of its beginning. -/
theorem beginDrain_answer (policy : WakePolicy) (w : World) (cause : Cause) :
    (w.beginDrain policy cause).2 = !w.snapshot.phase.isShuttingDown
      ∧ (w.beginDrain policy cause).1.begun
        = w.begun ++ if (w.beginDrain policy cause).2 then [cause] else [] := by
  have hanswer : (w.beginDrain policy cause).2 = !w.snapshot.phase.isShuttingDown := by
    have hcan := Deed.canAdvance_draining w.snapshot.phase
    cases hshutting : w.snapshot.phase.isShuttingDown <;>
      simp [beginDrain, Snapshot.beginDrain, hcan, hshutting]
  have hstory : (w.beginDrain policy cause).1.story = (Deed.beginDrain cause).narrate w.story := by
    rw [beginDrain_eq, story_carryOut]
  refine ⟨hanswer, ?_⟩
  rw [begun_of_narrate hstory, hanswer]
  cases hshutting : w.snapshot.phase.isShuttingDown <;> simp [Deed.begins, hshutting]

end World

/-- A move is a request for the shutdown with a cause. -/
inductive Supervisor.Asks (s : Supervisor) : SupervisorMove → Cause → Prop where
  | direct (cause : Cause) : s.Asks (.run (.act (.beginDrain cause))) cause
  | trigger (cause : Option Cause) : s.Asks (.trigger cause) (Cause.orManual cause)
  | signal {serial : Nat} {owner : Owner} {name : String} {move : Move}
      (hruns : s.world.Runs serial owner (.watchSignals (some name)))
      (hmove : move.isTurnOf serial = true) : s.Asks (.run move) (.signal name)
  | route {serial : Nat} {owner : Owner} {surface : Surface} {request : Http.Request} {move : Move}
      (hruns : s.world.Runs serial owner (.arrive surface request))
      (hmarkdown : s.setup.site.destination surface (s.world.identify surface request).2
        = .control .markdown)
      (hmove : move.isTurnOf serial = true) : s.Asks (.run move) .markedDown
  | markdown {control : RouteTable Control} {request : Http.Request}
      (hmarkdown : control.dispatch request = .served .markdown) :
      s.Asks (.callMarkdown control request) .markedDown

namespace World

/-- Nothing that happens adds the cause of a beginning, unless the move does the deed. -/
theorem begun_happening {setup : Setup} {move : Move} {w after : World}
    (hhappening : Happening setup move w after) :
    after.begun = w.begun ∨ ∃ cause, (Deed.beginDrain cause).Done setup move w := by
  obtain ⟨deeds, hdone, hstory⟩ := hhappening.story
  by_cases hbegins : ∃ cause, .beginDrain cause ∈ deeds
  · obtain ⟨cause, hmem⟩ := hbegins
    exact Or.inr ⟨cause, hdone _ hmem⟩
  · left
    have hquiet : ∀ deed ∈ deeds, ∀ s, deed.begins s = none := by
      intro deed hmem s
      cases deed with
      | beginDrain cause => exact absurd ⟨cause, hmem⟩ hbegins
      | _ => rfl
    have hfold : ∀ story : Snapshot × List Event,
        (deeds.foldl Deed.narrate story).2.filterMap Event.begun?
          = story.2.filterMap Event.begun? := by
      clear hstory hdone hbegins
      induction deeds with
      | nil => exact fun _ => rfl
      | cons deed deeds ih =>
        intro story
        rw [List.foldl_cons, ih (fun other hmem => hquiet other (List.mem_cons_of_mem _ hmem))]
        simp only [Deed.narrate, List.filterMap_append, Deed.begun_events,
          hquiet deed List.mem_cons_self, Option.toList_none, List.append_nil]
    have hdeeds : after.deeds = (deeds.foldl Deed.narrate w.story).2 := congrArg Prod.snd hstory
    rw [begun_eq, begun_eq, hdeeds, hfold]
    rfl

end World

namespace Supervisor

variable {s : Supervisor} {step : SupervisorMove} {cause : Cause}

/-- The turn of a task that never waits and always does one deed. -/
theorem story_turn (hnumbered : s.world.Numbered) {serial : Nat} {owner : Owner} {errand : Errand}
    {move : Move} (hruns : s.world.Runs serial owner errand) (hmove : move.isTurnOf serial = true)
    (hwaits : errand.waits = false) (hexchange : ∀ x, errand ≠ .exchange x) {deed : Deed}
    (hdeed : ∀ others looks effect next,
      Turned s.setup { s.world with tasks := others } looks errand effect next →
      effect.deeds = [deed]) :
    (s.move (.run move)).world.story = deed.narrate s.world.story := by
  obtain ⟨task, front, back, -, -, rfl, -, hmoved⟩ := hnumbered.move_runs_eq s.setup hruns hexchange hmove
  have hworld : (s.move (.run move)).world = s.world.takeTurn s.setup task (front ++ back) := hmoved
  cases hturn : turn s.setup { s.world with tasks := front ++ back } task.looks task.errand with
  | none =>
    have hbusy := (turn_eq_none hturn).2.1
    rw [hwaits] at hbusy
    cases hbusy
  | some result =>
    obtain ⟨after, next⟩ := result
    obtain ⟨effect, hturned, hcore⟩ := turned_of_turn hturn
    have hafter : after.story = deed.narrate s.world.story := by
      rw [← story_core, hcore, story_apply, hdeed _ _ _ _ hturned, ← story_core s.world]
      rfl
    have hstory : (s.world.takeTurn s.setup task (front ++ back)).story = after.story := by
      simp only [takeTurn, hturn]
      cases next <;> rfl
    rw [hworld, hstory, hafter]

/-- What a request for the shutdown does: it asks for it, with its cause, whoever makes it. -/
theorem Asks.story (hnumbered : s.world.Numbered) (hasks : s.Asks step cause) :
    (s.move step).world.story = (Deed.beginDrain cause).narrate s.world.story := by
  cases hasks with
  | direct cause =>
    have hmoved : (s.move (.run (.act (.beginDrain cause)))).world
        = (s.world.beginDrain s.setup.policy cause).1 := rfl
    rw [hmoved, beginDrain_eq, story_carryOut]
  | trigger cause =>
    have hmoved : (s.move (.trigger cause)).world
        = (s.world.beginDrain s.setup.policy (Cause.orManual cause)).1 := rfl
    rw [hmoved, beginDrain_eq, story_carryOut]
  | signal hruns hmove =>
    refine story_turn hnumbered hruns hmove rfl (fun x hsame => by cases hsame) ?_
    intro others looks effect next hturned
    cases hturned with
    | takeSignal => rfl
  | @route serial owner surface request move hruns hmarkdown hmove =>
    refine story_turn hnumbered hruns hmove rfl (fun x hsame => by cases hsame) ?_
    intro others looks effect next hturned
    cases hturned with
    | answer hother hnever =>
      rw [identify_tasks] at hnever
      exact absurd hmarkdown hnever
    | markDown hmarked => rfl
    | letIn hrequest hgate hlistening hwaits =>
      rw [hrequest, identify_tasks, hmarkdown] at hgate
      cases hgate
    | answerAtOnce hrequest hgate hlistening himmediate =>
      rw [hrequest, identify_tasks, hmarkdown] at hgate
      cases hgate
    | refuse hrequest hgate hphase =>
      rw [hrequest, identify_tasks, hmarkdown] at hgate
      cases hgate
  | @markdown control request hmarkdown =>
    have hdestination : Site.destination ⟨control, true, closedSite.delegate⟩ .management request
        = .control .markdown := by
      simp only [Site.destination, hmarkdown, Http.Dispatch.destination]
    have hmoved : (s.move (.callMarkdown control request)).world
        = (s.world.receive { s.setup with site := ⟨control, true, closedSite.delegate⟩ }
          .management request).1 := callMarkdown_world s control request
    rw [hmoved]
    obtain ⟨effect, hturned, hcore⟩ := turned_receive
      { s.setup with site := ⟨control, true, closedSite.delegate⟩ } s.world true .management request
    have heffect : effect.deeds = [.beginDrain .markedDown] := by
      generalize (s.world.receive _ .management request).2 = next at hturned
      cases hturned with
      | answer hother hnever => exact absurd hdestination hnever
      | markDown hmarked => rfl
      | letIn hrequest hgate hlistening hwaits => exact absurd hgate (management_ne_gate _ _)
      | answerAtOnce hrequest hgate hlistening himmediate =>
        exact absurd hgate (management_ne_gate _ _)
      | refuse hrequest hgate hphase => exact absurd hgate (management_ne_gate _ _)
    rw [← story_core, hcore, story_apply, story_core, heffect]
    rfl

/-- A step forward adds no cause. -/
theorem begun_advance (policy : WakePolicy) (w : World) (target : Phase) :
    (w.advance policy target).1.begun = w.begun := by
  have hstory : (w.advance policy target).1.story = (Deed.advance target).narrate w.story := by
    rw [advance_eq, story_carryOut]
  rw [begun_of_narrate hstory]
  exact List.append_nil _

/-- Worlds with the same core have had the same beginnings of a shutdown. -/
theorem begun_of_core {w after : World} (h : after.core = w.core) : after.begun = w.begun :=
  begun_of_story (by rw [← story_core after, h, story_core])

/-- Only a request for the shutdown adds the cause of a beginning. -/
theorem begun_or_asks (s : Supervisor) (step : SupervisorMove) :
    (s.move step).world.begun = s.world.begun ∨ ∃ cause, s.Asks step cause := by
  cases step with
  | trigger cause => exact Or.inr ⟨_, .trigger cause⟩
  | takeSockets => exact Or.inl rfl
  | admitRequests =>
    left
    exact (begun_of_core (core_admitRequests s)).trans (begun_advance _ _ _)
  | openStage binding stage =>
    left
    rw [move_openStage]
    cases stage with
    | check => rw [world_check]
    | bind => exact begun_of_core (core_bind s binding)
    | commit sockets => rw [world_commit, begun_advance]
    | publish sockets => rfl
  | startServing sockets site =>
    exact Or.inl (startServing_induction s (P := fun w => w.begun = s.world.begun) sockets site
      (fun _ _ _ hbegun => hbegun) rfl)
  | callMarkdown control request =>
    obtain ⟨effect, hturned, hcore⟩ := turned_receive
      { s.setup with site := ⟨control, true, closedSite.delegate⟩ } s.world true .management request
    have hworld : (s.move (.callMarkdown control request)).world
        = (s.world.receive { s.setup with site := ⟨control, true, closedSite.delegate⟩ }
          .management request).1 := callMarkdown_world s control request
    rw [hworld]
    generalize (s.world.receive _ .management request) = received at hturned hcore ⊢
    obtain ⟨after, next⟩ := received
    cases hturned with
    | answer hother hmarkdown =>
      rw [apply_nothing] at hcore
      exact Or.inl (begun_of_core hcore)
    | markDown hmarkdown =>
      have hserved : (Site.destination ⟨control, true, closedSite.delegate⟩ .management request)
          = .control .markdown := hmarkdown
      have hdispatch : control.dispatch request = .served .markdown := by
        unfold Site.destination at hserved
        cases h : control.dispatch request <;> simp_all [Http.Dispatch.destination]
      exact Or.inr ⟨_, .markdown hdispatch⟩
    | letIn hrequest hgate hlistening hwaits => exact absurd hgate (management_ne_gate _ _)
    | answerAtOnce hrequest hgate hlistening himmediate => exact absurd hgate (management_ne_gate _ _)
    | refuse hrequest hgate hphase => exact absurd hgate (management_ne_gate _ _)
  | run move =>
    rcases begun_happening (move_happens s.setup s.world move) with hsame | ⟨cause, hdone⟩
    · exact Or.inl hsame
    · right
      generalize hdeed : Deed.beginDrain cause = deed at hdone
      cases hdone with
      | enter => cases hdeed
      | leave => cases hdeed
      | asked hmove =>
        have hdirect : move = .act (.beginDrain cause) := by
          subst hdeed
          unfold Move.deed? at hmove
          split at hmove <;> cases hmove
          rfl
        rw [hdirect]
        exact ⟨cause, .direct cause⟩
      | @turned task others effect next _ hcarried hmem hmove hturned =>
        subst hdeed
        generalize herrand : task.errand = errand at hturned
        cases hturned with
        | takeSignal =>
          exact ⟨_, .signal ⟨task, hmem, rfl, rfl, herrand⟩ hmove⟩
        | markDown hmarkdown =>
          rw [identify_tasks] at hmarkdown
          exact ⟨_, .route ⟨task, hmem, rfl, rfl, herrand⟩ hmarkdown hmove⟩
        | _ => simp [Effect.of] at hcarried

/-- What holds of every world that a supervisor has. -/
structure Orderly (w : World) : Prop where
  /-- No number is given twice. -/
  numbered : w.Numbered
  /-- The recorded cause is that of the only beginning. -/
  recorded : Recorded w.story
  /-- Tasks and ends agree with what is recorded. -/
  agreed : w.Agreed

/-- A service that has just been created is in order. -/
theorem orderly_initial (checkup : Option Checkup) : Orderly (World.initial checkup) :=
  ⟨numbered_initial checkup, ⟨rfl, Snapshot.sound_initial⟩,
    ⟨List.forall_mem_nil _, List.forall_mem_nil _⟩⟩

/-- Whatever can happen, a service stays in order. -/
theorem orderly_leads {w after : World} (h : w.Leads after) (hw : Orderly w) : Orderly after := by
  refine h.preserves (P := Orderly) ?_ hw
  intro setup move before after hhappening horderly
  exact ⟨hhappening.numbered horderly.numbered,
    hhappening.preserves_story (P := Recorded) (fun _ deed hr => hr.narrate deed) horderly.recorded,
    hhappening.agreed horderly.agreed⟩

/-- The beginnings in the log of an orderly world are that of the recorded cause. -/
theorem Orderly.begun {w : World} (h : Orderly w) : w.begun = w.snapshot.cause.toList := by
  rw [begun_eq]
  exact h.recorded.begun

/-- As long as the shutdown has not begun, the log tells of no beginning. -/
theorem Orderly.begun_of_open {w : World} (h : Orderly w)
    (hopen : w.snapshot.phase.isShuttingDown = false) : w.begun = [] := by
  rw [h.begun]
  cases hrecorded : w.snapshot.cause with
  | none => rfl
  | some earlier =>
    have hsome : w.story.1.cause ≠ none := by
      have hsame : w.story.1.cause = w.snapshot.cause := rfl
      rw [hsame, hrecorded]
      exact Option.some_ne_none earlier
    have hshutting : w.snapshot.phase.isShuttingDown = true := h.recorded.sound.cause hsome
    rw [hopen] at hshutting
    cases hshutting

/-- A request for the shutdown that comes first begins it, with its cause. -/
theorem Asks.begins (hasks : s.Asks step cause) (h : Orderly s.world)
    (hopen : s.world.snapshot.phase.isShuttingDown = false) :
    (s.move step).world.snapshot.phase = .draining ∧ (s.move step).world.begun = [cause] := by
  have hstory := hasks.story h.numbered
  constructor
  · have hsnapshot : (s.move step).world.snapshot
        = (Deed.beginDrain cause).result s.world.snapshot := congrArg Prod.fst hstory
    rw [hsnapshot, Deed.result_beginDrain, Deed.canAdvance_draining, hopen]
    rfl
  · have hbegins : (Deed.beginDrain cause).begins s.world.snapshot = some cause := by
      unfold Deed.begins
      rw [hopen]
      rfl
    rw [begun_of_narrate hstory, h.begun_of_open hopen, hbegins]
    rfl

/-- A request for the shutdown that comes later changes nothing in the snapshot. -/
theorem Asks.ignored (hasks : s.Asks step cause) (h : Orderly s.world)
    (hshutting : s.world.snapshot.phase.isShuttingDown = true) :
    (s.move step).world.snapshot = s.world.snapshot
      ∧ (s.move step).world.begun = s.world.begun := by
  have hstory := hasks.story h.numbered
  constructor
  · have hsnapshot : (s.move step).world.snapshot
        = (Deed.beginDrain cause).result s.world.snapshot := congrArg Prod.fst hstory
    rw [hsnapshot, Deed.result_beginDrain, Deed.canAdvance_draining, hshutting]
    rfl
  · have hbegins : (Deed.beginDrain cause).begins s.world.snapshot = none := by
      unfold Deed.begins
      rw [hshutting]
      rfl
    rw [begun_of_narrate hstory, hbegins]
    exact List.append_nil _

/-- Once the shutdown has begun, its cause stays as it is. -/
theorem Orderly.cause_run (h : Orderly s.world)
    (hshutting : s.world.snapshot.phase.isShuttingDown = true) (later : List SupervisorMove) :
    (s.run later).world.snapshot.cause = s.world.snapshot.cause
      ∧ (s.run later).world.begun = s.world.begun := by
  have hleads := run_leads s later
  have hcause := hleads.precedes.cause hshutting
  have hlater := (orderly_leads hleads h).begun
  exact ⟨hcause, by rw [hlater, hcause, h.begun]⟩

end Supervisor

open Supervisor

/-- In every run of a supervised service at most one request begins the shutdown, whoever makes it. Its
cause is recorded from then on and never changes, and later requests leave the whole snapshot as it is.
Whatever drains or has listened reports that cause after the stop, or a manual stop where no request
has begun the shutdown. -/
theorem first_cause_wins (config : Config) (machine : Machine) (checkup : Option Checkup)
    (moves : List SupervisorMove) :
    let s := (Supervisor.create config machine checkup).run moves
    s.world.begun.length ≤ 1
      ∧ s.world.snapshot.cause = s.world.begun.head?
      ∧ (∀ policy cause, (s.world.beginDrain policy cause).2 = !s.phase.isShuttingDown
        ∧ (s.world.beginDrain policy cause).1.begun
          = s.world.begun ++ if (s.world.beginDrain policy cause).2 then [cause] else [])
      ∧ (∀ step, (s.move step).world.begun = s.world.begun ∨ ∃ cause, s.Asks step cause)
      ∧ (∀ step cause, s.Asks step cause → s.phase.isShuttingDown = false →
        (s.move step).phase = .draining ∧ (s.move step).world.begun = [cause])
      ∧ (∀ step cause, s.Asks step cause → s.phase.isShuttingDown = true →
        (s.move step).world.snapshot = s.world.snapshot
          ∧ (s.move step).world.begun = s.world.begun)
      ∧ (s.phase.isShuttingDown = true → ∀ later,
        (s.run later).world.snapshot.cause = s.world.snapshot.cause
          ∧ (s.run later).world.begun = s.world.begun)
      ∧ (∀ ending ∈ s.world.finished, ∀ cause,
        ending.outcome = .drained cause ∨ ending.outcome = .stopped cause →
        s.phase = .stopped ∧ cause = s.world.begun.head?.getD .manualStop)
      ∧ ∀ cause, s.stoppedCause? = some cause →
        s.phase = .stopped ∧ cause = s.world.begun.head?.getD .manualStop := by
  intro s
  have horderly : Orderly s.world :=
    orderly_leads (run_leads (Supervisor.create config machine checkup) moves)
      (orderly_initial checkup)
  have hbegun : s.world.begun = s.world.snapshot.cause.toList := horderly.begun
  have hcause : s.world.snapshot.cause = s.world.begun.head? := by
    rw [hbegun]
    cases s.world.snapshot.cause <;> rfl
  have hreports : ∀ cause, s.world.snapshot.phase = .stopped
      ∧ cause = Cause.orManual s.world.snapshot.cause →
      s.phase = .stopped ∧ cause = s.world.begun.head?.getD .manualStop := by
    intro cause hagrees
    rw [← hcause]
    exact hagrees
  have hends : ∀ ending ∈ s.world.finished, ∀ cause,
      ending.outcome = .drained cause ∨ ending.outcome = .stopped cause →
      s.phase = .stopped ∧ cause = s.world.begun.head?.getD .manualStop := by
    intro ending hmem cause houtcome
    have hagrees := horderly.agreed.ends ending hmem
    rcases houtcome with houtcome | houtcome <;> rw [houtcome] at hagrees <;>
      exact hreports cause hagrees
  refine ⟨?_, hcause, fun policy => beginDrain_answer policy s.world, begun_or_asks s,
    fun step cause hasks hopen => hasks.begins horderly hopen,
    fun step cause hasks hshutting => hasks.ignored horderly hshutting, horderly.cause_run, hends, ?_⟩
  · rw [hbegun]
    cases s.world.snapshot.cause <;> simp
  · intro cause hstopped
    obtain ⟨ending, hmem, hfound⟩ := List.exists_of_findSome?_eq_some hstopped
    split at hfound
    · rename_i reported houtcome
      rw [Option.some.inj hfound] at houtcome
      exact hends ending hmem cause (Or.inr houtcome)
    · cases hfound

end GracefulService
