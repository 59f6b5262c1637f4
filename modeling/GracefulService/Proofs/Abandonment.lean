import GracefulService.Proofs.Closing
import GracefulService.Proofs.Lifecycle
import GracefulService.Proofs.Scripts
import GracefulService.Proofs.Slots
import GracefulService.Proofs.Verdicts

/-!
# Giving requests up

Requests in flight are given up once, and only after the service has stopped: by a caller, or by the drain that
closes the servers, whoever comes first. Until then nobody is cut off, and whoever waits for it goes on
waiting. From then on nobody is let in. As soon as all tasks sleep nobody waits for it any more and no request
is in flight: those whose delegates were still at work were answered like requests that are turned away, so
that only the slots held outside the gate are left.
-/

namespace GracefulService

open Http

/-- Requests in flight were given up. -/
def Event.isAbandoning : Event → Bool
  | abandoning _ => true
  | _ => false

/-- The log tells as often of abandonment as it has come about, which is at most once. -/
def AbandonedOnce (story : Snapshot × List Event) : Prop :=
  story.2.countP Event.isAbandoning = story.1.abandoned.toNat

/-- Abandonment that takes effect is logged once, and any other deed leaves both as they are. -/
theorem AbandonedOnce.narrate {story : Snapshot × List Event} (h : AbandonedOnce story) (deed : Deed) :
    AbandonedOnce (deed.narrate story) := by
  obtain ⟨s, events⟩ := story
  simp only [AbandonedOnce, Deed.narrate, List.countP_append] at h ⊢
  rw [h]
  by_cases habandon : deed = .abandon
  · subst habandon
    rw [Deed.result_abandon]
    by_cases hcan : s.phase = .stopped ∧ s.abandoned = false
    · simp [Deed.events, Deed.change, Snapshot.abandon, hcan, Event.isAbandoning]
    · simp [Deed.events, Deed.change, Snapshot.abandon, hcan]
  · have hnone : (deed.events s).countP Event.isAbandoning = 0 := by
      cases hchange : deed.change s <;> cases deed <;> simp_all [Deed.events, Event.isAbandoning]
    rw [Deed.abandoned_result habandon, hnone, Nat.add_zero]

/-- A request is let in only while the service listens. -/
theorem Deed.accepted_post {books : Books} (hphase : books.snapshot.phase ≠ .listening) (deed : Deed) :
    (deed.post books).meters.accepted = books.meters.accepted := by
  cases deed with
  | enter =>
    simp [Deed.post, Deed.readings, Deed.change, Snapshot.enter, Phase.acceptsRequests, hphase, Meters.record]
  | nothing | abandon => rfl
  | advance target | beginDrain cause | leave =>
    simp only [Deed.post, Deed.readings]
    split <;> simp_all [Meters.record]

open World

section Happening

variable {setup : Setup} {move : Move} {w after : World}

/-- Where the service does not listen nobody comes to hold a slot outside the gate. -/
theorem Happening.guards_sublist (hhappening : Happening setup move w after)
    (hphase : w.snapshot.phase ≠ .listening) : after.guards.Sublist w.guards := by
  rw [← core_guards after]
  cases hhappening with
  | keep hlistening h => exact absurd hlistening hphase
  | @drop id hheld h =>
    have hdropped : after.core.guards = w.guards.erase id := (congrArg World.guards h).trans rfl
    rw [hdropped]
    exact List.erase_sublist
  | idle h | deed _ h | refuse _ h | start _ h | cancel _ _ _ _ h | interrupt _ _ _ h | vain _ _ h
  | goOn _ _ _ h | finish _ _ _ h | tick _ _ h | ring _ h | release _ h | signal _ h =>
    have hsame : after.core.guards = w.guards := (congrArg World.guards h).trans rfl
    rw [hsame]

/-- Where the service does not listen no request comes to hold a slot. -/
theorem Happening.holdsSlot_eq_false (hhappening : Happening setup move w after)
    (hphase : w.snapshot.phase ≠ .listening) (hnone : ∀ task ∈ w.tasks, holdsSlot task.errand = false) :
    ∀ task ∈ after.tasks, holdsSlot task.errand = false := by
  intro task hmem
  cases herrand : task.errand with
  | exchange x =>
    rcases hhappening.exchange_before hmem herrand with ⟨source, hsource, y, hy, -⟩ | ⟨hlistening, -⟩
    · have hholds := hnone source hsource
      rw [hy] at hholds
      cases hholds
    · exact absurd hlistening hphase
  | _ => rfl

end Happening

namespace World

variable {setup : Setup} {w : World} {serial : Nat} {owner : Owner}

/-- In every run requests are given up at most once, and the log tells of it. -/
theorem abandonedOnce_run (h : AbandonedOnce w.story) (moves : List Move) :
    (w.run setup moves).log.countP Event.isAbandoning = (w.run setup moves).snapshot.abandoned.toNat := by
  have honce : AbandonedOnce (w.run setup moves).story :=
    run_induction setup w (P := fun after => AbandonedOnce after.story) moves
      (fun _ _ _ _ hhappening honce =>
        hhappening.preserves_story (fun _ deed h => h.narrate deed) honce) h
  rw [← countP_deeds _ fun event h => by cases event <;> first | rfl | cases h]
  exact honce

/-! ## Before requests are given up -/

/-- What has become of somebody who waits until requests are given up. -/
inductive Lingers (w : World) (moves : List Move) (serial : Nat) (owner : Owner) : Prop where
  | waits (hruns : w.Runs serial owner .awaitAbandonment)
  | told (habandoned : w.snapshot.abandoned = true) (h : ⟨serial, owner, .abandoned⟩ ∈ w.finished)
  | cancelled (h : w.CancelledBy moves serial owner)

/-- Whoever waits until requests are given up goes on waiting until then, unless its caller cancels it. -/
theorem lingers_run (setup : Setup) (hruns : w.Runs serial owner .awaitAbandonment) (moves : List Move) :
    (w.run setup moves).Lingers moves serial owner := by
  refine run_induction setup w (P := fun after => after.Lingers moves serial owner) moves ?_ (.waits hruns)
  intro move hmem before after hhappening hlingers
  cases hlingers with
  | told habandoned h => exact .told (hhappening.precedes.abandoned habandoned) (hhappening.finished h)
  | cancelled h => exact .cancelled (h.happening hhappening)
  | waits hruns =>
    cases hhappening.fate hruns with
    | stays h => exact .waits h
    | goesOn hmove hturned hsnapshot hclock h => cases hturned
    | cancelled hmove howner h => exact .cancelled ⟨_, howner, hmove ▸ hmem, h⟩
    | aborted hserver => cases hserver
    | ends hmove hturned hsnapshot hclock h =>
      cases hturned with
      | seeAbandonment hlooks habandoned => exact .told (hhappening.precedes.abandoned habandoned) h

/-- A request in flight goes on, is answered by its delegate or is cancelled by its caller, as long as requests
are not given up. -/
theorem exchange_run_of_not_abandoned {x : Exchange} (hruns : w.Runs serial owner (.exchange x))
    {moves : List Move} (hkept : (w.run setup moves).snapshot.abandoned = false) :
    (∃ progress, (w.run setup moves).Runs serial owner (.exchange { x with progress := progress }))
      ∨ ⟨serial, owner, .answered .delegate (x.send x.progress.yield)⟩ ∈ (w.run setup moves).finished
      ∨ (w.run setup moves).CancelledBy moves serial owner := by
  -- what had been given up on the way would be given up in the end
  have hgone : ∀ before later, moves = before ++ later →
      (w.run setup before).snapshot.abandoned = true → False := by
    intro before later hmoves habandoned
    have hlater := (precedes_run setup (w.run setup before) later).abandoned habandoned
    rw [← run_append, ← hmoves, hkept] at hlater
    cases hlater
  have hserves : x.Serves x.surface x.request ⟨x.allow, .answer x.progress.yield⟩ := ⟨rfl, rfl, rfl, rfl⟩
  cases served_run setup hserves hruns moves with
  | @waits y hserves' h =>
    have hallow : y.allow = x.allow := hserves'.allow
    refine Or.inl ⟨y.progress, ?_⟩
    rw [← hserves'.surface, ← hserves'.request, ← hallow]
    exact h
  | delivered h => exact Or.inr (Or.inl h)
  | givenUp hmoves hruns' habandoned hturn hready h => exact (hgone _ _ hmoves habandoned).elim
  | preempted hmoves hruns' habandoned h => exact (hgone _ _ hmoves habandoned).elim
  | cancelled hmove howner h => exact Or.inr (Or.inr ⟨_, howner, hmove, h⟩)

/-! ## After requests were given up -/

/-- When all tasks sleep after requests were given up, nobody waits for it and no request is under way. -/
theorem Attentive.over_of_settled (hattentive : w.Attentive) (hsettled : w.Settled)
    (habandoned : w.snapshot.abandoned = true) {task : Task} (hmem : task ∈ w.tasks) :
    task.errand ≠ .awaitAbandonment ∧ task.errand.connection? = none := by
  obtain ⟨hsees, hwaits⟩ := (hattentive task hmem).waits (hsettled task hmem)
  cases herrand : task.errand with
  | awaitAbandonment | exchange x =>
    rw [herrand] at hsees
    simp only [Errand.sees, habandoned] at hsees
    cases hsees
  | arrive surface request =>
    rw [herrand] at hwaits
    cases hwaits
  | _ => exact ⟨by simp, rfl⟩

/-- A request that holds a slot keeps a connection open. -/
theorem holdsSlot_of_connection? {errand : Errand} (h : errand.connection? = none) :
    holdsSlot errand = false := by
  cases errand <;> first | rfl | cases h

/-- Where no request holds a slot, those outside the gate are in flight and all others were given back. -/
theorem Balanced.outside (h : Balanced 0 w) (hnone : ∀ task ∈ w.tasks, holdsSlot task.errand = false) :
    w.snapshot.inFlight = w.guards.length
      ∧ w.meters.accepted = w.guards.length + w.log.count .slotReleased := by
  have hcounted := h.counted
  have hconserved := h.conserved
  have hholders : holders w.tasks = 0 :=
    List.countP_eq_zero.2 fun task hmem => by simp [hnone task hmem]
  have hreleased : w.deeds.count .slotReleased = w.log.count .slotReleased := List.count_filter rfl
  rw [liveSlots, hholders] at hcounted
  rw [hreleased, hcounted] at hconserved
  exact ⟨hcounted, hconserved⟩

/-- After the stop no request is let in any more. -/
theorem accepted_run (hstopped : w.snapshot.phase = .stopped) (later : List Move) :
    (w.run setup later).meters.accepted = w.meters.accepted := by
  refine (run_induction setup w (P := fun after => after.books.snapshot.phase = .stopped
    ∧ after.books.meters.accepted = w.meters.accepted) later ?_ ⟨hstopped, rfl⟩).2
  intro move _ before after hhappening hbooks
  refine hhappening.preserves_books (P := fun books => books.snapshot.phase = .stopped
    ∧ books.meters.accepted = w.meters.accepted) ?_ hbooks
  rintro books deed ⟨hphase, haccepted⟩
  refine ⟨(deed.precedes_result books.snapshot).stopped hphase, ?_⟩
  rw [Deed.accepted_post (by rw [hphase]; simp), haccepted]

/-- After the stop callers only give back slots outside the gate. -/
theorem guards_sublist_run (hstopped : w.snapshot.phase = .stopped) (later : List Move) :
    (w.run setup later).guards.Sublist w.guards := by
  refine (run_induction setup w (P := fun after => after.snapshot.phase = .stopped
    ∧ after.guards.Sublist w.guards) later ?_ ⟨hstopped, .refl _⟩).2
  intro move _ before after hhappening ⟨hphase, hguards⟩
  exact ⟨hhappening.precedes.stopped hphase,
    (hhappening.guards_sublist (by rw [hphase]; simp)).trans hguards⟩

/-- Where no request holds a slot after the stop, none ever does again. -/
theorem holdsSlot_run (setup : Setup) (hstopped : w.snapshot.phase = .stopped)
    (hnone : ∀ task ∈ w.tasks, holdsSlot task.errand = false) (later : List Move) :
    ∀ task ∈ (w.run setup later).tasks, holdsSlot task.errand = false := by
  refine (run_induction setup w (P := fun after => after.snapshot.phase = .stopped
    ∧ ∀ task ∈ after.tasks, holdsSlot task.errand = false) later ?_ ⟨hstopped, hnone⟩).2
  intro move _ before after hhappening ⟨hphase, hnone⟩
  exact ⟨hhappening.precedes.stopped hphase, hhappening.holdsSlot_eq_false (by rw [hphase]; simp) hnone⟩

/-- Requests are given up at most once, and only after the stop. -/
structure AbandonsOnce (setup : Setup) (w : World) : Prop where
  /-- A caller is told that it gave requests up if the service has stopped and nobody did before. -/
  answer : (w.act setup .abandon).2 = .whether true
    ↔ w.snapshot.phase = .stopped ∧ w.snapshot.abandoned = false
  /-- It has then given them up. -/
  effect : (w.act setup .abandon).2 = .whether true →
    (w.move setup (.act .abandon)).snapshot.abandoned = true
  /-- Nobody is told so again. -/
  once : (w.act setup .abandon).2 = .whether true →
    ∀ later, (((w.move setup (.act .abandon)).run setup later).act setup .abandon).2 = .whether false
  /-- The log tells of it once it has come about, whoever has done it, and of no other time. -/
  logged : w.log.countP Event.isAbandoning = w.snapshot.abandoned.toNat
  /-- A service whose requests were given up has stopped. -/
  stopped : w.snapshot.abandoned = true → w.snapshot.phase = .stopped

/-- Nobody was cut off by some moves of a service that has been created. -/
structure Unharmed (setup : Setup) (created : World) (moves : List Move) : Prop where
  /-- Whoever waits until requests are given up still does, unless its caller has cancelled it. -/
  waiting : ∀ before id later, moves = before ++ .act (.awaitAbandonment id) :: later →
    let serial := (created.run setup before).started
    (created.run setup moves).Runs serial (.caller id) .awaitAbandonment
      ∨ (created.run setup moves).CancelledBy later serial (.caller id)
  /-- Every request that was let in is in flight, was answered by its delegate, or was cancelled by its
  caller. -/
  admitted : ∀ before later serial owner x, moves = before ++ later →
    (created.run setup before).Runs serial owner (.exchange x) →
    (∃ progress, (created.run setup moves).Runs serial owner (.exchange { x with progress := progress }))
      ∨ ⟨serial, owner, .answered .delegate (x.send x.progress.yield)⟩
          ∈ (created.run setup moves).finished
      ∨ (created.run setup moves).CancelledBy later serial owner

/-- What is left of a world whose requests were given up, when all its tasks sleep after some moves. -/
structure Cleared (setup : Setup) (w : World) (later : List Move) : Prop where
  /-- Nobody waits until requests are given up, and no request is under way. -/
  nobody : ∀ task ∈ (w.run setup later).tasks,
    task.errand ≠ .awaitAbandonment ∧ task.errand.connection? = none
  /-- Those who waited were told, unless their callers cancelled them. -/
  told : ∀ serial owner, w.Runs serial owner .awaitAbandonment →
    ⟨serial, owner, .abandoned⟩ ∈ (w.run setup later).finished
      ∨ (w.run setup later).CancelledBy later serial owner
  /-- Every request whose delegate was still at work was answered like one that is turned away, unless its
  caller cancelled it or its delegate was told to go on in the meantime. -/
  refused : ∀ serial owner x, w.Runs serial owner (.exchange x) → x.progress.isReady w.clock = false →
    (⟨serial, owner, .answered .abandonment (x.send .unavailable)⟩ ∈ (w.run setup later).finished
        ∧ (x.send .unavailable).status = 503)
      ∨ (w.run setup later).CancelledBy later serial owner
      ∨ ∃ key response, x.progress = .held key response ∧ .release key ∈ later
  /-- From here on no request comes to be in flight: only the slots outside the gate are counted, and all
  others were given back. -/
  slots : ∀ more, let after := w.run setup (later ++ more)
    (∀ task ∈ after.tasks, holdsSlot task.errand = false)
      ∧ after.snapshot.inFlight = after.guards.length
      ∧ after.meters.accepted = after.guards.length + after.log.count .slotReleased

/-- What follows in a world whose requests were given up. -/
structure GivesUp (setup : Setup) (w : World) : Prop where
  /-- All tasks sleep after some turns. -/
  settles : ∃ turns, Unprompted turns ∧ w.settle setup = w.run setup turns ∧ (w.run setup turns).Settled
  /-- Whenever they do, nothing is left of the requests. -/
  cleared : ∀ later, (w.run setup later).Settled → w.Cleared setup later
  /-- No request is let in any more. -/
  accepted : ∀ later, (w.run setup later).meters.accepted = w.meters.accepted
  /-- Callers that ask for a slot are turned away. -/
  rejected : ∀ later id, ((w.run setup later).act setup (.enter id)).2 = .rejected .stopped
  /-- So are requests that come to the gate. -/
  turnedAway : ∀ later serial owner surface request move, let after := w.run setup later
    let identified := (after.identify surface request).2
    after.Runs serial owner (.arrive surface request) → move.isTurnOf serial = true →
    setup.site.destination surface identified = .gate →
    TurnedAway after (after.move setup move) serial owner (setup.site.delegate identified) surface identified
  /-- Slots outside the gate are only given back. -/
  guards : ∀ later, (w.run setup later).guards.Sublist w.guards

/-- Whoever begins to wait until requests are given up is a task of its own. -/
theorem runs_awaitAbandonment (setup : Setup) (w : World) (id : String) :
    (w.move setup (.act (.awaitAbandonment id))).Runs w.started (.caller id) .awaitAbandonment :=
  ⟨.fresh w.started (.caller id) .awaitAbandonment, List.mem_append_right _ List.mem_cons_self, rfl, rfl, rfl⟩

/-- A world whose log tells of giving up as often as its snapshot says does so once. -/
theorem abandonsOnce (hsound : w.snapshot.Sound) (hstory : w.log.countP Event.isAbandoning
    = w.snapshot.abandoned.toNat) : w.AbandonsOnce setup := by
  have hanswer : (w.act setup .abandon).2 = .whether true
      ↔ w.snapshot.phase = .stopped ∧ w.snapshot.abandoned = false := by
    rw [act_abandon_answer]
    simp
  have heffect : (w.act setup .abandon).2 = .whether true →
      (w.move setup (.act .abandon)).snapshot.abandoned = true := by
    intro htold
    obtain ⟨hstopped, hkept⟩ := hanswer.1 htold
    simp [World.move, act, abandon, Snapshot.abandon, hstopped, hkept, install, tell]
  refine ⟨hanswer, heffect, fun htold later => ?_, hstory, hsound.abandoned⟩
  have habandoned := (precedes_run setup _ later).abandoned (heffect htold)
  rw [act_abandon_answer, habandoned]
  simp

/-- As long as requests are not given up nobody is cut off. -/
theorem unharmed {created : World} {moves : List Move}
    (hkept : (created.run setup moves).snapshot.abandoned = false) : Unharmed setup created moves where
  waiting before id later hmoves := by
    have hrun : created.run setup moves
        = ((created.run setup before).move setup (.act (.awaitAbandonment id))).run setup later := by
      rw [hmoves, run_append]
      rfl
    have hlingers := lingers_run setup
      (runs_awaitAbandonment setup (created.run setup before) id) later
    rw [← hrun] at hlingers
    cases hlingers with
    | waits hruns => exact Or.inl hruns
    | told habandoned h =>
      rw [hkept] at habandoned
      cases habandoned
    | cancelled h => exact Or.inr h
  admitted before later serial owner x hmoves hruns := by
    have hrun : created.run setup moves = (created.run setup before).run setup later := by
      rw [hmoves, run_append]
    rw [hrun] at hkept ⊢
    exact exchange_run_of_not_abandoned hruns hkept

/-- Where requests were given up and all tasks sleep, nothing is left of those that waited. -/
theorem cleared (hattentive : w.Attentive) (hsound : w.snapshot.Sound) (hbalanced : Balanced 0 w)
    (habandoned : w.snapshot.abandoned = true) {later : List Move}
    (hsettled : (w.run setup later).Settled) : w.Cleared setup later := by
  have habandoned' : (w.run setup later).snapshot.abandoned = true :=
    (precedes_run setup w later).abandoned habandoned
  have hover : ∀ task ∈ (w.run setup later).tasks,
      task.errand ≠ .awaitAbandonment ∧ task.errand.connection? = none := fun task hmem =>
    (attentive_run hattentive later).over_of_settled hsettled habandoned' hmem
  refine ⟨hover, ?_, ?_, ?_⟩
  · intro serial owner hruns
    cases lingers_run setup hruns later with
    | waits hruns' =>
      obtain ⟨task, hmem, -, -, herrand⟩ := hruns'
      exact absurd herrand (hover task hmem).1
    | told _ h => exact Or.inl h
    | cancelled h => exact Or.inr h
  · intro serial owner x hruns hready
    cases unanswered_run setup hattentive hruns habandoned hready later with
    | waits hruns' =>
      obtain ⟨task, hmem, -, -, herrand⟩ := hruns'
      have hconnection := (hover task hmem).2
      rw [herrand] at hconnection
      cases hconnection
    | givenUp h => exact Or.inl ⟨h, Response.status_leave _ _ _ _ _⟩
    | cancelled h => exact Or.inr (Or.inl h)
    | released hheld hrelease => exact Or.inr (Or.inr ⟨_, _, hheld, hrelease⟩)
  · intro more after
    have hstopped : (w.run setup later).snapshot.phase = .stopped :=
      (precedes_run setup w later).stopped (hsound.abandoned habandoned)
    -- no request is left that holds a slot, and none comes by one after the stop
    have hnone : ∀ task ∈ after.tasks, holdsSlot task.errand = false := by
      have hlater := holdsSlot_run setup hstopped
        (fun task hmem => holdsSlot_of_connection? (hover task hmem).2) more
      rw [← run_append] at hlater
      exact hlater
    exact ⟨hnone, (balanced_run hbalanced _).outside hnone⟩

/-- A world whose requests were given up clears them and lets none in. -/
theorem givesUp (hnumbered : w.Numbered) (hattentive : w.Attentive) (hsound : w.snapshot.Sound)
    (hbalanced : Balanced 0 w) (habandoned : w.snapshot.abandoned = true) : w.GivesUp setup := by
  have hstopped : w.snapshot.phase = .stopped := hsound.abandoned habandoned
  refine ⟨?_, fun later => cleared hattentive hsound hbalanced habandoned, accepted_run hstopped, ?_, ?_,
    guards_sublist_run hstopped⟩
  · obtain ⟨turns, hunprompted, hsame, hsettled, -⟩ := hnumbered.settle_run setup
    exact ⟨turns, hunprompted, hsame, hsettled⟩
  · intro later id
    have hphase := (precedes_run setup w later).stopped hstopped
    rw [act_enter_answer, hphase]
    rfl
  · intro later serial owner surface request move after identified hruns hmove hgate
    refine (turn_arrive setup (numbered_run hnumbered later) hruns hmove rfl hgate).2 ?_
    rw [(precedes_run setup w later).stopped hstopped]
    simp

/-- When the tasks have taken the turns that are due, every request whose delegate was still at work has been
answered with 503. -/
theorem GivesUp.refused_at_rest (h : w.GivesUp setup) {serial : Nat} {owner : Owner} {x : Exchange}
    (hruns : w.Runs serial owner (.exchange x)) (hready : x.progress.isReady w.clock = false) :
    ⟨serial, owner, .answered .abandonment (x.send .unavailable)⟩ ∈ (w.settle setup).finished
      ∧ (x.send .unavailable).status = 503 := by
  obtain ⟨turns, hunprompted, hsame, hsettled⟩ := h.settles
  rw [hsame]
  rcases (h.cleared turns hsettled).refused serial owner x hruns hready with hrefused
    | ⟨id, -, hcancel, -⟩ | ⟨key, response, -, hrelease⟩
  · exact hrefused
  · exact absurd hcancel (hunprompted.not_mem rfl)
  · exact absurd hrelease (hunprompted.not_mem rfl)

end World

/-- In every run requests are given up at most once, and only after the stop. As long as they are not, whoever
waits for it goes on waiting, and every request that was let in is in flight or was answered by its delegate,
unless it was cancelled. Once they are, all tasks come to sleep, and whenever they do nobody waits for it and
no request is under way: those whose delegates were still at work were answered like requests that are turned
away, with 503. From then on exactly the slots held outside the gate are in flight, and no slot is taken. -/
theorem abandonment_exact (setup : Setup) (checkup : Option Checkup) (moves : List Move) :
    let created := World.initial checkup
    let w := created.run setup moves
    w.AbandonsOnce setup
      ∧ (w.snapshot.abandoned = false → Unharmed setup created moves)
      ∧ (w.snapshot.abandoned = true → w.GivesUp setup) := by
  intro created w
  have hsound : w.snapshot.Sound := sound_run Snapshot.sound_initial moves
  have hbalanced : Balanced 0 w := balanced_run (balanced_initial checkup) moves
  have honce : AbandonedOnce created.story := rfl
  refine ⟨abandonsOnce hsound (abandonedOnce_run honce moves), unharmed, ?_⟩
  exact givesUp (numbered_run (numbered_initial checkup) moves)
    (attentive_run (attentive_initial checkup) moves) hsound hbalanced

/-- A service whose delegate waits for a key before it answers. -/
def stuck : Setup :=
  ⟨⟨.empty, true, fun _ => ⟨none, .hold "key" (.text 200 "late")⟩⟩, 1000, 1000, .onNotice⟩

/-- The moves by which a service comes to give up a request that its delegate still works on. -/
def stuckMoves : List Move :=
  [.act (.advance .opened), .act (.advance .listening),
    .act (.request "a" .primary (some ⟨.standard .get, ⟨"/late", none⟩, []⟩)), .turn 0,
    .act (.awaitAbandonment "b"), .turn 1, .act (.beginDrain .manualStop), .act (.advance .stopped),
    .act .abandon]

/-- The request holds a slot when it is given up, and after a turn of each task nothing is left. -/
theorem abandonment_exact_stuck :
    let w := (World.initial none).run stuck stuckMoves
    w.snapshot.inFlight = 1 ∧ w.GivesUp stuck ∧ (w.run stuck [.turn 0, .turn 1]).tasks = []
      ∧ (w.run stuck [.turn 0, .turn 1]).snapshot.inFlight = 0 :=
  ⟨rfl, (abandonment_exact stuck none stuckMoves).2.2 rfl, rfl, rfl⟩

end GracefulService
