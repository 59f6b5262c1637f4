import GracefulService.Proofs.Fates

/-!
# Who is let in, and what is answered

The gate decides about a request in one turn, by the phase at that moment alone: while the service listens the
request gets a slot and the delegate is called with it, at any other time it is turned away and nothing
else changes. Whoever was let in is answered by the delegate, however the shutdown goes on meanwhile.
Only abandonment comes between them, and the request is then answered like one that was turned away.
-/

namespace GracefulService

open Http

/-- What leaves a surface when a request is turned away or given up. -/
def Handling.refusal (handling : Handling) (surface : Surface) (request : Request) : Response :=
  Response.unavailable.leave surface request request.isRooted handling.allow

/-- What leaves a surface when the delegate has answered, or has broken. -/
def Handling.answer (handling : Handling) (surface : Surface) (request : Request) : Response :=
  handling.work.yield.leave surface request request.isRooted handling.allow

/-- On its way out a response keeps its status. -/
theorem Http.Response.status_leave (response : Response) (surface : Surface) (request : Request)
    (routed : Bool) (allow : Option String) :
    (response.leave surface request routed allow).status = response.status := by
  have hfinish : (response.finish request.method allow).status = response.status := by
    unfold Response.finish
    split
    · unfold Response.asTunnel
      split <;> rfl
    · dsimp only
      split <;> rfl
  cases surface <;> cases routed <;> first | rfl | exact hfinish

/-- On its way out a response that is no success keeps its body, unless it answers a request for the
head alone. -/
theorem Http.Response.body_leave {response : Response} (surface : Surface) {request : Request}
    (routed : Bool) (allow : Option String) (hfailure : response.isSuccess = false)
    (hhead : request.method ≠ .standard .head) :
    (response.leave surface request routed allow).body = response.body := by
  have hfinish : (response.finish request.method allow).body = response.body := by
    unfold Response.finish
    have hsuccess : ¬(request.method = .standard .connect ∧ response.isSuccess = true) := by
      rw [hfailure]
      exact fun h => Bool.false_ne_true h.2
    rw [if_neg hsuccess]
    dsimp only
    rw [if_neg hhead]
  cases surface <;> cases routed <;> first | rfl | exact hfinish

/-- The exchange of a request that the delegate handles. -/
structure Exchange.Serves (x : Exchange) (surface : Surface) (request : Request)
    (handling : Handling) : Prop where
  /-- It came in through the surface. -/
  surface : x.surface = surface
  /-- It is about the request. -/
  request : x.request = request
  /-- It knows which methods are served. -/
  allow : x.allow = handling.allow
  /-- The delegate will answer as it handles the request. -/
  yield : x.progress.yield = handling.work.yield

/-- The request with a number is turned away. -/
structure TurnedAway (w after : World) (serial : Nat) (owner : Owner) (handling : Handling)
    (surface : Surface) (request : Request) : Prop where
  /-- Nothing changes in the snapshot. -/
  snapshot : after.snapshot = w.snapshot
  /-- The delegate is not called. -/
  calls : after.calls = w.calls
  /-- The gate answers. -/
  answered : ⟨serial, owner, .answered .gate (handling.refusal surface request)⟩ ∈ after.finished

/-- The request with a number is let in. -/
structure LetIn (w after : World) (serial : Nat) (owner : Owner) (handling : Handling)
    (surface : Surface) (request : Request) : Prop where
  /-- It gets a slot. -/
  accepted : after.meters.accepted = w.meters.accepted + 1
  /-- The delegate is called with it once. -/
  calls : after.calls = w.calls ++ [request]
  /-- Where the delegate has to be waited for, it goes on with its slot as the exchange of the request. -/
  waits : handling.work.isImmediate = false →
    after.snapshot = { w.snapshot with inFlight := w.snapshot.inFlight + 1 }
      ∧ ∃ x : Exchange, x.Serves surface request handling ∧ after.Runs serial owner (.exchange x)
  /-- Where the delegate answers at once, its answer goes out in the same turn, and the slot is free again. -/
  immediate : handling.work.isImmediate = true → after.snapshot = w.snapshot
    ∧ ⟨serial, owner, .answered .delegate (handling.answer surface request)⟩ ∈ after.finished

/-- What becomes of a request that was let in, during a run. Requests are given up while the delegate cannot
answer yet; only where it can, and both come to the same turn, it matters what the gate asks about first. -/
inductive Served (setup : Setup) (w : World) (moves : List Move) (serial : Nat) (owner : Owner)
    (handling : Handling) (surface : Surface) (request : Request) : Prop where
  | waits {x : Exchange} (hserves : x.Serves surface request handling)
      (h : (w.run setup moves).Runs serial owner (.exchange x))
  | delivered (h : ⟨serial, owner, .answered .delegate (handling.answer surface request)⟩
      ∈ (w.run setup moves).finished)
  | givenUp {before later : List Move} {last : Move} {x : Exchange}
      (hmoves : moves = before ++ last :: later)
      (hruns : (w.run setup before).Runs serial owner (.exchange x))
      (habandoned : (w.run setup before).snapshot.abandoned = true)
      (hturn : last.isTurnOf serial = true)
      (hready : x.progress.isReady (w.run setup before).clock = false)
      (h : ⟨serial, owner, .answered .abandonment (handling.refusal surface request)⟩
        ∈ (w.run setup moves).finished)
  | preempted {before later : List Move} {x : Exchange}
      (hmoves : moves = before ++ .preempt serial :: later)
      (hruns : (w.run setup before).Runs serial owner (.exchange x))
      (habandoned : (w.run setup before).snapshot.abandoned = true)
      (hready : x.progress.isReady (w.run setup before).clock = true)
      (h : ⟨serial, owner, .answered .abandonment (handling.refusal surface request)⟩
        ∈ (w.run setup moves).finished)
  | cancelled {id : String} (hmove : .act (.cancel id) ∈ moves) (howner : owner = .caller id)
      (h : ⟨serial, owner, .cancelled⟩ ∈ (w.run setup moves).finished)

namespace World

variable {setup : Setup} {w : World} {serial : Nat} {owner : Owner} {surface : Surface}
  {request : Request} {handling : Handling}

/-- A request that is let in takes a slot and is counted, and the delegate is called with it. -/
theorem apply_enter (policy : WakePolicy) {w : World} (hlistening : w.snapshot.phase = .listening)
    (request : Request) :
    let after := (⟨[.enter], none, [request]⟩ : Effect).apply policy w
    after.snapshot = { w.snapshot with inFlight := w.snapshot.inFlight + 1 }
      ∧ after.meters.accepted = w.meters.accepted + 1 ∧ after.calls = w.calls ++ [request] := by
  have hsnapshot : ((⟨[.enter], none, [request]⟩ : Effect).apply policy w).snapshot
      = Deed.enter.result w.snapshot := snapshot_apply _ _ _
  have hmeters : ((⟨[.enter], none, [request]⟩ : Effect).apply policy w).meters
      = (Deed.enter.readings w.snapshot).foldl Meters.record w.meters := rfl
  rw [Deed.result_enter, if_pos hlistening] at hsnapshot
  rw [Deed.readings_enter hlistening] at hmeters
  exact ⟨hsnapshot, congrArg Meters.accepted hmeters, rfl⟩

/-- A request that is let in and answered in the same turn is counted like any other, and gives its slot back. -/
theorem apply_enter_leave (policy : WakePolicy) {w : World} (hlistening : w.snapshot.phase = .listening)
    (request : Request) :
    let after := (⟨[.enter, .leave], none, [request]⟩ : Effect).apply policy w
    after.snapshot = w.snapshot
      ∧ after.meters.accepted = w.meters.accepted + 1 ∧ after.calls = w.calls ++ [request] := by
  have hsnapshot : ((⟨[.enter, .leave], none, [request]⟩ : Effect).apply policy w).snapshot
      = Deed.leave.result (Deed.enter.result w.snapshot) := snapshot_apply _ _ _
  have hmeters : ((⟨[.enter, .leave], none, [request]⟩ : Effect).apply policy w).meters
      = (Deed.leave.readings (Deed.enter.result w.snapshot)).foldl Meters.record
        ((Deed.enter.readings w.snapshot).foldl Meters.record w.meters) := rfl
  rw [Deed.result_leave_enter hlistening] at hsnapshot
  rw [Deed.readings_enter hlistening, Deed.result_enter, if_pos hlistening] at hmeters
  exact ⟨hsnapshot, congrArg Meters.accepted hmeters, rfl⟩

/-- A request that is turned away changes neither the snapshot nor what the delegate was called with. -/
theorem apply_enter_refused (policy : WakePolicy) {w : World} (hphase : w.snapshot.phase ≠ .listening) :
    let after := (Effect.of .enter).apply policy w
    after.snapshot = w.snapshot ∧ after.calls = w.calls := by
  have hsnapshot : ((Effect.of .enter).apply policy w).snapshot = Deed.enter.result w.snapshot :=
    snapshot_apply _ _ _
  rw [Deed.result_enter, if_neg hphase] at hsnapshot
  exact ⟨hsnapshot, List.append_nil _⟩

/-- The gate decides about a request by the phase at the moment of its turn. -/
theorem turn_arrive (setup : Setup) (hnumbered : w.Numbered)
    (hruns : w.Runs serial owner (.arrive surface request)) {move : Move}
    (hmove : move.isTurnOf serial = true) {identified : Request}
    (hidentified : identified = (w.identify surface request).2)
    (hgate : setup.site.destination surface identified = .gate) :
    (w.snapshot.phase = .listening → LetIn w (w.move setup move) serial owner
        (setup.site.delegate identified) surface identified)
      ∧ (w.snapshot.phase ≠ .listening → TurnedAway w (w.move setup move) serial owner
        (setup.site.delegate identified) surface identified) := by
  obtain ⟨task, front, back, rfl, rfl, herrand, -, hmoved⟩ :=
    hnumbered.move_runs_eq setup hruns (fun _ => Errand.noConfusion) hmove
  obtain ⟨effect, hturned, hcore⟩ := turned_receive setup
    { w with tasks := front ++ back } task.looks surface request
  rw [hmoved]
  simp only [takeTurn, herrand, turn]
  generalize ({ w with tasks := front ++ back }.receive setup surface request) = received
    at hturned hcore
  obtain ⟨after, next⟩ := received
  cases hturned with
  | answer hother hmarkdown =>
    rw [identify_tasks, ← hidentified] at hother
    exact absurd hgate hother
  | markDown hmarkdown =>
    rw [identify_tasks, ← hidentified, hgate] at hmarkdown
    cases hmarkdown
  | letIn hrequest hadmitted hlistening hwaits =>
    rw [identify_tasks, ← hidentified] at hrequest
    subst hrequest
    obtain ⟨hsnapshot, haccepted, hcalls⟩ := apply_enter setup.policy
      (w := core { w with tasks := front ++ back }) hlistening _
    rw [← hcore] at hsnapshot haccepted hcalls
    refine ⟨fun _ => ⟨haccepted, hcalls, fun _ => ⟨hsnapshot, ?_⟩, fun himmediate => ?_⟩,
      fun hphase => absurd hlistening hphase⟩
    · exact ⟨_, ⟨rfl, rfl, rfl, Work.yield_progress _ _ _⟩, _, List.mem_cons_self, rfl, rfl, rfl⟩
    · rw [hwaits] at himmediate
      cases himmediate
  | answerAtOnce hrequest hadmitted hlistening himmediate =>
    rw [identify_tasks, ← hidentified] at hrequest
    subst hrequest
    obtain ⟨hsnapshot, haccepted, hcalls⟩ := apply_enter_leave setup.policy
      (w := core { w with tasks := front ++ back }) hlistening _
    rw [← hcore] at hsnapshot haccepted hcalls
    refine ⟨fun _ => ⟨haccepted, hcalls, fun hwaits => ?_, fun _ => ⟨hsnapshot, ?_⟩⟩,
      fun hphase => absurd hlistening hphase⟩
    · rw [hwaits] at himmediate
      cases himmediate
    · exact List.mem_append_right _ List.mem_cons_self
  | refuse hrequest hrefused hphase =>
    rw [identify_tasks, ← hidentified] at hrequest
    subst hrequest
    obtain ⟨hsnapshot, hcalls⟩ := apply_enter_refused setup.policy
      (w := core { w with tasks := front ++ back }) hphase
    rw [← hcore] at hsnapshot hcalls
    exact ⟨fun hlistening => absurd hlistening hphase,
      fun _ => ⟨hsnapshot, hcalls, List.mem_append_right _ List.mem_cons_self⟩⟩

end World

namespace Exchange

variable {x : Exchange} {surface : Surface} {request : Request} {handling : Handling}

/-- What leaves with the answer of the delegate. -/
theorem Serves.send_yield (h : x.Serves surface request handling) :
    x.send x.progress.yield = handling.answer surface request := by
  rw [Exchange.send, Handling.answer, h.surface, h.request, h.allow, h.yield]

/-- What leaves when the request is given up. -/
theorem Serves.send_unavailable (h : x.Serves surface request handling) :
    x.send .unavailable = handling.refusal surface request := by
  rw [Exchange.send, Handling.refusal, h.surface, h.request, h.allow]

/-- A delegate that is told to go on answers what it had to say. -/
theorem Serves.release (h : x.Serves surface request handling) {key : String} {response : Response}
    (hheld : x.progress = .held key response) :
    Exchange.Serves { x with progress := .done response } surface request handling := by
  refine ⟨h.surface, h.request, h.allow, ?_⟩
  rw [← h.yield, hheld]
  rfl

end Exchange

namespace World

variable {setup : Setup} {w : World} {serial : Nat} {owner : Owner} {surface : Surface}
  {request : Request} {handling : Handling}

/-- Whoever was let in waits, is answered by the delegate, is given up after abandonment, or is
cancelled. -/
theorem served_run (setup : Setup) {x : Exchange} (hserves : x.Serves surface request handling)
    (hruns : w.Runs serial owner (.exchange x)) (moves : List Move) :
    Served setup w moves serial owner handling surface request := by
  induction moves generalizing w x with
  | nil => exact .waits hserves hruns
  | cons first later ih =>
    -- What ended in the first move stays so; what goes on is served by the rest of the run.
    have hrun : w.run setup (first :: later) = (w.move setup first).run setup later := rfl
    have hgoesOn : ∀ x' : Exchange, x'.Serves surface request handling →
        (w.move setup first).Runs serial owner (.exchange x') →
        Served setup w (first :: later) serial owner handling surface request := by
      intro x' hserves' hruns'
      cases ih hserves' hruns' with
      | waits hserves'' h => exact .waits hserves'' h
      | delivered h => exact .delivered h
      | @givenUp before after last x'' hmoves hruns'' habandoned hturn hready h =>
        have hmoves' : first :: later = (first :: before) ++ last :: after := by
          rw [hmoves]
          rfl
        exact .givenUp hmoves' hruns'' habandoned hturn hready h
      | @preempted before after x'' hmoves hruns'' habandoned hready h =>
        have hmoves' : first :: later = (first :: before) ++ .preempt serial :: after := by
          rw [hmoves]
          rfl
        exact .preempted hmoves' hruns'' habandoned hready h
      | cancelled hmove howner h => exact .cancelled (List.mem_cons_of_mem _ hmove) howner h
    cases (move_happens setup w first).fate hruns with
    | stays h => exact hgoesOn x hserves h
    | released hmove hheld h => exact hgoesOn _ (hserves.release hheld) h
    | goesOn hmove hturned hsnapshot hclock h => cases hturned
    | preempted hmove habandoned h =>
      rw [hserves.send_unavailable] at h
      have hended := finished_run setup h later
      rw [← hrun] at hended
      rw [hmove] at hended ⊢
      cases hready : x.progress.isReady w.clock with
      | false => exact .givenUp (List.nil_append _).symm hruns habandoned (decide_eq_true rfl) hready hended
      | true => exact .preempted (List.nil_append _).symm hruns habandoned hready hended
    | cancelled hmove howner h =>
      refine .cancelled (List.mem_cons.2 (Or.inl hmove.symm)) howner ?_
      rw [hrun]
      exact finished_run setup h later
    | aborted hserver => cases hserver
    | ends hmove hturned hsnapshot hclock h =>
      cases hturned with
      | deliver hready =>
        rw [hserves.send_yield] at h
        refine .delivered ?_
        rw [hrun]
        exact finished_run setup h later
      | giveUp hlooks habandoned hready =>
        rw [hserves.send_unavailable] at h
        refine .givenUp (List.nil_append _).symm hruns habandoned hmove hready ?_
        rw [hrun]
        exact finished_run setup h later

/-- When every task waits, a request that has not ended waits for its delegate, which cannot answer yet,
and requests have not been given up. -/
theorem Attentive.exchange_at_rest (hattentive : w.Attentive) (hrest : w.isResting = true)
    {x : Exchange} (hruns : w.Runs serial owner (.exchange x)) :
    w.snapshot.abandoned = false ∧ x.progress.isReady w.clock = false := by
  obtain ⟨task, hmem, -, -, herrand⟩ := hruns
  obtain ⟨hsees, hwaits, htimer⟩ := hattentive.waits_at_rest hrest hmem
  rw [herrand] at hsees hwaits htimer
  refine ⟨hsees, ?_⟩
  cases hprogress : x.progress with
  | done response => simp [Errand.waits, hprogress] at hwaits
  | paused timer response =>
    have hlater := htimer timer (by simp [Errand.timer?, hprogress])
    simp only [Progress.isReady, decide_eq_false_iff_not]
    omega
  | held key response => rfl

end World

open World

/-- Time stands still while a request in flight can be decided about. -/
theorem Happening.clock_of_decidable {setup : Setup} {move : Move} {w after : World} {serial : Nat}
    {owner : Owner} (hhappening : Happening setup move w after) (hattentive : w.Attentive) {x : Exchange}
    (hruns : w.Runs serial owner (.exchange x))
    (hdue : w.snapshot.abandoned = true ∨ x.progress.isReady w.clock = true) :
    after.clock = w.clock := by
  rcases hhappening.clock with hstill | ⟨milliseconds, -, hcan, -⟩
  · exact hstill
  · simp only [canTick, Bool.and_eq_true] at hcan
    obtain ⟨hkept, hready⟩ := hattentive.exchange_at_rest hcan.1 hruns
    rcases hdue with habandoned | hfinished
    · rw [hkept] at habandoned
      cases habandoned
    · rw [hready] at hfinished
      cases hfinished

namespace World

variable {setup : Setup} {w : World} {serial : Nat} {owner : Owner} {surface : Surface}
  {request : Request} {handling : Handling}

/-- The caller of a task cancels it with one of some moves. -/
def CancelledBy (w : World) (moves : List Move) (serial : Nat) (owner : Owner) : Prop :=
  ∃ id, owner = .caller id ∧ .act (.cancel id) ∈ moves ∧ ⟨serial, owner, .cancelled⟩ ∈ w.finished

/-- A task that was cancelled stays so. -/
theorem CancelledBy.happening {move : Move} {after : World} {moves : List Move}
    (h : w.CancelledBy moves serial owner) (hhappening : Happening setup move w after) :
    after.CancelledBy moves serial owner := by
  obtain ⟨id, howner, hcancel, hended⟩ := h
  exact ⟨id, howner, hcancel, hhappening.finished hended⟩

/-- What has become of a request whose delegate could not answer when requests had been given up. -/
inductive Unanswered (w : World) (moves : List Move) (serial : Nat) (owner : Owner) (x : Exchange) :
    Prop where
  | waits (hruns : w.Runs serial owner (.exchange x)) (hready : x.progress.isReady w.clock = false)
  | givenUp (h : ⟨serial, owner, .answered .abandonment (x.send .unavailable)⟩ ∈ w.finished)
  | cancelled (h : w.CancelledBy moves serial owner)
  | released {key : String} {response : Response} (hheld : x.progress = .held key response)
      (hrelease : .release key ∈ moves)

/-- Once requests have been given up, one whose delegate cannot answer is answered like one that was turned
away, in its next turn: no time passes before that. -/
theorem unanswered_run (setup : Setup) {x : Exchange} (hattentive : w.Attentive)
    (hruns : w.Runs serial owner (.exchange x)) (habandoned : w.snapshot.abandoned = true)
    (hready : x.progress.isReady w.clock = false) (moves : List Move) :
    (w.run setup moves).Unanswered moves serial owner x := by
  refine (run_induction setup w
    (P := fun after => after.Attentive ∧ after.snapshot.abandoned = true
      ∧ after.Unanswered moves serial owner x)
    moves ?_ ⟨hattentive, habandoned, .waits hruns hready⟩).2.2
  intro move hmem before after hhappening ⟨hattentive, habandoned, hunanswered⟩
  refine ⟨hhappening.attentive hattentive, hhappening.precedes.abandoned habandoned, ?_⟩
  cases hunanswered with
  | givenUp h => exact .givenUp (hhappening.finished h)
  | cancelled h => exact .cancelled (h.happening hhappening)
  | released hheld hrelease => exact .released hheld hrelease
  | waits hruns hready =>
    -- The request has been told, so its turn comes before time passes.
    have hclock : after.clock = before.clock :=
      hhappening.clock_of_decidable hattentive hruns (Or.inl habandoned)
    cases hhappening.fate hruns with
    | stays h => exact .waits h (by rw [hclock]; exact hready)
    | released hmove hheld h => exact .released hheld (hmove ▸ hmem)
    | goesOn hmove hturned hsnapshot hclock h => cases hturned
    | preempted hmove habandoned h => exact .givenUp h
    | cancelled hmove howner h => exact .cancelled ⟨_, howner, hmove ▸ hmem, h⟩
    | aborted hserver => cases hserver
    | ends hmove hturned hsnapshot hclock h =>
      cases hturned with
      | deliver hdelivers =>
        have hdelivers' : x.progress.isReady before.clock = true := hdelivers
        rw [hready] at hdelivers'
        cases hdelivers'
      | giveUp hlooks habandoned hready => exact .givenUp h

/-- Once requests have been given up, one whose delegate cannot answer is answered like one that was turned
away, unless its client cancels it or the delegate is told to go on before that. -/
theorem givenUp_run {x : Exchange} (hattentive : w.Attentive)
    (hserves : x.Serves surface request handling) (hruns : w.Runs serial owner (.exchange x))
    (habandoned : w.snapshot.abandoned = true) (hready : x.progress.isReady w.clock = false)
    {moves : List Move}
    (hheld : ∀ key response, x.progress = .held key response → .release key ∉ moves) :
    ⟨serial, owner, .answered .abandonment (handling.refusal surface request)⟩
        ∈ (w.run setup moves).finished
      ∨ ⟨serial, owner, .cancelled⟩ ∈ (w.run setup moves).finished
      ∨ (w.run setup moves).isResting = false := by
  rw [← hserves.send_unavailable]
  cases unanswered_run setup hattentive hruns habandoned hready moves with
  | givenUp h => exact Or.inl h
  | cancelled h =>
    obtain ⟨id, -, -, hended⟩ := h
    exact Or.inr (Or.inl hended)
  | released hprogress hrelease => exact absurd hrelease (hheld _ _ hprogress)
  | waits hruns' =>
    refine Or.inr (Or.inr ?_)
    cases hrest : (w.run setup moves).isResting with
    | false => rfl
    | true =>
      have hwaiting := ((attentive_run hattentive moves).exchange_at_rest hrest hruns').1
      rw [(precedes_run setup w moves).abandoned habandoned] at hwaiting
      cases hwaiting

end World

/-- Only a request that arrives has the delegate called, in its own turn. -/
theorem Happening.calls {setup : Setup} {move : Move} {w after : World}
    (hhappening : Happening setup move w after) :
    after.calls = w.calls ∨ ∃ task ∈ w.tasks, move.isTurnOf task.serial = true
      ∧ ∃ surface request, task.errand = .arrive surface request := by
  rw [← core_calls after, ← core_calls w]
  cases hhappening with
  | @keep id hphase h =>
    left
    rw [h]
    exact keepGuard_induction _ (P := fun after => after.calls = w.core.calls) setup.policy id
      (fun _ _ hcalls => hcalls) (fun _ hcalls => hcalls) rfl
  | @goOn front back task effect errand hmove hsplit hturned h =>
    have hmem : task ∈ w.tasks := mem_of_split hsplit
    generalize herrand : task.errand = arriving at hturned
    cases hturned with
    | letIn hrequest hgate hlistening hwaits => exact Or.inr ⟨task, hmem, hmove, _, _, herrand⟩
    | _ => exact Or.inl ((congrArg World.calls h).trans (List.append_nil _))
  | @finish front back task effect outcome hmove hsplit hturned h =>
    have hmem : task ∈ w.tasks := mem_of_split hsplit
    generalize herrand : task.errand = ending at hturned
    cases hturned with
    | answerAtOnce hrequest hgate hlistening himmediate =>
      exact Or.inr ⟨task, hmem, hmove, _, _, herrand⟩
    | _ => exact Or.inl ((congrArg World.calls h).trans (List.append_nil _))
  | idle h | deed _ h | refuse _ h | drop _ h | start _ h | cancel _ _ _ _ h | interrupt _ _ _ h
  | vain _ _ h | tick _ _ h | ring _ h | release _ h | signal _ h =>
    exact Or.inl ((congrArg World.calls h).trans rfl)

namespace World

/-- A request about which the gate has decided. -/
def Decided (w : World) (serial : Nat) (owner : Owner) : Prop :=
  (∃ x, w.Runs serial owner (.exchange x)) ∨ ∃ outcome, ⟨serial, owner, outcome⟩ ∈ w.finished

section Decided

variable {setup : Setup} {w : World} {serial : Nat} {owner : Owner}

/-- What the gate has decided stays decided. -/
theorem decided_run (h : w.Decided serial owner) (moves : List Move) :
    (w.run setup moves).Decided serial owner := by
  refine run_induction setup w (P := fun after => after.Decided serial owner) moves ?_ h
  intro move _ before after hhappening hdecided
  rcases hdecided with ⟨x, hruns⟩ | ⟨outcome, hended⟩
  · cases hhappening.fate hruns with
    | stays h => exact Or.inl ⟨_, h⟩
    | released hmove hheld h => exact Or.inl ⟨_, h⟩
    | goesOn hmove hturned hsnapshot hclock h => cases hturned
    | ends hmove hturned hsnapshot hclock h => exact Or.inr ⟨_, h⟩
    | preempted hmove habandoned h => exact Or.inr ⟨_, h⟩
    | cancelled hmove howner h => exact Or.inr ⟨_, h⟩
    | aborted hserver => cases hserver
  · exact Or.inr ⟨outcome, hhappening.finished hended⟩

/-- The delegate is not called again with a request about which the gate has decided. -/
theorem calls_of_decided (hnumbered : w.Numbered) (hdecided : w.Decided serial owner) {move : Move}
    (hturn : move.isTurnOf serial = true) : (w.move setup move).calls = w.calls := by
  rcases (move_happens setup w move).calls with hsame | ⟨task, hmem, hmove, surface, request, herrand⟩
  · exact hsame
  · have hserial : task.serial = serial := by
      cases move with
      | turn other => exact (of_decide_eq_true hmove).symm.trans (of_decide_eq_true hturn)
      | preempt other => exact (of_decide_eq_true hmove).symm.trans (of_decide_eq_true hturn)
      | _ => cases hturn
    rcases hdecided with ⟨x, hruns⟩ | ⟨outcome, hended⟩
    · have hsame := hnumbered.errand_unique ⟨task, hmem, hserial, rfl, herrand⟩ hruns
      cases hsame
    · exact absurd hserial (hnumbered.not_over hmem hended)

end Decided

end World

/-- What a turn of a request in flight comes to. Whether its delegate can answer at that moment decides, and
whether requests have been given up; where both are so, it is decided by what the gate asks about first. -/
structure Weighed (w after : World) (move : Move) (serial : Nat) (owner : Owner) (handling : Handling)
    (surface : Surface) (request : Request) (x : Exchange) : Prop where
  /-- As long as requests are not given up, it waits for its delegate. -/
  waits : w.snapshot.abandoned = false → x.progress.isReady w.clock = false →
    after.Runs serial owner (.exchange x)
  /-- The answer of the delegate goes out when there is one. -/
  delivered : x.progress.isReady w.clock = true →
    w.snapshot.abandoned = false ∨ move = .turn serial →
    ⟨serial, owner, .answered .delegate (handling.answer surface request)⟩ ∈ after.finished
  /-- Once requests have been given up, it is answered like one that was turned away when there is none. -/
  givenUp : w.snapshot.abandoned = true →
    x.progress.isReady w.clock = false ∨ move = .preempt serial →
    ⟨serial, owner, .answered .abandonment (handling.refusal surface request)⟩ ∈ after.finished

namespace World

variable {setup : Setup} {w : World} {serial : Nat} {owner : Owner} {surface : Surface}
  {request : Request} {handling : Handling}

/-- What the turn of a task that holds a slot comes to, where the gate asks the delegate first. -/
theorem weighed_takeTurn (setup : Setup) {x : Exchange} {task : Task} (others : List Task)
    (hserves : x.Serves surface request handling) (herrand : task.errand = .exchange x)
    (hlooks : w.snapshot.abandoned = true → task.looks = true) :
    Weighed w (w.takeTurn setup task others) (.turn task.serial) task.serial task.owner handling surface
      request x := by
  have hturn : turn setup { w with tasks := others } task.looks task.errand
      = if x.progress.isReady w.clock = true then
          some (endExchange setup.policy { w with tasks := others } x .delegate x.progress.yield)
        else if task.looks = true ∧ w.snapshot.abandoned = true then
          some (endExchange setup.policy { w with tasks := others } x .abandonment .unavailable)
        else none := by
    rw [herrand]
    exact turnExchange_eq setup.policy { w with tasks := others } task.looks x
  refine ⟨fun hkept hready => ?_, fun hready _ => ?_, fun habandoned hready => ?_⟩
  · rw [if_neg (by rw [hready]; exact Bool.false_ne_true),
      if_neg (by rw [hkept]; exact fun h => Bool.false_ne_true h.2)] at hturn
    simp only [takeTurn, hturn]
    exact ⟨task.asleep, List.mem_append_right _ List.mem_cons_self, rfl, rfl, herrand⟩
  · rw [if_pos hready] at hturn
    simp only [takeTurn, hturn, ← hserves.send_yield]
    exact List.mem_append_right _ List.mem_cons_self
  · have hunready : x.progress.isReady w.clock = false := hready.resolve_right Move.noConfusion
    rw [if_neg (by rw [hunready]; exact Bool.false_ne_true), if_pos ⟨hlooks habandoned, habandoned⟩]
      at hturn
    simp only [takeTurn, hturn, ← hserves.send_unavailable]
    exact List.mem_append_right _ List.mem_cons_self

/-- In every turn of a request in flight, the gate finds out what has come. -/
theorem weighed_move (setup : Setup) {x : Exchange} (hnumbered : w.Numbered) (hattentive : w.Attentive)
    (hserves : x.Serves surface request handling) (hruns : w.Runs serial owner (.exchange x)) {move : Move}
    (hmove : move.isTurnOf serial = true) :
    Weighed w (w.move setup move) move serial owner handling surface request x := by
  obtain ⟨task, hmem, rfl, rfl, herrand⟩ := hruns
  obtain ⟨front, back, hsplit⟩ := List.append_of_mem hmem
  have hlooks : w.snapshot.abandoned = true → task.looks = true := by
    intro habandoned
    refine (hattentive task hmem).looks ?_
    rw [herrand]
    exact habandoned
  have hturn := weighed_takeTurn setup (front ++ back) hserves herrand hlooks
  cases move with
  | turn other =>
    obtain rfl : other = task.serial := of_decide_eq_true hmove
    rw [hnumbered.move_turn_eq setup hsplit]
    exact hturn
  | preempt other =>
    obtain rfl : other = task.serial := of_decide_eq_true hmove
    have hpreempt : w.move setup (.preempt task.serial) = w.preempt setup task (front ++ back) := by
      simp only [World.move, hnumbered.takeFirst_serial hsplit]
    rw [hpreempt]
    unfold preempt
    rw [herrand]
    cases habandoned : w.snapshot.abandoned with
    | false =>
      have hkept : ¬(task.looks = true ∧ false = true) := fun h => Bool.false_ne_true h.2
      dsimp only
      rw [if_neg hkept]
      exact ⟨fun _ => hturn.waits habandoned, fun hready _ => hturn.delivered hready (Or.inl habandoned),
        fun hgiven => absurd (habandoned.symm.trans hgiven) Bool.false_ne_true⟩
    | true =>
      dsimp only
      rw [if_pos ⟨hlooks habandoned, rfl⟩]
      refine ⟨fun hkept => absurd (hkept.symm.trans habandoned) Bool.false_ne_true, fun _ hfirst => ?_,
        fun _ _ => ?_⟩
      · rcases hfirst with hkept | hsame
        · exact absurd (hkept.symm.trans habandoned) Bool.false_ne_true
        · cases hsame
      · rw [← hserves.send_unavailable]
        exact List.mem_append_right _ List.mem_cons_self
  | _ => cases hmove

end World

/-- What is promised to a request that was let in: how every run goes on for it. -/
structure Honoured (setup : Setup) (w : World) (serial : Nat) (owner : Owner) (handling : Handling)
    (surface : Surface) (request : Request) : Prop where
  /-- It waits until the delegate answers, it is given up, or it is cancelled. -/
  served : ∀ moves, Served setup w moves serial owner handling surface request
  /-- Each of its turns decides by what has come at that moment. -/
  weighed : ∀ moves x move, (w.run setup moves).Runs serial owner (.exchange x) →
    move.isTurnOf serial = true →
    Weighed (w.run setup moves) ((w.run setup moves).move setup move) move serial owner handling surface
      request x
  /-- When every task waits, it waits for a delegate that cannot answer yet, and requests have not been
  given up. -/
  atRest : ∀ moves x, (w.run setup moves).Runs serial owner (.exchange x) →
    (w.run setup moves).isResting = true →
    (w.run setup moves).snapshot.abandoned = false
      ∧ x.progress.isReady (w.run setup moves).clock = false
  /-- When requests are given up while its delegate cannot answer, it is answered like one that was
  turned away, unless it is cancelled or the delegate is told to go on before its turn. -/
  givenUp : ∀ before x later, (w.run setup before).Runs serial owner (.exchange x) →
    (w.run setup before).snapshot.abandoned = true →
    x.progress.isReady (w.run setup before).clock = false →
    (∀ key response, x.progress = .held key response → .release key ∉ later) →
    ⟨serial, owner, .answered .abandonment (handling.refusal surface request)⟩
        ∈ (w.run setup (before ++ later)).finished
      ∨ ⟨serial, owner, .cancelled⟩ ∈ (w.run setup (before ++ later)).finished
      ∨ (w.run setup (before ++ later)).isResting = false

namespace World

variable {setup : Setup} {w : World} {serial : Nat} {owner : Owner} {surface : Surface}
  {request : Request} {handling : Handling}

/-- As long as a request waits, its exchange stays the same but for the progress of the delegate. -/
theorem serves_run {x x' : Exchange} (hnumbered : w.Numbered)
    (hserves : x.Serves surface request handling) (hruns : w.Runs serial owner (.exchange x))
    (moves : List Move) (hruns' : (w.run setup moves).Runs serial owner (.exchange x')) :
    x'.Serves surface request handling := by
  have hafter : (w.run setup moves).Numbered := numbered_run hnumbered moves
  have hover : ∀ outcome, ⟨serial, owner, outcome⟩ ∉ (w.run setup moves).finished := by
    intro outcome hended
    obtain ⟨task, hmem, hserial, -, -⟩ := hruns'
    exact hafter.not_over hmem hended hserial
  cases served_run setup hserves hruns moves with
  | waits hserves'' h =>
    have hsame := hafter.errand_unique hruns' h
    cases hsame
    exact hserves''
  | delivered h => exact absurd h (hover _)
  | givenUp hmoves hruns'' habandoned hturn hready h => exact absurd h (hover _)
  | preempted hmoves hruns'' habandoned hready h => exact absurd h (hover _)
  | cancelled hmove howner h => exact absurd h (hover _)

/-- A request that goes on as an exchange is honoured. -/
theorem honoured_of_serves {x : Exchange} (hnumbered : w.Numbered) (hattentive : w.Attentive)
    (hserves : x.Serves surface request handling) (hruns : w.Runs serial owner (.exchange x)) :
    Honoured setup w serial owner handling surface request := by
  refine ⟨served_run setup hserves hruns, ?_, ?_, ?_⟩
  · intro moves x' move hruns' hmove
    exact weighed_move setup (numbered_run hnumbered moves) (attentive_run hattentive moves)
      (serves_run hnumbered hserves hruns moves hruns') hruns' hmove
  · intro moves x' hruns' hrest
    exact (attentive_run hattentive moves).exchange_at_rest hrest hruns'
  · intro before x' later hruns' habandoned hready hheld
    have hserves' : x'.Serves surface request handling :=
      serves_run hnumbered hserves hruns before hruns'
    rw [run_append]
    exact givenUp_run (attentive_run hattentive before) hserves' hruns' habandoned hready hheld

/-- A request that its delegate has answered is honoured. -/
theorem honoured_of_answered (hnumbered : w.Numbered)
    (hended : ⟨serial, owner, .answered .delegate (handling.answer surface request)⟩ ∈ w.finished) :
    Honoured setup w serial owner handling surface request := by
  have hover : ∀ moves x, ¬(w.run setup moves).Runs serial owner (.exchange x) := by
    rintro moves x ⟨task, hmem, hserial, -⟩
    exact (numbered_run hnumbered moves).not_over hmem (finished_run setup hended moves) hserial
  exact ⟨fun moves => .delivered (finished_run setup hended moves),
    fun moves x _ hruns => absurd hruns (hover moves x),
    fun moves x hruns => absurd hruns (hover moves x),
    fun before x _ hruns => absurd hruns (hover before x)⟩

/-- A request that was let in is decided about. -/
theorem decided_of_letIn {after : World}
    (hletIn : LetIn w after serial owner handling surface request) : after.Decided serial owner := by
  cases himmediate : handling.work.isImmediate with
  | false =>
    obtain ⟨-, x, -, hruns⟩ := hletIn.waits himmediate
    exact Or.inl ⟨x, hruns⟩
  | true => exact Or.inr ⟨_, (hletIn.immediate himmediate).2⟩

/-- The promise to a request that was let in is kept. -/
theorem honoured_of_letIn {after : World} (hnumbered : after.Numbered) (hattentive : after.Attentive)
    (hletIn : LetIn w after serial owner handling surface request) :
    Honoured setup after serial owner handling surface request := by
  cases himmediate : handling.work.isImmediate with
  | false =>
    obtain ⟨-, x, hserves, hruns⟩ := hletIn.waits himmediate
    exact honoured_of_serves hnumbered hattentive hserves hruns
  | true => exact honoured_of_answered hnumbered (hletIn.immediate himmediate).2

end World

/-- In every run, a request that comes to the gate is let in exactly when the service listens at the moment of
its turn, and turned away otherwise, so always once a shutdown has begun. The delegate is called with it
then, once or not at all, and never later. Who was let in is answered by the delegate unless it is
cancelled or its turn finds that requests have been given up. Without an answer of the delegate at that moment it
is answered like one that was turned away, and with one either may go out. The gate and the handler of panics
say why in the body, which only answers to requests for the head alone leave out. -/
theorem requests_served (setup : Setup) (checkup : Option Checkup) (moves : List Move)
    {serial : Nat} {owner : Owner} {surface : Surface} {request : Request}
    (hruns : ((World.initial checkup).run setup moves).Runs serial owner (.arrive surface request))
    {identified : Request}
    (hidentified : identified
      = (((World.initial checkup).run setup moves).identify surface request).2)
    (hgate : setup.site.destination surface identified = .gate) {move : Move}
    (hmove : move.isTurnOf serial = true) :
    let w := (World.initial checkup).run setup moves
    let after := w.move setup move
    let handling := setup.site.delegate identified
    (w.snapshot.phase = .listening → LetIn w after serial owner handling surface identified
        ∧ Honoured setup after serial owner handling surface identified)
      ∧ (w.snapshot.phase ≠ .listening →
        TurnedAway w after serial owner handling surface identified)
      ∧ (∀ before later, moves = before ++ later →
        ((World.initial checkup).run setup before).snapshot.phase.isShuttingDown = true →
        TurnedAway w after serial owner handling surface identified)
      ∧ (∀ later move, move.isTurnOf serial = true →
        ((after.run setup later).move setup move).calls = (after.run setup later).calls)
      ∧ (handling.refusal surface identified).status = 503
      ∧ (identified.method ≠ .standard .head →
        (handling.refusal surface identified).body = "Service Unavailable")
      ∧ (handling.work = .broken → (handling.answer surface identified).status = 500
        ∧ (identified.method ≠ .standard .head →
          (handling.answer surface identified).body = "Service panicked")) := by
  intro w after handling
  have hnumbered : w.Numbered := numbered_run (numbered_initial checkup) moves
  have hafter : after.Numbered := (move_happens setup w _).numbered hnumbered
  have hattentive : after.Attentive :=
    (move_happens setup w _).attentive (attentive_run (attentive_initial checkup) moves)
  obtain ⟨hletIn, hturnedAway⟩ := turn_arrive setup hnumbered hruns hmove hidentified hgate
  refine ⟨?_, hturnedAway, ?_, ?_, ?_, ?_, ?_⟩
  · intro hlistening
    have hin := hletIn hlistening
    exact ⟨hin, honoured_of_letIn hafter hattentive hin⟩
  · intro before later hmoves hshutting
    refine hturnedAway fun hlistening => ?_
    have hw : w = ((World.initial checkup).run setup before).run setup later := by
      rw [← run_append, ← hmoves]
    have hlater := (precedes_run setup _ later).isShuttingDown hshutting
    rw [← hw, hlistening] at hlater
    cases hlater
  · intro later move hturn
    have hdecided : after.Decided serial owner := by
      by_cases hlistening : w.snapshot.phase = .listening
      · exact decided_of_letIn (hletIn hlistening)
      · exact Or.inr ⟨_, (hturnedAway hlistening).answered⟩
    exact calls_of_decided (numbered_run hafter later) (decided_run hdecided later) hturn
  · exact Response.status_leave _ _ _ _ _
  · exact Response.body_leave _ _ _ rfl
  · intro hbroken
    have hyield : handling.work.yield = .panicked := by
      rw [hbroken]
      rfl
    unfold Handling.answer
    rw [hyield]
    exact ⟨Response.status_leave _ _ _ _ _, Response.body_leave _ _ _ rfl⟩

/-- A service whose delegate greets once it is told to go on. -/
def greeter : Setup :=
  ⟨⟨.empty, true, fun _ => ⟨none, .hold "key" (.text 200 "hello")⟩⟩, 1000, 1000, .onNotice⟩

/-- The greeter listens, and a request has come in. -/
def greeterAsked : World :=
  (World.initial none).run greeter [.act (.advance .opened), .act (.advance .listening),
    .act (.request "a" .primary (some ⟨.standard .get, ⟨"/hello", none⟩, []⟩))]

/-- The greeter lets the request in, and its greeting goes out once it has been told to go on. -/
theorem requests_served_greeter :
    let handling : Handling := ⟨none, .hold "key" (.text 200 "hello")⟩
    let identified := (greeterAsked.identify .primary ⟨.standard .get, ⟨"/hello", none⟩, []⟩).2
    let after := greeterAsked.move greeter (.turn 0)
    LetIn greeterAsked after 0 (.caller "a") handling .primary identified
      ∧ ⟨0, .caller "a", .answered .delegate (handling.answer .primary identified)⟩
        ∈ (after.run greeter [.release "key", .turn 0]).finished := by
  intro handling identified after
  have hpromised : LetIn greeterAsked after 0 (.caller "a") handling .primary identified
      ∧ Honoured greeter after 0 (.caller "a") handling .primary identified :=
    (requests_served greeter none
      [.act (.advance .opened), .act (.advance .listening),
        .act (.request "a" .primary (some ⟨.standard .get, ⟨"/hello", none⟩, []⟩))]
      ⟨_, List.mem_cons_self, rfl, rfl, rfl⟩ rfl rfl
      (show (Move.turn 0).isTurnOf 0 = true from rfl)).1 rfl
  refine ⟨hpromised.1, ?_⟩
  have hdecided : (after.run greeter [.release "key", .turn 0]).tasks = [] := by decide +kernel
  cases hpromised.2.served [.release "key", .turn 0] with
  | waits hserves hruns =>
    obtain ⟨task, hmem, -⟩ := hruns
    rw [hdecided] at hmem
    cases hmem
  | delivered h => exact h
  | givenUp _ _ _ _ _ h | preempted _ _ _ _ h => exact absurd h (by decide +kernel)
  | cancelled hmove => exact absurd hmove (by simp)

/-- Who has answered which request, with what status and body. -/
def World.answers (w : World) : List (Nat × Answerer × Nat × String) :=
  w.finished.filterMap fun ending =>
    match ending.outcome with
    | .answered answerer response => some (ending.serial, answerer, response.status, response.body)
    | _ => none

/-- Where the gate asks about abandonment first, a request is given up although its delegate was told to go on
before. And whoever asks for the head alone is turned away without the words that say why. -/
theorem ready_answer_given_up :
    let ready := greeterAsked.run greeter [.turn 0, .act (.beginDrain .manualStop), .act (.advance .stopped),
      .release "key"]
    let asked := (World.initial none).run greeter
      [.act (.request "a" .primary (some ⟨.standard .head, ⟨"/hello", none⟩, []⟩))]
    (ready.tasks.map fun task =>
        match task.errand with
        | .exchange x => some (task.serial, x.progress)
        | _ => none) = [some (0, .done (.text 200 "hello"))]
      ∧ ready.snapshot.abandoned = false
      ∧ (ready.run greeter [.act .abandon, .turn 0]).answers = [(0, .delegate, 200, "hello")]
      ∧ (ready.run greeter [.act .abandon, .preempt 0]).answers
        = [(0, .abandonment, 503, "Service Unavailable")]
      ∧ (asked.move greeter (.turn 0)).answers = [(0, .gate, 503, "")] := by
  decide +kernel

end GracefulService
