import GracefulService.Proofs.Deeds

/-!
# What a turn does

A turn of a task is one of a few things: it does a deed, or nothing, to the world beside the task, and
the task goes on or is over. `Turned` lists them with the conditions under which they happen, and
`turned_of_turn` says that there are no others. A turn comes to nothing exactly when its task has
nothing to do: it waits for something that has not happened, as far as it looks.
-/

namespace GracefulService

open Http

/-- The delegate has an answer at a moment. -/
def Progress.isReady (clock : Nat) : Progress → Bool
  | done _ => true
  | paused timer _ => decide (timer.deadline ≤ clock)
  | held .. => false

/-- What the delegate answers in the end, as far as it is asked. -/
def Progress.yield : Progress → Response
  | done response => response
  | paused _ response => response
  | held _ response => response

/-- How far a delegate is with some work that it begins at a moment. -/
def Work.progress (clock ticket : Nat) : Work → Progress
  | answer response => .done response
  | broken => .done .panicked
  | pause milliseconds response => .paused ⟨clock + milliseconds, ticket⟩ response
  | hold key response => .held key response

/-- What comes of some work in the end. -/
def Work.yield : Work → Response
  | answer response => response
  | broken => .panicked
  | pause _ response => response
  | hold _ response => response

/-- Nobody has to wait for what comes of some work. -/
def Work.isImmediate : Work → Bool
  | answer _ | broken => true
  | pause .. | hold .. => false

/-- Beginning to work does not change what comes of it. -/
theorem Work.yield_progress (work : Work) (clock ticket : Nat) :
    (work.progress clock ticket).yield = work.yield := by
  cases work <;> rfl

/-- A response on its way out of an exchange. -/
def Exchange.send (x : Exchange) (response : Response) : Response :=
  response.leave x.surface x.request x.request.isRooted x.allow

namespace Errand

/-- What an errand waits for on the snapshot has come. -/
def sees (s : Snapshot) : Errand → Bool
  | awaitPhase target => s.phase.hasReached target
  | awaitAbandonment => s.abandoned
  | awaitShutdown _ => s.phase.isShuttingDown
  | awaitIdle .. => decide (s.inFlight = 0)
  | serve .. => s.phase.hasReached .stopped
  | watchSignals none => s.phase.hasReached .stopped
  | exchange _ => s.abandoned
  | _ => false

/-- An errand that may have to wait. The others can always go on. -/
def waits : Errand → Bool
  | readCause _ | startServer .. | arrive .. | watchSignals (some _) | closeServers _ _ [] => false
  | exchange x =>
    match x.progress with
    | .paused .. | .held .. => true
    | _ => false
  | _ => true

end Errand

/-- What a turn does to the world beside its task. -/
structure Effect where
  /-- What it does to the snapshot, one deed after the other. -/
  deeds : List Deed
  /-- The server that it gives up. -/
  aborted : Option Surface
  /-- The requests that it calls the delegate with. -/
  called : List Request

namespace Effect

/-- A turn that does no more than a deed. -/
def of (deed : Deed) : Effect := ⟨[deed], none, []⟩

/-- The snapshot after a turn. -/
def result (s : Snapshot) (effect : Effect) : Snapshot := effect.deeds.foldl Deed.result s

/-- A turn leaves a task beside it there, unless it gives up the server that the task is. -/
def keeps (effect : Effect) (task : Task) : Bool :=
  match effect.aborted with
  | none => true
  | some surface => decide (task.errand.server? ≠ some surface)

/-- A turn that gives up no server leaves all tasks there. -/
theorem filter_keeps {effect : Effect} (h : effect.aborted = none) (tasks : List Task) :
    tasks.filter effect.keeps = tasks :=
  List.filter_eq_self.2 fun _ _ => by simp only [keeps, h]

/-- The world after a turn. Deeds change the snapshot and what is recorded, and tell the tasks. -/
def apply (policy : WakePolicy) (effect : Effect) (w : World) : World :=
  let done := w.carryOutAll policy effect.deeds
  { w with
    snapshot := done.snapshot
    meters := done.meters
    log := done.log
    tasks := done.tasks.filter effect.keeps
    calls := w.calls ++ effect.called }

end Effect

/-- What a task has done in a turn, beside which world, with which effect on it, and what becomes of the
task. -/
inductive Turned (setup : Setup) (w : World) (looks : Bool) : Errand → Effect → Next → Prop where
  | reachPhase {target : Phase} (hlooks : looks = true)
      (hreached : w.snapshot.phase.hasReached target = true) :
      Turned setup w looks (.awaitPhase target) (.of .nothing) (.finish .reached)
  | seeAbandonment (hlooks : looks = true) (habandoned : w.snapshot.abandoned = true) :
      Turned setup w looks .awaitAbandonment (.of .nothing) (.finish .abandoned)
  | seeShutdown {sequel : Sequel} (hlooks : looks = true)
      (hshutting : w.snapshot.phase.isShuttingDown = true) :
      Turned setup w looks (.awaitShutdown sequel) (.of .nothing)
        (.goOn (.awaitIdle sequel ⟨w.clock + setup.window, w.tickets⟩))
  | seeIdle {sequel : Sequel} {timer : Timer} (hlooks : looks = true)
      (hidle : w.snapshot.inFlight = 0) :
      Turned setup w looks (.awaitIdle sequel timer) (.of (.advance .stopped))
        (.goOn (.readCause sequel))
  | endWindow {sequel : Sequel} {timer : Timer} (hdue : timer.deadline ≤ w.clock) :
      Turned setup w looks (.awaitIdle sequel timer) (.of (.advance .stopped))
        (.goOn (.readCause sequel))
  | report :
      Turned setup w looks (.readCause .report) (.of .nothing) (.finish (.drained w.causeNow))
  | beginClosing {surfaces : List Surface} :
      Turned setup w looks (.readCause (.close surfaces)) (.of .nothing)
        (.goOn (.closeServers w.causeNow ⟨w.clock + setup.grace, w.tickets⟩ surfaces))
  | endClosing {cause : Cause} {timer : Timer} :
      Turned setup w looks (.closeServers cause timer []) (.of .nothing) (.finish (.stopped cause))
  | seeClosed {cause : Cause} {timer : Timer} {surface : Surface} {surfaces : List Surface}
      (hgone : w.hasServer surface = false) :
      Turned setup w looks (.closeServers cause timer (surface :: surfaces)) (.of .nothing)
        (.goOn (.closeServers cause timer surfaces))
  | endGrace {cause : Cause} {timer : Timer} {surface : Surface} {surfaces : List Surface}
      (hserver : w.hasServer surface = true) (hdue : timer.deadline ≤ w.clock) :
      Turned setup w looks (.closeServers cause timer (surface :: surfaces))
        ⟨[.abandon], some surface, []⟩ (.goOn (.closeServers cause timer surfaces))
  | beginServing {surface : Surface} {address : BoundAddress} :
      Turned setup w looks (.startServer surface address) (.of .nothing) (.goOn (.serve surface address))
  | seeStop {surface : Surface} {address : BoundAddress} (hlooks : looks = true)
      (hstopped : w.snapshot.phase.hasReached .stopped = true) :
      Turned setup w looks (.serve surface address) (.of .nothing) (.goOn (.finishServer surface))
  | endServing {surface : Surface} (hidle : w.hasConnection surface = false) :
      Turned setup w looks (.finishServer surface) (.of .nothing) (.finish (.closed surface))
  | takeSignal {name : String} :
      Turned setup w looks (.watchSignals (some name)) (.of (.beginDrain (.signal name)))
        (.finish .watched)
  | endWatch (hlooks : looks = true) (hstopped : w.snapshot.phase.hasReached .stopped = true) :
      Turned setup w looks (.watchSignals none) (.of .nothing) (.finish .watched)
  | answer {surface : Surface} {request : Request} {answerer : Answerer} {response : Response}
      (hgate : setup.site.destination surface (w.identify surface request).2 ≠ .gate)
      (hmarkdown :
        setup.site.destination surface (w.identify surface request).2 ≠ .control .markdown)
      (hanswerer : answerer ≠ .gate) :
      Turned setup w looks (.arrive surface request) (.of .nothing)
        (.finish (.answered answerer response))
  | markDown {surface : Surface} {request : Request} {response : Response}
      (hmarkdown :
        setup.site.destination surface (w.identify surface request).2 = .control .markdown) :
      Turned setup w looks (.arrive surface request) (.of (.beginDrain .markedDown))
        (.finish (.answered .control response))
  | letIn {surface : Surface} {request identified : Request} {ticket : Nat}
      (hrequest : identified = (w.identify surface request).2)
      (hgate : setup.site.destination surface identified = .gate)
      (hlistening : w.snapshot.phase = .listening)
      (hwaits : (setup.site.delegate identified).work.isImmediate = false) :
      Turned setup w looks (.arrive surface request) ⟨[.enter], none, [identified]⟩
        (.goOn (.exchange ⟨surface, identified, (setup.site.delegate identified).allow,
          (setup.site.delegate identified).work.progress w.clock ticket⟩))
  | answerAtOnce {surface : Surface} {request identified : Request}
      (hrequest : identified = (w.identify surface request).2)
      (hgate : setup.site.destination surface identified = .gate)
      (hlistening : w.snapshot.phase = .listening)
      (himmediate : (setup.site.delegate identified).work.isImmediate = true) :
      Turned setup w looks (.arrive surface request) ⟨[.enter, .leave], none, [identified]⟩
        (.finish (.answered .delegate ((setup.site.delegate identified).work.yield.leave surface
          identified identified.isRooted (setup.site.delegate identified).allow)))
  | refuse {surface : Surface} {request identified : Request}
      (hrequest : identified = (w.identify surface request).2)
      (hgate : setup.site.destination surface identified = .gate)
      (hphase : w.snapshot.phase ≠ .listening) :
      Turned setup w looks (.arrive surface request) (.of .enter)
        (.finish (.answered .gate (Response.unavailable.leave surface identified
          identified.isRooted (setup.site.delegate identified).allow)))
  | deliver {x : Exchange} (hready : x.progress.isReady w.clock = true) :
      Turned setup w looks (.exchange x) (.of .leave)
        (.finish (.answered .delegate (x.send x.progress.yield)))
  | giveUp {x : Exchange} (hlooks : looks = true) (habandoned : w.snapshot.abandoned = true)
      (hready : x.progress.isReady w.clock = false) :
      Turned setup w looks (.exchange x) (.of .leave)
        (.finish (.answered .abandonment (x.send .unavailable)))

/-- A slot that is asked for while the service listens is recorded with the admission. -/
theorem Deed.readings_enter {s : Snapshot} (hlistening : s.phase = .listening) :
    Deed.enter.readings s = [.inFlight (s.inFlight + 1), .admission true] := by
  simp [Deed.readings, Deed.change, Snapshot.enter, Phase.acceptsRequests, hlistening]

/-- A slot that is taken and given back leaves the snapshot as it was. -/
theorem Deed.result_leave_enter {s : Snapshot} (hlistening : s.phase = .listening) :
    Deed.leave.result (Deed.enter.result s) = s := by
  rw [Deed.result_enter, if_pos hlistening, Deed.result_leave]
  rfl

/-- To the snapshot a turn does no more than one deed. -/
theorem Turned.result_eq {setup : Setup} {w : World} {looks : Bool} {errand : Errand} {effect : Effect}
    {next : Next} (hturned : Turned setup w looks errand effect next) :
    ∃ deed : Deed, (deed ∈ effect.deeds ∨ deed = .nothing)
      ∧ effect.result w.snapshot = deed.result w.snapshot := by
  cases hturned with
  | answerAtOnce hrequest hgate hlistening himmediate =>
    exact ⟨.nothing, Or.inr rfl, Deed.result_leave_enter hlistening⟩
  | _ => exact ⟨_, Or.inl List.mem_cons_self, rfl⟩

namespace World

/-- The snapshot after a turn is the result of its deeds. -/
theorem snapshot_apply (policy : WakePolicy) (effect : Effect) (w : World) :
    (effect.apply policy w).snapshot = effect.result w.snapshot :=
  snapshot_carryOutAll policy w effect.deeds

/-- Doing nothing changes nothing. -/
theorem carryOut_nothing (policy : WakePolicy) (w : World) : w.carryOut policy .nothing = w := by
  have hrefused : Deed.nothing.change w.snapshot = none := rfl
  rw [refused_eq policy w hrefused]
  simp [Deed.readings, Deed.events]

/-- A turn that does no more than a deed gives up no server and calls no delegate. -/
theorem apply_of (policy : WakePolicy) (deed : Deed) (w : World) :
    (Effect.of deed).apply policy w = w.carryOut policy deed := by
  have hkeeps : ∀ tasks : List Task, tasks.filter (Effect.of deed).keeps = tasks :=
    Effect.filter_keeps rfl
  simp only [Effect.apply, hkeeps]
  simp only [Effect.of, List.append_nil]
  rfl

/-- To do nothing in a turn changes nothing. -/
theorem apply_nothing (policy : WakePolicy) (w : World) :
    (Effect.of .nothing).apply policy w = w := by
  rw [apply_of, carryOut_nothing]

/-- An event that tells of no deed leaves the core as it is. -/
theorem core_tell {event : Event} (h : event.tellsDeed = false) (w : World) :
    (w.tell event).core = w.core := by
  simp [core, tell, deeds, List.filter_append, h]

/-- To identify a request leaves the core as it is. -/
theorem core_identify (w : World) (surface : Surface) (request : Request) :
    (w.identify surface request).1.core = w.core := by
  unfold identify
  split <;> rfl

/-- The id that a request gets does not depend on the tasks. -/
theorem identify_tasks (w : World) (tasks : List Task) (surface : Surface) (request : Request) :
    ({ w with tasks := tasks }.identify surface request).2 = (w.identify surface request).2 := by
  unfold identify
  split <;> rfl

/-- To answer a probe leaves the core as it is. -/
theorem core_answerProbe (w : World) (probe : Probe) (request : Request) :
    (w.answerProbe probe request).1.core = w.core := by
  simp only [answerProbe]
  split
  · rw [core_tell rfl]
    rfl
  · rfl

/-- A mark-down begins the shutdown, and is no more than that to the core. -/
theorem core_answerMarkdown (policy : WakePolicy) (w : World) :
    (w.answerMarkdown policy).1.core = w.core.carryOut policy (.beginDrain .markedDown) := by
  rw [← core_carryOut, ← beginDrain_eq]
  simp only [answerMarkdown]
  split
  · exact core_tell rfl _
  · rfl

/-- Calling the delegate changes nothing that is read back but the calls. -/
theorem core_call (w : World) (request : Request) : (w.call request).core = w.core.call request := rfl

/-- A request for which the delegate has to be waited for goes on as an exchange. -/
theorem handOver_waits (policy : WakePolicy) (w : World) (surface : Surface) (request : Request)
    {handling : Handling} (hwaits : handling.work.isImmediate = false) :
    (w.handOver policy surface request handling).1.core = w.core.call request
      ∧ (w.handOver policy surface request handling).2 = .goOn (.exchange
        ⟨surface, request, handling.allow, handling.work.progress w.clock w.tickets⟩) := by
  obtain ⟨allow, work⟩ := handling
  cases work with
  | answer | broken => cases hwaits
  | pause | hold => exact ⟨rfl, rfl⟩

/-- A request that the delegate answers at once gives its slot back in the same turn. -/
theorem handOver_immediate (policy : WakePolicy) (w : World) (surface : Surface) (request : Request)
    {handling : Handling} (himmediate : handling.work.isImmediate = true) :
    (w.handOver policy surface request handling).1.core = (w.core.call request).carryOut policy .leave
      ∧ (w.handOver policy surface request handling).2 = .finish (.answered .delegate
        (handling.work.yield.leave surface request request.isRooted handling.allow)) := by
  have hreleased : ((w.call request).release policy).core = (w.core.call request).carryOut policy .leave := by
    rw [release_eq, core_carryOut, core_call]
  obtain ⟨allow, work⟩ := handling
  cases work with
  | answer | broken => exact ⟨hreleased, rfl⟩
  | pause | hold => cases himmediate

/-- Asking for a slot succeeds exactly while the service listens. -/
theorem enter_accepted (policy : WakePolicy) (w : World) :
    (w.enter policy).2 = true ↔ w.snapshot.phase = .listening := by
  by_cases h : w.snapshot.phase = .listening <;>
    simp [enter, Snapshot.enter, Phase.acceptsRequests, h]

variable {setup : Setup} {w after : World} {looks : Bool} {next : Next}

/-- The gate lets a request in or turns it away, by the phase at that moment alone. -/
theorem turned_passGate {surface : Surface} {request identified : Request} {w' : World}
    (hcore : w'.core = w.core) (hrequest : identified = (w.identify surface request).2)
    (hgate : setup.site.destination surface identified = .gate) :
    ∃ effect, Turned setup w looks (.arrive surface request) effect
        (w'.passGate setup surface identified).2
      ∧ (w'.passGate setup surface identified).1.core = effect.apply setup.policy w.core := by
  have hphase : w'.snapshot.phase = w.snapshot.phase := by
    rw [← core_snapshot w', hcore, core_snapshot]
  have hentered := enter_eq setup.policy w'
  rw [hcore] at hentered
  have haccepted := enter_accepted setup.policy w'
  rw [hphase] at haccepted
  rcases h : w'.enter setup.policy with ⟨entered, accepted⟩
  rw [h] at hentered haccepted
  simp only at hentered haccepted
  cases accepted with
  | true =>
    have hlistening := haccepted.1 rfl
    have hclock : entered.clock = w.clock := by
      rw [← core_clock entered, hentered]
      rfl
    have hkeeps : ∀ deeds, ∀ tasks : List Task,
        tasks.filter (Effect.mk deeds none [identified]).keeps = tasks :=
      fun _ => Effect.filter_keeps rfl
    cases himmediate : (setup.site.delegate identified).work.isImmediate with
    | false =>
      obtain ⟨hworld, hnext⟩ := handOver_waits setup.policy entered surface identified himmediate
      refine ⟨⟨[.enter], none, [identified]⟩, ?_, ?_⟩
      · simp only [passGate, h, hnext, hclock]
        exact .letIn hrequest hgate hlistening himmediate
      · simp only [passGate, h, hworld, hentered, Effect.apply, hkeeps]
        rfl
    | true =>
      obtain ⟨hworld, hnext⟩ := handOver_immediate setup.policy entered surface identified himmediate
      refine ⟨⟨[.enter, .leave], none, [identified]⟩, ?_, ?_⟩
      · simp only [passGate, h, hnext]
        exact .answerAtOnce hrequest hgate hlistening himmediate
      · simp only [passGate, h, hworld, hentered, Effect.apply, hkeeps]
        rfl
  | false =>
    have hrefused : w.snapshot.phase ≠ .listening := fun hp => by simpa using haccepted.2 hp
    refine ⟨.of .enter, ?_, ?_⟩
    · simp only [passGate, h]
      exact .refuse hrequest hgate hrefused
    · simp only [passGate, h, hentered, apply_of]

/-- A request that arrives is answered by the control routes, or goes to the gate. -/
theorem turned_receive (setup : Setup) (w : World) (looks : Bool) (surface : Surface)
    (request : Request) :
    ∃ effect, Turned setup w looks (.arrive surface request) effect
        (w.receive setup surface request).2
      ∧ (w.receive setup surface request).1.core = effect.apply setup.policy w.core := by
  have hcore := core_identify w surface request
  simp only [receive]
  cases h : setup.site.destination surface (w.identify surface request).2 with
  | control action =>
    cases action with
    | probe probe =>
      refine ⟨.of .nothing, .answer (by simp [h]) (by simp [h]) (by simp), ?_⟩
      rw [apply_nothing]
      exact (core_answerProbe _ probe (w.identify surface request).2).trans hcore
    | markdown =>
      refine ⟨.of (.beginDrain .markedDown), .markDown h, ?_⟩
      rw [apply_of, ← hcore]
      exact core_answerMarkdown _ _
  | otherMethods allowed =>
    refine ⟨.of .nothing, .answer (by simp [h]) (by simp [h]) (by simp), ?_⟩
    rw [apply_nothing]
    exact hcore
  | gate => exact turned_passGate hcore rfl h
  | nowhere =>
    refine ⟨.of .nothing, .answer (by simp [h]) (by simp [h]) (by simp), ?_⟩
    rw [apply_nothing]
    exact hcore

/-- Whether the delegate has an answer decides what the turn of a request that holds a slot comes to. -/
theorem turnExchange_eq (policy : WakePolicy) (w : World) (looks : Bool) (x : Exchange) :
    w.turnExchange policy looks x
      = if x.progress.isReady w.clock = true then some (w.endExchange policy x .delegate x.progress.yield)
        else if looks = true ∧ w.snapshot.abandoned = true then
          some (w.endExchange policy x .abandonment .unavailable)
        else none := by
  unfold turnExchange
  cases x.progress with
  | done response | paused timer response => rfl
  | held key response => exact (if_neg Bool.false_ne_true).symm

/-- A request that holds a slot is answered by the delegate if it can, and otherwise given up when the
requests in flight have been. -/
theorem turned_turnExchange {x : Exchange}
    (h : w.turnExchange setup.policy looks x = some (after, next)) :
    ∃ effect, Turned setup w looks (.exchange x) effect next
      ∧ after.core = effect.apply setup.policy w.core := by
  have hreleased : (w.release setup.policy).core
      = (Effect.of .leave).apply setup.policy w.core := by
    rw [release_eq, core_carryOut, apply_of]
  rw [turnExchange_eq] at h
  split at h
  · rename_i hready
    cases h
    exact ⟨_, .deliver hready, hreleased⟩
  · rename_i hready
    split at h
    · rename_i habandoned
      cases h
      exact ⟨_, .giveUp habandoned.1 habandoned.2 (Bool.eq_false_iff.2 hready), hreleased⟩
    · cases h

/-- A drain whose window has not ended waits for the last slot. -/
theorem turned_turnAwaitIdle {sequel : Sequel} {timer : Timer}
    (h : w.turnAwaitIdle setup looks sequel timer = some (after, next)) :
    ∃ effect, Turned setup w looks (.awaitIdle sequel timer) effect next
      ∧ after.core = effect.apply setup.policy w.core := by
  unfold turnAwaitIdle at h
  split at h
  · rename_i hidle
    cases Option.some.inj h
    refine ⟨_, .seeIdle hidle.1 hidle.2, ?_⟩
    rw [apply_of, ← core_carryOut, ← advance_eq]
  · split at h
    · rename_i hdue
      cases Option.some.inj h
      refine ⟨_, .endWindow (by simpa [isDue] using hdue), ?_⟩
      rw [apply_of, advance_eq, core_carryOut, core_tell rfl]
    · cases h

/-- Servers are closed one after the other, and given up where their time is over. -/
theorem turned_turnCloseServers {cause : Cause} {timer : Timer} {surfaces : List Surface}
    (h : w.turnCloseServers setup.policy cause timer surfaces = some (after, next)) :
    ∃ effect, Turned setup w looks (.closeServers cause timer surfaces) effect next
      ∧ after.core = effect.apply setup.policy w.core := by
  cases surfaces with
  | nil =>
    cases Option.some.inj h
    refine ⟨_, .endClosing, ?_⟩
    rw [apply_nothing, core_tell rfl]
  | cons surface surfaces =>
    simp only [turnCloseServers] at h
    split at h
    · rename_i hgone
      cases Option.some.inj h
      refine ⟨_, .seeClosed (by simpa using hgone), ?_⟩
      rw [apply_nothing]
    · rename_i hserver
      split at h
      · rename_i hdue
        cases Option.some.inj h
        refine ⟨_, .endGrace (by simpa using hserver) (by simpa [isDue] using hdue), ?_⟩
        have habandoned : ((w.tell .serverOverdue).abandon setup.policy).1.core
            = w.core.carryOut setup.policy .abandon := by
          rw [abandon_eq, core_carryOut, core_tell rfl]
        calc (((w.tell .serverOverdue).abandon setup.policy).1.abortServer surface).core
            = ((w.tell .serverOverdue).abandon setup.policy).1.core.abortServer surface := rfl
          _ = (w.core.carryOut setup.policy .abandon).abortServer surface := by rw [habandoned]
          _ = (Effect.mk [.abandon] (some surface) []).apply setup.policy w.core := by
            simp only [Effect.apply, abortServer, List.append_nil]
            rfl
      · cases h

/-- Every turn that does not come to nothing is one of those listed. -/
theorem turned_of_turn {errand : Errand} (h : w.turn setup looks errand = some (after, next)) :
    ∃ effect, Turned setup w looks errand effect next
      ∧ after.core = effect.apply setup.policy w.core := by
  cases errand with
  | awaitPhase target =>
    simp only [turn] at h
    split at h
    · rename_i hreached
      cases Option.some.inj h
      exact ⟨_, .reachPhase hreached.1 hreached.2, by rw [apply_nothing]⟩
    · cases h
  | awaitAbandonment =>
    simp only [turn] at h
    split at h
    · rename_i habandoned
      cases Option.some.inj h
      exact ⟨_, .seeAbandonment habandoned.1 habandoned.2, by rw [apply_nothing]⟩
    · cases h
  | awaitShutdown sequel =>
    simp only [turn] at h
    split at h
    · rename_i hshutting
      cases Option.some.inj h
      refine ⟨_, .seeShutdown hshutting.1 hshutting.2, ?_⟩
      rw [apply_nothing]
      rfl
    · cases h
  | awaitIdle sequel timer => exact turned_turnAwaitIdle h
  | readCause sequel =>
    cases sequel with
    | report =>
      cases Option.some.inj h
      exact ⟨_, .report, by rw [apply_nothing]⟩
    | close surfaces =>
      cases Option.some.inj h
      refine ⟨_, .beginClosing, ?_⟩
      rw [apply_nothing]
      rfl
  | closeServers cause timer surfaces => exact turned_turnCloseServers h
  | startServer surface address =>
    cases Option.some.inj h
    refine ⟨_, .beginServing, ?_⟩
    rw [apply_nothing, core_tell rfl]
  | serve surface address =>
    simp only [turn] at h
    split at h
    · rename_i hstopped
      cases Option.some.inj h
      exact ⟨_, .seeStop hstopped.1 hstopped.2, by rw [apply_nothing]⟩
    · cases h
  | finishServer surface =>
    simp only [turn] at h
    split at h
    · cases h
    · rename_i hidle
      cases Option.some.inj h
      refine ⟨_, .endServing (by simpa using hidle), ?_⟩
      rw [apply_nothing, core_tell rfl]
  | watchSignals caught =>
    cases caught with
    | some name =>
      have hbegun : ((w.tell (.signalReceived name)).beginDrain setup.policy (.signal name)).1.core
          = w.core.carryOut setup.policy (.beginDrain (.signal name)) := by
        rw [beginDrain_eq, core_carryOut, core_tell rfl]
      cases Option.some.inj h
      exact ⟨_, .takeSignal, by rw [apply_of]; exact hbegun⟩
    | none =>
      simp only [turn, turnWatchSignals] at h
      split at h
      · rename_i hstopped
        cases Option.some.inj h
        exact ⟨_, .endWatch hstopped.1 hstopped.2, by rw [apply_nothing]⟩
      · cases h
  | arrive surface request =>
    have hreceived := turned_receive setup w looks surface request
    rw [Option.some.inj h] at hreceived
    exact hreceived
  | exchange x => exact turned_turnExchange h

/-- A turn that comes to nothing leaves a task that has nothing to do: what it waits for on the snapshot
has not come as far as it looks, and its moment has not come either. -/
theorem turn_eq_none {errand : Errand} (h : w.turn setup looks errand = none) :
    (looks = true → errand.sees w.snapshot = false) ∧ errand.waits = true
      ∧ ∀ timer, errand.timer? = some timer → w.clock < timer.deadline := by
  cases errand with
  | awaitPhase target =>
    simpa [turn, Errand.sees, Errand.waits, Errand.timer?] using h
  | awaitAbandonment =>
    simpa [turn, Errand.sees, Errand.waits, Errand.timer?] using h
  | awaitShutdown sequel =>
    simpa [turn, Errand.sees, Errand.waits, Errand.timer?] using h
  | awaitIdle sequel timer =>
    simp only [turn, turnAwaitIdle] at h
    split at h
    · cases h
    · rename_i hidle
      split at h
      · cases h
      · rename_i hdue
        refine ⟨fun hlooks => ?_, rfl, ?_⟩
        · simpa [Errand.sees, hlooks] using hidle
        · simpa [Errand.timer?, isDue] using hdue
  | readCause sequel => cases h
  | closeServers cause timer surfaces =>
    cases surfaces with
    | nil => cases h
    | cons surface surfaces =>
      simp only [turn, turnCloseServers] at h
      split at h
      · cases h
      · split at h
        · cases h
        · rename_i hdue
          simpa [Errand.sees, Errand.waits, Errand.timer?, isDue] using hdue
  | startServer surface address => cases h
  | serve surface address =>
    simpa [turn, Errand.sees, Errand.waits, Errand.timer?] using h
  | finishServer surface => simp [Errand.sees, Errand.waits, Errand.timer?]
  | watchSignals caught =>
    cases caught with
    | some name => cases h
    | none => simpa [turn, turnWatchSignals, Errand.sees, Errand.waits, Errand.timer?] using h
  | arrive surface request => cases h
  | exchange x =>
    cases hprogress : x.progress with
    | done response => simp [turn, turnExchange, hprogress] at h
    | paused timer response =>
      simp only [turn, turnExchange, hprogress] at h
      split at h
      · cases h
      · rename_i hdue
        have hlooks : looks = true → w.snapshot.abandoned = false := by simpa using h
        refine ⟨hlooks, by simp [Errand.waits, hprogress], ?_⟩
        intro timer' htimer
        have hsame : timer = timer' := by simpa [Errand.timer?, hprogress] using htimer
        subst hsame
        simpa [isDue] using hdue
    | held key response =>
      have hlooks : looks = true → w.snapshot.abandoned = false := by
        simpa [turn, turnExchange, hprogress] using h
      exact ⟨hlooks, by simp [Errand.waits, hprogress], by simp [Errand.timer?, hprogress]⟩

end World

end GracefulService
