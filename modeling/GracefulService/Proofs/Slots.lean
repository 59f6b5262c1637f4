import GracefulService.Proofs.Moves

/-!
# Conservation of slots

The number of requests in flight is the number of live slots: those that callers hold outside the gate
and those of requests that passed it and have not ended. The invariant is stated with a number of
slots that are under way, so that it also holds in the middle of a turn, between the world beside the task
and the task itself.
-/

namespace GracefulService

namespace World

/-- How many of some tasks hold a slot. -/
def holders (tasks : List Task) : Nat := tasks.countP fun task => holdsSlot task.errand

/-- The slots that have been taken and not given back. -/
def liveSlots (w : World) : Nat := w.guards.length + holders w.tasks

/-- Nobody holds a slot where there are no tasks. -/
@[simp]
theorem holders_nil : holders [] = 0 := rfl

/-- Those who hold slots among two lists of tasks are those in one and in the other. -/
theorem holders_append (front back : List Task) :
    holders (front ++ back) = holders front + holders back :=
  List.countP_append

/-- One more task holds one more slot if it is a request in flight. -/
theorem holders_cons (task : Task) (tasks : List Task) :
    holders (task :: tasks) = holders tasks + (holdsSlot task.errand).toNat := by
  unfold holders
  rw [List.countP_cons]
  cases holdsSlot task.errand <;> rfl

/-- Tasks that are changed but for their slots hold as many. -/
theorem holders_map {f : Task → Task}
    (hf : ∀ task, holdsSlot (f task).errand = holdsSlot task.errand) (tasks : List Task) :
    holders (tasks.map f) = holders tasks := by
  simp only [holders, List.countP_map, Function.comp_def, hf]

/-- Servers hold no slots, so none is lost when a server is given up. -/
theorem holders_filter_keeps (effect : Effect) (tasks : List Task) :
    holders (tasks.filter effect.keeps) = holders tasks := by
  unfold holders
  rw [List.countP_filter]
  apply List.countP_congr
  intro task _
  cases haborted : effect.aborted with
  | none => simp [Effect.keeps, haborted]
  | some surface => cases herrand : task.errand <;> simp [Effect.keeps, haborted, herrand,
      holdsSlot, Errand.server?]

/-- A delegate that may go on leaves the slot of its task. -/
theorem holdsSlot_releaseTask (key : String) (task : Task) :
    holdsSlot (Supervisor.releaseTask key task).errand = holdsSlot task.errand := by
  unfold Supervisor.releaseTask
  split
  · rename_i x hx
    split
    · split <;> simp [hx, holdsSlot]
    · rfl
  · rfl

/-- A signal leaves the slots of tasks. -/
theorem holdsSlot_catchSignal (name : String) (task : Task) :
    holdsSlot (Supervisor.catchSignal name task).errand = holdsSlot task.errand := by
  unfold Supervisor.catchSignal
  split
  · rename_i hnone
    simp [hnone, holdsSlot]
  · rfl

/-- The books are in balance while `extra` slots are under way: every slot in flight is live or under
way, every admission is in flight or was given back once, and no slot was given back that nobody
held. -/
structure Balanced (extra : Nat) (w : World) : Prop where
  /-- The requests in flight are the live slots and those under way. -/
  counted : w.snapshot.inFlight = w.liveSlots + extra
  /-- Every request that was let in is in flight or has given its slot back. -/
  conserved : w.meters.accepted = w.snapshot.inFlight + w.deeds.count .slotReleased
  /-- No slot was given back that nobody held. -/
  missing : Event.slotMissing ∉ w.deeds

/-- A service that has just been created has given no slots. -/
theorem balanced_initial (checkup : Option Checkup) : Balanced 0 (initial checkup) :=
  ⟨rfl, rfl, by simp [deeds, initial]⟩

/-- Whether slots are accounted for is decided by the core. -/
theorem balanced_core {extra : Nat} {w : World} : Balanced extra w.core ↔ Balanced extra w := by
  have hdeeds := core_deeds w
  constructor
  · intro h
    exact ⟨h.counted, hdeeds ▸ h.conserved, hdeeds ▸ h.missing⟩
  · intro h
    exact ⟨h.counted, hdeeds.symm ▸ h.conserved, hdeeds.symm ▸ h.missing⟩

section Deeds

variable {policy : WakePolicy} {extra : Nat} {w : World}

/-- A deed by itself leaves those who hold slots. -/
theorem liveSlots_carryOut (policy : WakePolicy) (w : World) (deed : Deed) :
    (w.carryOut policy deed).liveSlots = w.liveSlots := by
  have hholders := holders_map (f := deed.rouse policy w.snapshot)
    (fun task => by rw [(Task.resembles_rouse policy w.snapshot deed task).errand]) w.tasks
  simp only [liveSlots, carryOut, hholders]

/-- A deed that neither takes nor gives back a slot leaves the books alone. -/
theorem Balanced.other (h : Balanced extra w) {deed : Deed}
    (hslots : deed ≠ .enter ∧ deed ≠ .leave) : Balanced extra (w.carryOut policy deed) := by
  have hinFlight : (deed.result w.snapshot).inFlight = w.snapshot.inFlight := by
    cases deed with
    | nothing => rfl
    | advance target =>
      rw [Deed.result_advance]
      split <;> rfl
    | enter => exact absurd rfl hslots.1
    | leave => exact absurd rfl hslots.2
    | beginDrain cause =>
      rw [Deed.result_beginDrain]
      split <;> rfl
    | abandon =>
      rw [Deed.result_abandon]
      split <;> rfl
  have haccepted : (w.carryOut policy deed).meters.accepted = w.meters.accepted := by
    cases hchange : deed.change w.snapshot <;> cases deed <;>
      simp_all [carryOut, Deed.readings, Meters.record]
  have hreleased : (deed.events w.snapshot).count .slotReleased = 0
      ∧ Event.slotMissing ∉ deed.events w.snapshot := by
    cases hchange : deed.change w.snapshot <;> cases deed <;> simp_all [Deed.events]
  have hsnapshot : (w.carryOut policy deed).snapshot.inFlight = w.snapshot.inFlight := hinFlight
  constructor
  · rw [hsnapshot, liveSlots_carryOut]
    exact h.counted
  · rw [haccepted, hsnapshot, deeds_carryOut, List.count_append, hreleased.1]
    exact h.conserved
  · rw [deeds_carryOut, List.mem_append]
    exact fun hmem => hmem.elim h.missing hreleased.2

/-- A slot that is refused leaves the books alone. -/
theorem Balanced.refuse (h : Balanced extra w) (hphase : w.snapshot.phase ≠ .listening) :
    Balanced extra (w.carryOut policy .enter) := by
  have hchange : Deed.enter.change w.snapshot = none := by
    simp [Deed.change, Snapshot.enter, Phase.acceptsRequests, hphase]
  have hlive := liveSlots_carryOut policy w .enter
  constructor
  · rw [hlive]
    simpa [carryOut, Deed.result, hchange] using h.counted
  · rw [deeds_carryOut]
    simpa [carryOut, Deed.result, Deed.readings, Deed.events, hchange, Meters.record]
      using h.conserved
  · rw [deeds_carryOut]
    simpa [Deed.events, hchange] using h.missing

/-- A slot that is taken is under way. -/
theorem Balanced.enter (h : Balanced extra w) (hphase : w.snapshot.phase = .listening) :
    Balanced (extra + 1) (w.carryOut policy .enter) := by
  have hchange : Deed.enter.change w.snapshot
      = some ⟨{ w.snapshot with inFlight := w.snapshot.inFlight + 1 }, false⟩ := by
    simp [Deed.change, Snapshot.enter, Phase.acceptsRequests, hphase]
  have hlive := liveSlots_carryOut policy w .enter
  have hcounted := h.counted
  have hconserved := h.conserved
  constructor
  · rw [hlive]
    simp only [carryOut, Deed.result, hchange, Option.map_some, Option.getD_some]
    omega
  · rw [deeds_carryOut]
    simp only [carryOut, Deed.result, Deed.readings, Deed.events, hchange, Option.map_some,
      Option.getD_some, List.foldl_cons, List.foldl_nil, Meters.record, List.append_nil]
    omega
  · rw [deeds_carryOut]
    simpa [Deed.events, hchange] using h.missing

/-- A slot under way can be given back. -/
theorem Balanced.leave (h : Balanced (extra + 1) w) : Balanced extra (w.carryOut policy .leave) := by
  have hcounted := h.counted
  have hconserved := h.conserved
  obtain ⟨n, hn⟩ : ∃ n, w.snapshot.inFlight = n + 1 :=
    ⟨w.liveSlots + extra, by rw [hcounted]; rfl⟩
  have hchange : Deed.leave.change w.snapshot
      = some ⟨{ w.snapshot with inFlight := n }, decide (n = 0)⟩ := by
    simp only [Deed.change, Snapshot.leave, hn]
  have hlive := liveSlots_carryOut policy w .leave
  constructor
  · rw [hlive]
    simp only [carryOut, Deed.result, hchange, Option.map_some, Option.getD_some]
    omega
  · rw [deeds_carryOut]
    simp only [carryOut, Deed.result, Deed.readings, Deed.events, hchange, Option.map_some,
      Option.getD_some, List.foldl_cons, List.foldl_nil, Meters.record, List.count_append,
      List.count_singleton_self]
    omega
  · rw [deeds_carryOut]
    simpa [Deed.events, hchange] using h.missing

/-- Slots change hands between callers, tasks and those under way. -/
theorem Balanced.pass {extra' : Nat} {w' : World} (h : Balanced extra w)
    (hsnapshot : w'.snapshot = w.snapshot) (hmeters : w'.meters = w.meters)
    (hdeeds : w'.deeds = w.deeds) (hlive : w'.liveSlots + extra' = w.liveSlots + extra) :
    Balanced extra' w' := by
  constructor
  · rw [hsnapshot, hlive]
    exact h.counted
  · rw [hmeters, hsnapshot, hdeeds]
    exact h.conserved
  · rw [hdeeds]
    exact h.missing

/-- A slot that a caller lets go of is under way. -/
theorem Balanced.eraseGuard (h : Balanced extra w) {id : String} (hheld : id ∈ w.guards) :
    Balanced (extra + 1) { w with guards := w.guards.erase id } := by
  refine h.pass rfl rfl rfl ?_
  have hlength := List.length_erase_of_mem hheld
  have hpositive := List.length_pos_of_mem hheld
  simp only [liveSlots]
  omega

/-- A caller that keeps a slot under an id gives back the one that it kept under the same id. -/
theorem Balanced.keepGuard (h : Balanced (extra + 1) w) (id : String) :
    Balanced extra (w.keepGuard policy id) := by
  have hleft : Balanced (extra + 1) (w.leaveGuard policy id).1 := by
    unfold leaveGuard
    split
    · rename_i hheld
      rw [release_eq]
      exact (h.eraseGuard (by simpa using hheld)).leave
    · exact h
  refine hleft.pass rfl rfl rfl ?_
  simp only [World.keepGuard, liveSlots, List.length_append, List.length_cons, List.length_nil]
  omega

/-- Taking a task out puts its slot under way. -/
theorem Balanced.takeOut (h : Balanced extra w) {front back : List Task} {task : Task}
    (hsplit : w.tasks = front ++ task :: back) :
    Balanced (extra + (holdsSlot task.errand).toNat) { w with tasks := front ++ back } := by
  refine h.pass rfl rfl rfl ?_
  simp only [liveSlots, hsplit, holders_append, holders_cons]
  omega

/-- Putting a task back gives it a slot that is under way, if it holds one. -/
theorem Balanced.putBack {task : Task} (h : Balanced (extra + (holdsSlot task.errand).toNat) w) :
    Balanced extra { w with tasks := task :: w.tasks } := by
  refine h.pass rfl rfl rfl ?_
  simp only [liveSlots, holders_cons]
  omega

/-- The end of a task moves no slots. -/
theorem Balanced.conclude (h : Balanced extra w) (ending : Ending) :
    Balanced extra (w.conclude ending) := by
  refine h.pass rfl rfl rfl ?_
  simp only [liveSlots, World.conclude, holders_map (fun task => by rw [noticeTask_errand])]

/-- Telling tasks something moves no slots. -/
theorem Balanced.mapTasks (h : Balanced extra w) {f : Task → Task}
    (hf : ∀ task, holdsSlot (f task).errand = holdsSlot task.errand) :
    Balanced extra { w with tasks := w.tasks.map f } := by
  refine h.pass rfl rfl rfl ?_
  simp only [liveSlots, holders_map hf]

/-- Neither calling the delegate nor giving up servers moves slots. -/
theorem Balanced.apply {effect : Effect} {extra' : Nat}
    (h : Balanced extra' (w.carryOutAll policy effect.deeds)) :
    Balanced extra' (effect.apply policy w) := by
  have hguards : (w.carryOutAll policy effect.deeds).guards = w.guards := by rw [carryOutAll_frame]
  refine h.pass rfl rfl rfl ?_
  simp only [liveSlots, Effect.apply, holders_filter_keeps, hguards]

end Deeds

/-- How many slots a task holds that goes on, or none when it is over. -/
def slotsOf : Next → Nat
  | .goOn errand => (holdsSlot errand).toNat
  | .finish _ => 0

end World

open World

/-- A turn takes a slot exactly for a task that holds one afterwards, and gives it back exactly for one
that held it before. -/
theorem Turned.balanced {setup : Setup} {w : World} {looks : Bool} {errand : Errand}
    {effect : Effect} {next : Next} (hturned : Turned setup w looks errand effect next)
    (h : Balanced (holdsSlot errand).toNat w.core) :
    Balanced (slotsOf next) (effect.apply setup.policy w.core) := by
  cases hturned with
  | letIn hrequest hgate hlistening hwaits => exact (h.enter hlistening).apply
  | answerAtOnce hrequest hgate hlistening himmediate =>
    exact (@Balanced.leave setup.policy 0 _ (h.enter hlistening)).apply
  | refuse hrequest hgate hphase => exact (h.refuse hphase).apply
  | deliver hready => exact (@Balanced.leave setup.policy 0 _ h).apply
  | giveUp hlooks habandoned hready => exact (@Balanced.leave setup.policy 0 _ h).apply
  | _ => exact (h.other (by simp)).apply

/-- Whatever happens, the books stay in balance. -/
theorem Happening.balanced {setup : Setup} {move : Move} {w after : World}
    (hhappening : Happening setup move w after) (hbalanced : Balanced 0 w) : Balanced 0 after := by
  have hcore := balanced_core.2 hbalanced
  rw [← balanced_core]
  cases hhappening with
  | idle h =>
    rw [h]
    exact hcore
  | deed hmove h =>
    rw [h]
    exact hcore.other (Move.slots_of_deed? hmove)
  | refuse hphase h =>
    rw [h]
    exact hcore.refuse hphase
  | keep hphase h =>
    rw [h]
    exact (hcore.enter hphase).keepGuard _
  | drop hheld h =>
    rw [h]
    exact (hcore.eraseGuard hheld).leave
  | @start owner errand hbegins h =>
    rw [h]
    refine hcore.pass rfl rfl rfl ?_
    have hholds : holdsSlot errand = false := by
      cases errand <;> simp_all [Errand.begins, holdsSlot]
    simp only [liveSlots, World.start, holders_append, holders_cons, Task.fresh, hholds]
    rfl
  | cancel hmove hsplit howner hholds h =>
    rw [h]
    have htaken := hcore.takeOut hsplit
    rw [hholds] at htaken
    exact htaken.conclude _
  | interrupt hsplit herrand hwhy h =>
    rw [h]
    have htaken := hcore.takeOut hsplit
    rw [herrand] at htaken
    exact (@Balanced.leave setup.policy 0 _ htaken).conclude _
  | @vain front back task hsplit hturn h =>
    rw [h]
    refine hcore.pass rfl rfl rfl ?_
    simp only [liveSlots, core_tasks, core_guards, hsplit, holders_append, holders_cons, holders_nil,
      Task.asleep]
    omega
  | goOn hmove hsplit hturned h =>
    rw [h]
    have htaken := hcore.takeOut hsplit
    rw [Nat.zero_add] at htaken
    have happlied := Turned.balanced hturned htaken
    rw [← Nat.zero_add (slotsOf _)] at happlied
    exact happlied.putBack
  | finish hmove hsplit hturned h =>
    rw [h]
    have htaken := hcore.takeOut hsplit
    rw [Nat.zero_add] at htaken
    exact (Turned.balanced hturned htaken).conclude _
  | tick hmove hcan h =>
    rw [h]
    exact hcore.pass rfl rfl rfl rfl
  | ring hdue h =>
    rw [h]
    exact hcore.mapTasks fun task => by rw [noticeTime_errand]
  | release hmove h =>
    rw [h]
    exact hcore.mapTasks (holdsSlot_releaseTask _)
  | signal hmove h =>
    rw [h]
    exact hcore.mapTasks (holdsSlot_catchSignal _)

/-- In every run the books stay in balance. -/
theorem World.balanced_run {setup : Setup} {w : World} (h : Balanced 0 w) (moves : List Move) :
    Balanced 0 (w.run setup moves) :=
  run_induction setup w moves (fun _ _ _ _ hhappening => hhappening.balanced) h

/-- In every run the requests in flight are exactly the slots that callers hold and those of requests
that passed the gate and have not ended. No slot is given back that nobody held, and every one that was
taken is in flight or was given back once, so nothing is in flight when nobody holds a slot. -/
theorem slots_conserved (setup : Setup) (checkup : Option Checkup) (moves : List Move) :
    let w := (World.initial checkup).run setup moves
    w.snapshot.inFlight
        = w.guards.length + w.tasks.countP (fun task => holdsSlot task.errand)
      ∧ Event.slotMissing ∉ w.log
      ∧ w.meters.accepted = w.snapshot.inFlight + w.log.count .slotReleased
      ∧ (w.snapshot.inFlight = 0
        ↔ w.guards = [] ∧ ∀ task ∈ w.tasks, holdsSlot task.errand = false) := by
  intro w
  have hbalanced : Balanced 0 w :=
    run_induction setup _ moves (fun _ _ _ _ hhappening => hhappening.balanced)
      (balanced_initial checkup)
  have hcounted : w.snapshot.inFlight
      = w.guards.length + w.tasks.countP (fun task => holdsSlot task.errand) := hbalanced.counted
  have hreleased : w.deeds.count .slotReleased = w.log.count .slotReleased :=
    List.count_filter rfl
  refine ⟨hcounted, ?_, ?_, ?_⟩
  · intro hmem
    exact hbalanced.missing (List.mem_filter.2 ⟨hmem, rfl⟩)
  · rw [← hreleased]
    exact hbalanced.conserved
  · rw [hcounted, Nat.add_eq_zero_iff, List.length_eq_zero_iff, List.countP_eq_zero]
    simp

end GracefulService
