import GracefulService.Proofs.Turns
import GracefulService.Supervisor.Client

/-!
# Runs

A run is any sequence of moves. Callers act, tasks take turns, timers ring, the clock ticks, delegates
are told to go on, and the service starts tasks of its own, in any order; a script is one such order.
Only the clock is bound to a rule: it ticks when every task waits, and stops at awaited moments. A
move that is not possible changes nothing. `Happening` lists what a move can come to, and
`move_happens` says that every move is one of these.
-/

namespace GracefulService

open Http

/-- What can happen next. -/
inductive Move where
  /-- A caller takes a step. To let time pass is no step here, since time passes by ticks. -/
  | act (step : Step)
  /-- The task with a number takes a turn. -/
  | turn (serial : Nat)
  /-- The task with a number takes a turn in which the gate asks about abandonment before it asks the
  delegate. Either order is possible, and it matters only where both have something to say. -/
  | preempt (serial : Nat)
  /-- Milliseconds pass. -/
  | tick (milliseconds : Nat)
  /-- A moment that has come is announced to those who wait for it. -/
  | ring (timer : Timer)
  /-- The delegate may go on with what waits for a key. -/
  | release (key : String)
  /-- A signal arrives. -/
  | signal (name : String)
  /-- The service watches signals from now on. -/
  | watchSignals
  /-- The service starts a server. -/
  | startServer (surface : Surface) (address : BoundAddress)
  /-- The service starts the drain that ends with closing its servers. -/
  | listen (surfaces : List Surface)
deriving DecidableEq, Repr

namespace World

/-- Every task waits, and no moment that a task waits for has come. -/
def isResting (w : World) : Bool :=
  w.tasks.all fun task =>
    !task.woken && task.errand.timer?.all fun timer => decide (w.clock < timer.deadline)

/-- Milliseconds can pass: every task waits, and no awaited moment is skipped. -/
def canTick (w : World) (milliseconds : Nat) : Bool :=
  w.isResting && w.tasks.all fun task =>
    task.errand.timer?.all fun timer => decide (w.clock + milliseconds ≤ timer.deadline)

/-- A task takes a turn beside the others. If it holds a slot it is given up, where it can see that
requests are given up, whatever its delegate has to say. -/
def preempt (setup : Setup) (w : World) (task : Task) (others : List Task) : World :=
  match task.errand with
  | .exchange x =>
    if task.looks ∧ w.snapshot.abandoned then
      ({ w with tasks := others }.release setup.policy).conclude
        (task.ending (.answered .abandonment (x.send .unavailable)))
    else w.takeTurn setup task others
  | _ => w.takeTurn setup task others

/-- A move. -/
def move (setup : Setup) (w : World) : Move → World
  | .act (.sleep _) => w
  | .act step => (w.act setup step).1
  | .turn serial =>
    match Task.takeFirst (fun task => task.serial = serial) w.tasks with
    | none => w
    | some (task, others) => w.takeTurn setup task others
  | .preempt serial =>
    match Task.takeFirst (fun task => task.serial = serial) w.tasks with
    | none => w
    | some (task, others) => w.preempt setup task others
  | .tick milliseconds =>
    if w.canTick milliseconds then { w with clock := w.clock + milliseconds } else w
  | .ring timer =>
    if w.isDue timer then { w with tasks := w.tasks.map (Task.noticeTime timer) } else w
  | .release key => { w with tasks := w.tasks.map (Supervisor.releaseTask key) }
  | .signal name => { w with tasks := w.tasks.map (Supervisor.catchSignal name) }
  | .watchSignals => w.start .service (.watchSignals none)
  | .startServer surface address => w.start .service (.startServer surface address)
  | .listen surfaces => w.start .service (.awaitShutdown (.close surfaces))

/-- A run: one move after the other. -/
def run (setup : Setup) (w : World) (moves : List Move) : World := moves.foldl (move setup) w

/-- Moves after moves are one run. -/
theorem run_append (setup : Setup) (w : World) (before after : List Move) :
    w.run setup (before ++ after) = (w.run setup before).run setup after :=
  List.foldl_append

end World

/-- The first stages of tasks. -/
def Errand.begins : Errand → Bool
  | awaitPhase _ | awaitAbandonment | awaitShutdown _ | startServer .. | watchSignals none
  | arrive .. => true
  | _ => false

/-- What is started only where the service is listened on: its servers, and the drain that closes them. -/
def Errand.isListening : Errand → Bool
  | startServer .. | awaitShutdown (.close _) => true
  | _ => false

/-- The service begins to be listened on, or goes on to. -/
def Move.listens : Move → Bool
  | startServer .. | listen _ => true
  | _ => false

/-- Somebody decides to make this move: a caller, the delegate, whoever sends a signal, or the service. -/
def Move.isPrompted : Move → Bool
  | turn _ | preempt _ | tick _ | ring _ => false
  | _ => true

/-- Nobody acts in these moves: tasks take turns and time passes. -/
def Unprompted (moves : List Move) : Prop := ∀ move ∈ moves, move.isPrompted = false

/-- Where nobody acts at first and nobody later, nobody acts. -/
theorem unprompted_append {before later : List Move} (hbefore : Unprompted before)
    (hlater : Unprompted later) : Unprompted (before ++ later) :=
  List.forall_mem_append.2 ⟨hbefore, hlater⟩

/-- What somebody decides to do is not done where nobody acts. -/
theorem Unprompted.not_mem {moves : List Move} (h : Unprompted moves) {move : Move}
    (hprompted : move.isPrompted = true) : move ∉ moves := by
  intro hmem
  rw [h move hmem] at hprompted
  cases hprompted

/-- The task with a number takes a turn. -/
def Move.isTurnOf (serial : Nat) : Move → Bool
  | turn other | preempt other => other = serial
  | _ => false

/-- What a caller does to the snapshot with a move, apart from taking slots and giving them back. -/
def Move.deed? : Move → Option Deed
  | act (.advance target) => some (.advance target)
  | act (.beginDrain cause) => some (.beginDrain cause)
  | act .abandon => some .abandon
  | _ => none

/-- Such a deed moves no slots. -/
theorem Move.slots_of_deed? {move : Move} {deed : Deed} (h : move.deed? = some deed) :
    deed ≠ .enter ∧ deed ≠ .leave := by
  unfold Move.deed? at h
  split at h <;> cases h <;> exact ⟨by simp, by simp⟩

/-- Why a task that holds a slot ends before its delegate has answered: its caller cancels it, or it is
given up. -/
inductive Task.Interrupted (task : Task) (s : Snapshot) (x : Exchange) : Move → Outcome → Prop where
  | cancelled {id : String} (howner : task.owner = .caller id) :
      task.Interrupted s x (.act (.cancel id)) .cancelled
  | preempted (habandoned : s.abandoned = true) :
      task.Interrupted s x (.preempt task.serial) (.answered .abandonment (x.send .unavailable))

/-- What a move comes to. Each case says which core the world has afterwards. -/
inductive Happening (setup : Setup) (move : Move) (w after : World) : Prop where
  | idle (h : after.core = w.core)
  | deed {deed : Deed} (hmove : move.deed? = some deed)
      (h : after.core = w.core.carryOut setup.policy deed)
  | refuse {id : String} (hphase : w.snapshot.phase ≠ .listening)
      (h : after.core = w.core.carryOut setup.policy .enter) (hmove : move = .act (.enter id))
  | keep {id : String} (hphase : w.snapshot.phase = .listening)
      (h : after.core = (w.core.carryOut setup.policy .enter).keepGuard setup.policy id)
      (hmove : move = .act (.enter id))
  | drop {id : String} (hheld : id ∈ w.guards)
      (h : after.core
        = { w.core with guards := w.guards.erase id }.carryOut setup.policy .leave)
  | start {owner : Owner} {errand : Errand} (hbegins : errand.begins = true)
      (h : after.core = w.core.start owner errand)
      (hlistens : errand.isListening = true → move.listens = true)
  | cancel {front back : List Task} {task : Task} {id : String}
      (hmove : move = .act (.cancel id)) (hsplit : w.tasks = front ++ task :: back)
      (howner : task.owner = .caller id) (hholds : World.holdsSlot task.errand = false)
      (h : after.core = { w.core with tasks := front ++ back }.conclude (task.ending .cancelled))
  | interrupt {front back : List Task} {task : Task} {x : Exchange} {outcome : Outcome}
      (hsplit : w.tasks = front ++ task :: back) (herrand : task.errand = .exchange x)
      (hwhy : task.Interrupted w.snapshot x move outcome)
      (h : after.core = ({ w.core with tasks := front ++ back }.carryOut setup.policy
        .leave).conclude (task.ending outcome))
  | vain {front back : List Task} {task : Task} (hsplit : w.tasks = front ++ task :: back)
      (hturn : { w with tasks := front ++ back }.turn setup task.looks task.errand = none)
      (h : after.core = { w.core with tasks := front ++ back ++ [task.asleep] })
  | goOn {front back : List Task} {task : Task} {effect : Effect} {errand : Errand}
      (hmove : move.isTurnOf task.serial = true) (hsplit : w.tasks = front ++ task :: back)
      (hturned : Turned setup { w with tasks := front ++ back } task.looks task.errand effect
        (.goOn errand))
      (h : after.core
        = let beside := effect.apply setup.policy { w.core with tasks := front ++ back }
          { beside with tasks := task.goOn errand :: beside.tasks })
  | finish {front back : List Task} {task : Task} {effect : Effect} {outcome : Outcome}
      (hmove : move.isTurnOf task.serial = true) (hsplit : w.tasks = front ++ task :: back)
      (hturned : Turned setup { w with tasks := front ++ back } task.looks task.errand effect
        (.finish outcome))
      (h : after.core = (effect.apply setup.policy
        { w.core with tasks := front ++ back }).conclude (task.ending outcome))
  | tick {milliseconds : Nat} (hmove : move = .tick milliseconds)
      (hcan : w.canTick milliseconds = true)
      (h : after.core = { w.core with clock := w.clock + milliseconds })
  | ring {timer : Timer} (hdue : timer.deadline ≤ w.clock)
      (h : after.core = { w.core with tasks := w.tasks.map (Task.noticeTime timer) })
  | release {key : String} (hmove : move = .release key)
      (h : after.core = { w.core with tasks := w.tasks.map (Supervisor.releaseTask key) })
  | signal {name : String} (hmove : move = .signal name)
      (h : after.core = { w.core with tasks := w.tasks.map (Supervisor.catchSignal name) })

namespace World

/-- A task that is taken out is among the tasks. -/
theorem mem_of_split {w : World} {front back : List Task} {task : Task}
    (hsplit : w.tasks = front ++ task :: back) : task ∈ w.tasks := by
  rw [hsplit]
  exact List.mem_append_right _ List.mem_cons_self

/-- So are those beside it. -/
theorem mem_of_beside {w : World} {front back : List Task} {task other : Task}
    (hsplit : w.tasks = front ++ task :: back) (hmem : other ∈ front ++ back) :
    other ∈ w.tasks := by
  rw [hsplit]
  rcases List.mem_append.1 hmem with hfront | hback
  · exact List.mem_append_left _ hfront
  · exact List.mem_append_right _ (List.mem_cons_of_mem _ hback)

variable (setup : Setup) (w : World)

/-- What a slot that is given back leaves of the core is decided by the core. -/
theorem core_leaveGuard (policy : WakePolicy) (id : String) :
    (w.leaveGuard policy id).1.core = (w.core.leaveGuard policy id).1 := by
  by_cases hheld : w.guards.contains id = true
  · simp only [leaveGuard, core_guards, if_pos hheld, release_eq, core_carryOut]
    rfl
  · have hcore : ¬w.core.guards.contains id = true := hheld
    rw [leaveGuard, if_neg hheld, leaveGuard, if_neg hcore]

/-- What a slot that is kept leaves of the core is decided by the core. -/
theorem core_keepGuard (policy : WakePolicy) (id : String) :
    (w.keepGuard policy id).core = w.core.keepGuard policy id := by
  have hleft := core_leaveGuard w policy id
  simp only [keepGuard]
  rw [← hleft]
  rfl

/-- A caller that keeps a slot under an id gives back at most the one that it kept under the same id. -/
theorem keepGuard_induction {P : World → Prop} (policy : WakePolicy) (id : String)
    (hguards : ∀ w guards, P w → P { w with guards := guards })
    (hleave : ∀ w, P w → P (w.carryOut policy .leave)) (hP : P w) : P (w.keepGuard policy id) := by
  have hleft : P (w.leaveGuard policy id).1 := by
    unfold leaveGuard
    split
    · rw [release_eq]
      exact hleave _ (hguards w _ hP)
    · exact hP
  exact hguards _ _ hleft

/-- A caller that asks for a slot gets one while the service listens and is turned away otherwise. -/
theorem act_enter_happens (id : String) :
    Happening setup (.act (.enter id)) w (w.act setup (.enter id)).1 := by
  have hcore := enter_eq setup.policy w
  have haccepted := enter_accepted setup.policy w
  rcases h : w.enter setup.policy with ⟨entered, accepted⟩
  rw [h] at hcore haccepted
  cases accepted with
  | true =>
    have hkept : (w.act setup (.enter id)).1.core
        = (w.core.carryOut setup.policy .enter).keepGuard setup.policy id := by
      simp only [act, h]
      rw [core_keepGuard, hcore]
    exact .keep (haccepted.1 rfl) hkept rfl
  | false =>
    refine .refuse (fun hphase => by simpa using haccepted.2 hphase) ?_ rfl
    simp only [act, h]
    exact hcore

/-- A caller that gives back a slot had one. -/
theorem act_leave_happens (id : String) :
    Happening setup (.act (.leave id)) w (w.act setup (.leave id)).1 := by
  simp only [act, leaveGuard]
  split
  · rename_i hheld
    have hdropped : ({ w with guards := w.guards.erase id }.release setup.policy).core
        = { w.core with guards := w.guards.erase id }.carryOut setup.policy .leave := by
      rw [release_eq, core_carryOut]
      rfl
    exact .drop (by simpa using hheld) hdropped
  · exact .idle rfl

/-- A task that holds a slot and ends before its delegate has answered gives its slot back. -/
theorem interrupt_happens {move : Move} {front back : List Task} {task : Task} {x : Exchange}
    {outcome : Outcome} (hsplit : w.tasks = front ++ task :: back)
    (herrand : task.errand = .exchange x) (hwhy : task.Interrupted w.snapshot x move outcome) :
    Happening setup move w (({ w with tasks := front ++ back }.release setup.policy).conclude
      (task.ending outcome)) := by
  refine .interrupt hsplit herrand hwhy ?_
  have hcore := core_carryOut { w with tasks := front ++ back } setup.policy .leave
  rw [release_eq]
  exact congrArg (conclude · (task.ending outcome)) hcore

/-- A caller that cancels its task ends it, and the slot that it held is given back. -/
theorem act_cancel_happens (id : String) :
    Happening setup (.act (.cancel id)) w (w.act setup (.cancel id)).1 := by
  simp only [act, cancel]
  split
  · exact .idle rfl
  · rename_i task others found
    obtain ⟨front, back, hsplit, rfl, howner, -⟩ := Task.takeFirst_eq_some found
    have howner := of_decide_eq_true howner
    cases hholds : holdsSlot task.errand with
    | false => exact .cancel rfl hsplit howner hholds rfl
    | true =>
      obtain ⟨x, herrand⟩ : ∃ x, task.errand = .exchange x := by
        cases herrand : task.errand with
        | exchange x => exact ⟨x, rfl⟩
        | _ => simp [herrand, holdsSlot] at hholds
      exact interrupt_happens setup w hsplit herrand (.cancelled howner)

/-- A task that does not listen can be started by anybody. -/
theorem start_happens {move : Move} (owner : Owner) (errand : Errand) (hbegins : errand.begins = true)
    (hquiet : errand.isListening = false) : Happening setup move w (w.start owner errand) := by
  refine .start hbegins rfl fun hlistens => ?_
  rw [hquiet] at hlistens
  cases hlistens

/-- What a step of a caller comes to. -/
theorem act_happens (step : Step) (hsleep : ∀ milliseconds, step ≠ .sleep milliseconds) :
    Happening setup (.act step) w (w.act setup step).1 := by
  cases step with
  | advance target =>
    have hcore : (w.advance setup.policy target).1.core
        = w.core.carryOut setup.policy (.advance target) := by
      rw [advance_eq, core_carryOut]
    have hacted : (w.act setup (.advance target)).1 = (w.advance setup.policy target).1 := by
      simp only [act]
      split <;> rename_i h <;> rw [h]
    rw [← hacted] at hcore
    exact .deed rfl hcore
  | enter id => exact act_enter_happens setup w id
  | leave id => exact act_leave_happens setup w id
  | beginDrain cause =>
    have hcore : (w.act setup (.beginDrain cause)).1.core
        = w.core.carryOut setup.policy (.beginDrain cause) := by
      simp only [act, beginDrain_eq, core_carryOut]
    exact .deed rfl hcore
  | abandon =>
    have hcore : (w.act setup .abandon).1.core = w.core.carryOut setup.policy .abandon := by
      simp only [act, abandon_eq, core_carryOut]
    exact .deed rfl hcore
  | drain id => exact start_happens setup w (.caller id) (.awaitShutdown .report) rfl rfl
  | awaitPhase id target =>
    exact start_happens setup w (.caller id) (.awaitPhase target) rfl rfl
  | awaitAbandonment id =>
    exact start_happens setup w (.caller id) .awaitAbandonment rfl rfl
  | request id surface request =>
    cases request with
    | none => exact .idle rfl
    | some request =>
      exact start_happens setup w (.caller id) (.arrive surface request) rfl rfl
  | cancel id => exact act_cancel_happens setup w id
  | sleep milliseconds => exact absurd rfl (hsleep milliseconds)
  | health checkup =>
    simp only [act]
    split <;> exact .idle rfl
  | report probe => exact .idle rfl
  | metrics => exact .idle rfl
  | inspect => exact .idle rfl

/-- What a turn comes to. -/
theorem takeTurn_happens {move : Move} {front back : List Task} {task : Task}
    (hmove : move.isTurnOf task.serial = true) (hsplit : w.tasks = front ++ task :: back) :
    Happening setup move w (w.takeTurn setup task (front ++ back)) := by
  unfold takeTurn
  split
  · rename_i hturn
    exact .vain hsplit hturn rfl
  · rename_i after errand hturn
    obtain ⟨effect, hturned, hcore⟩ := turned_of_turn hturn
    have hbeside : ({ w with tasks := front ++ back } : World).core
        = { w.core with tasks := front ++ back } := rfl
    refine .goOn hmove hsplit hturned ?_
    rw [← hbeside, ← hcore]
    rfl
  · rename_i after outcome hturn
    obtain ⟨effect, hturned, hcore⟩ := turned_of_turn hturn
    have hbeside : ({ w with tasks := front ++ back } : World).core
        = { w.core with tasks := front ++ back } := rfl
    refine .finish hmove hsplit hturned ?_
    rw [← hbeside, ← hcore]
    rfl

/-- What a turn comes to in which the gate asks about abandonment first. -/
theorem preempt_happens {front back : List Task} {task : Task}
    (hsplit : w.tasks = front ++ task :: back) :
    Happening setup (.preempt task.serial) w (w.preempt setup task (front ++ back)) := by
  have hmove : (Move.preempt task.serial).isTurnOf task.serial = true := decide_eq_true rfl
  unfold preempt
  split
  · rename_i x herrand
    split
    · rename_i hgiven
      exact interrupt_happens setup w hsplit herrand (.preempted hgiven.2)
    · exact takeTurn_happens setup w hmove hsplit
  · exact takeTurn_happens setup w hmove hsplit

/-- Every move comes to one of the things listed. -/
theorem move_happens (move : Move) : Happening setup move w (w.move setup move) := by
  cases move with
  | act step =>
    by_cases hsleep : ∃ milliseconds, step = .sleep milliseconds
    · obtain ⟨milliseconds, rfl⟩ := hsleep
      exact .idle rfl
    · have hstep : ∀ milliseconds, step ≠ .sleep milliseconds := fun milliseconds h =>
        hsleep ⟨milliseconds, h⟩
      have hmove : w.move setup (.act step) = (w.act setup step).1 := by
        cases step <;> first | rfl | exact absurd rfl (hstep _)
      rw [hmove]
      exact act_happens setup w step hstep
  | turn serial =>
    simp only [World.move]
    split
    · exact .idle rfl
    · rename_i task others found
      obtain ⟨front, back, hsplit, rfl, hserial, -⟩ := Task.takeFirst_eq_some found
      have hmove : (Move.turn serial).isTurnOf task.serial = true :=
        decide_eq_true (of_decide_eq_true hserial).symm
      exact takeTurn_happens setup w hmove hsplit
  | preempt serial =>
    simp only [World.move]
    split
    · exact .idle rfl
    · rename_i task others found
      obtain ⟨front, back, hsplit, rfl, hserial, -⟩ := Task.takeFirst_eq_some found
      rw [← of_decide_eq_true hserial]
      exact preempt_happens setup w hsplit
  | tick milliseconds =>
    simp only [World.move]
    split
    · rename_i hcan
      exact .tick rfl hcan rfl
    · exact .idle rfl
  | ring timer =>
    simp only [World.move]
    split
    · rename_i hdue
      exact .ring (by simpa [isDue] using hdue) rfl
    · exact .idle rfl
  | release key => exact .release rfl rfl
  | signal name => exact .signal rfl rfl
  | watchSignals => exact start_happens setup w .service (.watchSignals none) rfl rfl
  | startServer surface address =>
    exact @Happening.start _ _ _ _ .service (.startServer surface address) rfl rfl fun _ => rfl
  | listen surfaces =>
    exact @Happening.start _ _ _ _ .service (.awaitShutdown (.close surfaces)) rfl rfl fun _ => rfl

/-- What holds in the beginning and survives whatever the moves of a run come to holds throughout the
run. -/
theorem run_induction {P : World → Prop} (moves : List Move)
    (hstep : ∀ move ∈ moves, ∀ w after, Happening setup move w after → P w → P after) (hP : P w) :
    P (w.run setup moves) := by
  induction moves generalizing w with
  | nil => exact hP
  | cons first moves ih =>
    have hfirst := hstep first List.mem_cons_self _ _ (move_happens setup w first) hP
    exact ih _ (fun move hmem => hstep move (List.mem_cons_of_mem _ hmem)) hfirst

end World

end GracefulService
