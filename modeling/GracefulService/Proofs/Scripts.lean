import GracefulService.Proofs.Origins

/-!
# Scripts are runs

A script lets all tasks take their turns after each step, and lets time pass from one awaited moment to the
next. Both are runs of moves: a turn is due until every task sleeps, and the clock ticks no further than to
the earliest awaited moment. Nothing is cut short on the way, since every moment that is announced ends
a stage. So whatever holds in every run holds of what a script shows, and a script shows only worlds at
rest.
-/

namespace GracefulService

namespace World

/-- Every task sleeps. -/
def Settled (w : World) : Prop := ∀ task ∈ w.tasks, task.woken = false

/-- No task that sleeps waits for a moment before this one. -/
def Punctual (moment : Nat) (w : World) : Prop :=
  ∀ task ∈ w.tasks, task.woken = false → ∀ timer, task.errand.timer? = some timer →
    moment ≤ timer.deadline

/-- A world rests when every task sleeps and all awaited moments lie ahead. -/
theorem isResting_iff {w : World} : w.isResting = true ↔ w.Settled ∧ w.Punctual (w.clock + 1) := by
  unfold isResting
  rw [List.all_eq_true]
  constructor
  · intro hrest
    constructor
    · intro task hmem
      have hboth := hrest task hmem
      rw [Bool.and_eq_true, Bool.not_eq_true'] at hboth
      exact hboth.1
    · intro task hmem hasleep timer hset
      have hboth := hrest task hmem
      rw [Bool.and_eq_true, hset, Option.all_some] at hboth
      exact of_decide_eq_true hboth.2
  · rintro ⟨hsettled, hpunctual⟩ task hmem
    rw [Bool.and_eq_true, Bool.not_eq_true']
    refine ⟨hsettled task hmem, ?_⟩
    cases hset : task.errand.timer? with
    | none => rfl
    | some timer =>
      rw [Option.all_some]
      exact decide_eq_true (hpunctual task hmem (hsettled task hmem) timer hset)

end World

/-- An errand that begins waits for no moment. -/
theorem Errand.timer?_of_begins {errand : Errand} (h : errand.begins = true) :
    errand.timer? = none := by
  cases errand with
  | awaitIdle sequel timer => cases h
  | closeServers cause timer surfaces => cases h
  | exchange x => cases h
  | _ => rfl

open World

/-- Whatever happens, no task falls asleep past its moment. -/
theorem Happening.punctual {setup : Setup} {move : Move} {w after : World}
    (hhappening : Happening setup move w after) {moment : Nat} (hmoment : moment ≤ w.clock + 1)
    (hpunctual : w.Punctual moment) : after.Punctual moment := by
  intro task hmem hasleep timer hset
  cases hhappening.origin hmem with
  | same hsource hresembles =>
    rw [hresembles.errand] at hset
    exact hpunctual _ hsource (hresembles.woken hasleep) timer hset
  | vain hsource hturn htask =>
    rw [htask] at hset
    have hahead := (turn_eq_none hturn).2.2 timer hset
    have hbeside : w.clock < timer.deadline := hahead
    omega
  | begun hbegins =>
    rw [Errand.timer?_of_begins hbegins] at hset
    cases hset
  | released hsource herrand hheld htask =>
    rw [htask] at hset
    cases hset
  | signalled htask =>
    rw [htask] at hset
    cases hset
  | goesOn hsource hturned hwoken hsnapshot =>
    rw [hwoken] at hasleep
    cases hasleep

namespace World

/-- In every run the moments of tasks that sleep stay ahead. -/
theorem punctual_run (setup : Setup) {w : World} {moment : Nat} (hmoment : moment ≤ w.clock + 1)
    (hpunctual : w.Punctual moment) (moves : List Move) : (w.run setup moves).Punctual moment := by
  refine (run_induction setup w (P := fun w => moment ≤ w.clock + 1 ∧ w.Punctual moment) moves ?_
    ⟨hmoment, hpunctual⟩).2
  intro move _ w after hhappening ⟨hmoment, hpunctual⟩
  have hclock := hhappening.clock_le
  exact ⟨by omega, hhappening.punctual hmoment hpunctual⟩

section Turns

variable {setup : Setup} {w after : World}

/-- No turn is due when every task sleeps. -/
theorem step?_eq_none : w.step? setup = none ↔ w.Settled := by
  unfold step?
  rw [Option.map_eq_none_iff]
  exact Task.takeFirst_eq_none

/-- The turn that is due is a move. -/
theorem Numbered.step?_eq_move (hnumbered : w.Numbered) (h : w.step? setup = some after) :
    ∃ serial, after = w.move setup (.turn serial) := by
  obtain ⟨⟨task, others⟩, hfound, rfl⟩ := Option.map_eq_some_iff.1 h
  obtain ⟨front, back, hsplit, rfl, -, -⟩ := Task.takeFirst_eq_some hfound
  exact ⟨task.serial, (hnumbered.move_turn_eq setup hsplit).symm⟩

/-- No time passes while tasks take turns. -/
theorem clock_move_turn (setup : Setup) (w : World) (serial : Nat) :
    (w.move setup (.turn serial)).clock = w.clock := by
  rcases (move_happens setup w (.turn serial)).clock with hstill | ⟨milliseconds, hmove, -⟩
  · exact hstill
  · cases hmove

/-- To let tasks take their turns is a run, after which every task sleeps and no time has passed. -/
theorem Numbered.settle_run (hnumbered : w.Numbered) (setup : Setup) :
    ∃ moves, Unprompted moves ∧ w.settle setup = w.run setup moves
      ∧ (w.run setup moves).Settled ∧ (w.run setup moves).clock = w.clock := by
  fun_induction settle setup w with
  | case1 w hnone => exact ⟨[], List.forall_mem_nil _, rfl, step?_eq_none.1 hnone, rfl⟩
  | case2 w after hdue ih =>
    obtain ⟨serial, rfl⟩ := hnumbered.step?_eq_move hdue
    obtain ⟨moves, hunprompted, hsame, hsettled, hclock⟩ := ih (numbered_run hnumbered [.turn serial])
    have hturn : Unprompted [.turn serial] := by simp [Unprompted, Move.isPrompted]
    refine ⟨.turn serial :: moves, unprompted_append hturn hunprompted, hsame, hsettled, ?_⟩
    exact hclock.trans (clock_move_turn setup w serial)

/-- A turn that is due takes a stage away, or it is in vain and only puts its task to sleep. -/
theorem step?_shorter_or_vain (h : w.step? setup = some after) :
    stagesLeft after.tasks < stagesLeft w.tasks
      ∨ ∃ front task back, w.tasks = front ++ task :: back
        ∧ { w with tasks := front ++ back }.turn setup task.looks task.errand = none
        ∧ after = { w with tasks := front ++ back ++ [task.asleep] } := by
  obtain ⟨⟨task, others⟩, hfound, rfl⟩ := Option.map_eq_some_iff.1 h
  obtain ⟨front, back, hsplit, rfl, -, -⟩ := Task.takeFirst_eq_some hfound
  have hstages := stagesLeft_split front back task
  rw [← hsplit] at hstages
  by_cases hturn : turn setup { w with tasks := front ++ back } task.looks task.errand = none
  · exact Or.inr ⟨front, task, back, hsplit, hturn, takeTurn_vain hturn⟩
  · left
    rw [hstages]
    exact (takeTurn_shorter hturn).1

/-- No stage is added while tasks take turns. -/
theorem stagesLeft_settle (setup : Setup) (w : World) :
    stagesLeft (w.settle setup).tasks ≤ stagesLeft w.tasks := by
  fun_induction settle setup w with
  | case1 w hnone => exact Nat.le_refl _
  | case2 w after hdue ih =>
    rcases step?_shorter_or_vain hdue with hshorter | ⟨front, task, back, hsplit, hturn, rfl⟩
    · omega
    · have hstages := stagesLeft_split front back task
      rw [← hsplit] at hstages
      have hasleep : stagesLeft (front ++ back ++ [task.asleep])
          = stagesLeft (front ++ back) + task.errand.stages := stagesLeft_append _ _
      simp only at ih
      omega

/-- A task whose moment has come is due for a turn. -/
def HasDue (w : World) : Prop :=
  ∃ task ∈ w.tasks, task.woken = true
    ∧ ∃ timer, task.errand.timer? = some timer ∧ timer.deadline ≤ w.clock

/-- A task whose moment has come is done with its stage before all tasks sleep. -/
theorem HasDue.stagesLeft_settle (hdue : w.HasDue) (setup : Setup) :
    stagesLeft (w.settle setup).tasks < stagesLeft w.tasks := by
  fun_induction settle setup w with
  | case1 w hnone =>
    obtain ⟨task, hmem, hwoken, -⟩ := hdue
    rw [step?_eq_none.1 hnone task hmem] at hwoken
    cases hwoken
  | case2 w after hstep ih =>
    rcases step?_shorter_or_vain hstep with hshorter | ⟨front, other, back, hsplit, hturn, rfl⟩
    · have hlater := World.stagesLeft_settle setup after
      omega
    · have hstages := stagesLeft_split front back other
      rw [← hsplit] at hstages
      have hasleep : stagesLeft (front ++ back ++ [other.asleep])
          = stagesLeft (front ++ back) + other.errand.stages := stagesLeft_append _ _
      -- The turn in vain was not that of the task whose moment has come.
      have hlater : HasDue { w with tasks := front ++ back ++ [other.asleep] } := by
        obtain ⟨task, hmem, hwoken, timer, hset, hcome⟩ := hdue
        refine ⟨task, ?_, hwoken, timer, hset, hcome⟩
        rw [hsplit] at hmem
        rcases List.mem_append.1 hmem with hfront | hback
        · exact List.mem_append_left _ (List.mem_append_left _ hfront)
        · rcases List.mem_cons.1 hback with rfl | hback
          · have hahead : w.clock < timer.deadline := (turn_eq_none hturn).2.2 timer hset
            omega
          · exact List.mem_append_left _ (List.mem_append_right _ hback)
      have hshorter := ih hlater
      simp only at hshorter
      omega

end Turns

/-- A timer is the first of some that go off up to a moment. -/
structure Earliest (moment : Nat) (timers : List Timer) (first : Option Timer) : Prop where
  /-- It is one of them, and goes off up to that moment. -/
  within : ∀ timer, first = some timer → timer ∈ timers ∧ timer.deadline ≤ moment
  /-- No other goes off before it. -/
  least : ∀ timer ∈ timers, timer.deadline ≤ moment →
    ∃ other, first = some other ∧ other.deadline ≤ timer.deadline

/-- The earlier of two timers is one of them. -/
theorem earlier_eq (a b : Timer) : earlier a b = a ∨ earlier a b = b := by
  unfold earlier
  split
  · exact Or.inr rfl
  · exact Or.inl rfl

/-- The earlier of two timers is for the earlier moment. -/
theorem deadline_earlier (a b : Timer) :
    (earlier a b).deadline ≤ a.deadline ∧ (earlier a b).deadline ≤ b.deadline := by
  unfold earlier
  split <;> omega

/-- One more timer that goes off later than the moment changes nothing. -/
theorem Earliest.pass {moment : Nat} {timers : List Timer} {first : Option Timer}
    (h : Earliest moment timers first) {timer : Timer} (hlate : moment < timer.deadline) :
    Earliest moment (timers ++ [timer]) first := by
  constructor
  · intro held hheld
    obtain ⟨hmem, hin⟩ := h.within held hheld
    exact ⟨List.mem_append_left _ hmem, hin⟩
  · intro other hmem hin
    rcases List.mem_append.1 hmem with hold | hnew
    · exact h.least other hold hin
    · rw [List.mem_singleton.1 hnew] at hin
      omega

/-- One more timer that goes off in time is compared with the first so far. -/
theorem Earliest.meet {moment : Nat} {timers : List Timer} {first : Option Timer}
    (h : Earliest moment timers first) {timer : Timer} (hin : timer.deadline ≤ moment) :
    Earliest moment (timers ++ [timer])
      (some ((first.map fun other => earlier other timer).getD timer)) := by
  have hlast : timer ∈ timers ++ [timer] := List.mem_append_right _ List.mem_cons_self
  cases first with
  | none =>
    constructor
    · rintro _ ⟨⟩
      exact ⟨hlast, hin⟩
    · intro other hmem hother
      refine ⟨timer, rfl, ?_⟩
      rcases List.mem_append.1 hmem with hold | hnew
      · obtain ⟨_, hnone, -⟩ := h.least other hold hother
        cases hnone
      · exact Nat.le_of_eq (by rw [List.mem_singleton.1 hnew])
  | some held =>
    obtain ⟨hmem, hheld⟩ := h.within held rfl
    have hdeadline := deadline_earlier held timer
    constructor
    · rintro _ ⟨⟩
      refine ⟨?_, Nat.le_trans hdeadline.2 hin⟩
      change earlier held timer ∈ timers ++ [timer]
      rcases earlier_eq held timer with hsame | hsame
      · rw [hsame]
        exact List.mem_append_left _ hmem
      · rw [hsame]
        exact hlast
    · intro other hmem hother
      refine ⟨earlier held timer, rfl, ?_⟩
      rcases List.mem_append.1 hmem with hold | hnew
      · obtain ⟨_, ⟨⟩, hleast⟩ := h.least other hold hother
        exact Nat.le_trans hdeadline.1 hleast
      · rw [List.mem_singleton.1 hnew]
        exact hdeadline.2

/-- The next timer is the first that goes off up to the moment. -/
theorem nextTimer?_earliest (w : World) (moment : Nat) :
    Earliest moment (w.tasks.filterMap fun task => task.errand.timer?) (w.nextTimer? moment) := by
  have hfold : ∀ (later before : List Timer) (first : Option Timer), Earliest moment before first →
      Earliest moment (before ++ later) (later.foldl (fun held timer =>
        if moment < timer.deadline then held
        else some ((held.map fun other => earlier other timer).getD timer)) first) := by
    intro later
    induction later with
    | nil =>
      intro before first h
      rw [List.append_nil]
      exact h
    | cons timer later ih =>
      intro before first h
      have hone : Earliest moment (before ++ [timer]) (if moment < timer.deadline then first
          else some ((first.map fun other => earlier other timer).getD timer)) := by
        split
        · rename_i hlate
          exact h.pass hlate
        · rename_i hin
          exact h.meet (Nat.le_of_not_lt hin)
      have hrest := ih _ _ hone
      rw [List.append_assoc] at hrest
      exact hrest
  have hnone : Earliest moment [] none :=
    ⟨fun _ hsome => (by cases hsome), fun _ hmem => (by cases hmem)⟩
  exact hfold _ [] none hnone

section Elapse

variable {setup : Setup} {w : World} {moment : Nat}

/-- Where all awaited moments lie ahead the clock can tick up to the first of them. -/
theorem Settled.move_tick (hsettled : w.Settled) (hlater : w.clock ≤ moment)
    (hahead : ∀ task ∈ w.tasks, ∀ timer, task.errand.timer? = some timer →
      w.clock < timer.deadline ∧ moment ≤ timer.deadline) :
    w.move setup (.tick (moment - w.clock)) = { w with clock := moment } := by
  have hrest : w.isResting = true := isResting_iff.2
    ⟨hsettled, fun task hmem _ timer hset => (hahead task hmem timer hset).1⟩
  have hcan : w.canTick (moment - w.clock) = true := by
    unfold canTick
    rw [Bool.and_eq_true, List.all_eq_true]
    refine ⟨hrest, fun task hmem => ?_⟩
    cases hset : task.errand.timer? with
    | none => rfl
    | some timer =>
      have hdeadline := (hahead task hmem timer hset).2
      rw [Option.all_some]
      exact decide_eq_true (by omega)
  have hclock : w.clock + (moment - w.clock) = moment := by omega
  simp only [World.move, if_pos hcan, hclock]

/-- To let a moment come is a run: the clock ticks up to the moment, and it is announced. -/
theorem Settled.fire_run (setup : Setup) (hsettled : w.Settled) (hpunctual : w.Punctual w.clock)
    {timer : Timer} (hnext : w.nextTimer? moment = some timer) :
    w.fire timer = w.run setup [.tick (timer.deadline - w.clock), .ring timer]
      ∧ w.clock ≤ timer.deadline ∧ timer.deadline ≤ moment
      ∧ ∀ task ∈ w.tasks, ∀ other, task.errand.timer? = some other →
        timer.deadline ≤ other.deadline := by
  have hearliest := nextTimer?_earliest w moment
  obtain ⟨hmem, hin⟩ := hearliest.within timer hnext
  obtain ⟨task, htask, hset⟩ := List.mem_filterMap.1 hmem
  have hlater : w.clock ≤ timer.deadline := hpunctual task htask (hsettled task htask) timer hset
  have hfirst : ∀ task ∈ w.tasks, ∀ other, task.errand.timer? = some other →
      timer.deadline ≤ other.deadline := by
    intro task htask other hother
    by_cases hsoon : other.deadline ≤ moment
    · obtain ⟨first, hsame, hleast⟩ :=
        hearliest.least other (List.mem_filterMap.2 ⟨task, htask, hother⟩) hsoon
      rw [hnext] at hsame
      cases Option.some.inj hsame
      exact hleast
    · omega
  have hticked : w.move setup (.tick (timer.deadline - w.clock))
      = { w with clock := timer.deadline } := by
    rcases Nat.lt_or_eq_of_le hlater with hahead | hnow
    · refine hsettled.move_tick hlater fun task htask other hother => ?_
      have hleast := hfirst task htask other hother
      omega
    · -- The moment has come already: nothing ticks.
      have hzero : timer.deadline - w.clock = 0 := by omega
      rw [hzero, ← hnow]
      simp only [World.move, Nat.add_zero, ite_self]
  have hrung : ({ w with clock := timer.deadline } : World).move setup (.ring timer)
      = { w with clock := timer.deadline, tasks := w.tasks.map (Task.noticeTime timer) } := by
    have hdue : ({ w with clock := timer.deadline } : World).isDue timer = true :=
      decide_eq_true (Nat.le_refl _)
    simp only [World.move, if_pos hdue]
  refine ⟨?_, hlater, hin, hfirst⟩
  simp only [run, List.foldl_cons, List.foldl_nil, hticked, hrung, fire, Nat.max_eq_right hlater]

/-- A moment that has come is announced to a task that waits for it. -/
theorem hasDue_fire {timer : Timer} (hnext : w.nextTimer? moment = some timer) :
    (w.fire timer).HasDue := by
  obtain ⟨hmem, -⟩ := (nextTimer?_earliest w moment).within timer hnext
  obtain ⟨task, htask, hset⟩ := List.mem_filterMap.1 hmem
  have hset' : task.errand.timer? = some timer := hset
  refine ⟨task.noticeTime timer, List.mem_map_of_mem htask, ?_, timer, ?_, Nat.le_max_right _ _⟩
  · unfold Task.noticeTime
    rw [if_pos hset']
  · rw [noticeTime_errand]
    exact hset'

/-- To announce a moment takes no stage away. -/
theorem stagesLeft_fire (w : World) (timer : Timer) :
    stagesLeft (w.fire timer).tasks = stagesLeft w.tasks :=
  stagesLeft_map (noticeTime_errand timer) w.tasks

/-- When no awaited moment is left the clock ticks up to the end. -/
theorem Settled.tick_run (hsettled : w.Settled) (hlater : w.clock ≤ moment)
    (hahead : ∀ task ∈ w.tasks, ∀ timer, task.errand.timer? = some timer → moment < timer.deadline) :
    ∃ moves, Unprompted moves ∧ { w with clock := max w.clock moment } = w.run setup moves
      ∧ (w.run setup moves).isResting = true := by
  have hticked : w.move setup (.tick (moment - w.clock)) = { w with clock := moment } := by
    refine hsettled.move_tick hlater fun task hmem timer hset => ?_
    have hdeadline := hahead task hmem timer hset
    omega
  refine ⟨[.tick (moment - w.clock)], by simp [Unprompted, Move.isPrompted], ?_, ?_⟩
  · rw [Nat.max_eq_right hlater]
    exact hticked.symm
  · have hrun : w.run setup [.tick (moment - w.clock)] = { w with clock := moment } := hticked
    rw [hrun, isResting_iff]
    exact ⟨hsettled, fun task hmem _ timer hset => hahead task hmem timer hset⟩

/-- With fuel for every stage that is left, to let time pass is a run that ends at rest. -/
theorem Numbered.elapseFrom_run {fuel : Nat} (hnumbered : w.Numbered) (hsettled : w.Settled)
    (hpunctual : w.Punctual w.clock) (hlater : w.clock ≤ moment)
    (hfuel : stagesLeft w.tasks ≤ fuel) :
    ∃ moves, Unprompted moves ∧ elapseFrom setup moment fuel w = w.run setup moves
      ∧ (w.run setup moves).isResting = true := by
  induction fuel generalizing w with
  | zero =>
    -- Where no stage is left there is no task.
    refine hsettled.tick_run hlater fun task hmem => ?_
    obtain ⟨front, back, hsplit⟩ := List.append_of_mem hmem
    have hstages := stagesLeft_split front back task
    rw [← hsplit] at hstages
    have hpositive := stages_pos task.errand
    omega
  | succ fuel ih =>
    unfold elapseFrom
    split
    · rename_i hnone
      refine hsettled.tick_run hlater fun task hmem timer hset => ?_
      by_cases hsoon : timer.deadline ≤ moment
      · obtain ⟨first, hsome, -⟩ := (nextTimer?_earliest w moment).least timer
          (List.mem_filterMap.2 ⟨task, hmem, hset⟩) hsoon
        rw [hnone] at hsome
        cases hsome
      · omega
    · rename_i timer hnext
      obtain ⟨hfire, hcome, hin, hfirst⟩ := hsettled.fire_run setup hpunctual hnext
      have hfired : (w.fire timer).Numbered := by
        rw [hfire]
        exact numbered_run hnumbered _
      obtain ⟨turns, hunprompted, hturns, hasleep, hclock⟩ := hfired.settle_run setup
      have hclock' : ((w.fire timer).run setup turns).clock = timer.deadline := by
        rw [hclock]
        exact Nat.max_eq_right hcome
      have hahead : (w.fire timer).Punctual timer.deadline := by
        intro task hmem _ other hother
        obtain ⟨source, hsource, rfl⟩ := List.mem_map.1 hmem
        rw [noticeTime_errand] at hother
        exact hfirst source hsource other hother
      have hshorter := (hasDue_fire hnext).stagesLeft_settle setup
      rw [stagesLeft_fire, hturns] at hshorter
      obtain ⟨rest, hlater, hrest, hend⟩ := ih (w := (w.fire timer).run setup turns)
        (numbered_run hfired turns) hasleep
        (by
          rw [hclock']
          exact punctual_run setup (Nat.le_succ_of_le (Nat.le_max_right _ _)) hahead turns)
        (by omega) (by omega)
      have hfired' : Unprompted [.tick (timer.deadline - w.clock), .ring timer] := by simp [Unprompted, Move.isPrompted]
      refine ⟨[.tick (timer.deadline - w.clock), .ring timer] ++ (turns ++ rest),
        unprompted_append hfired' (unprompted_append hunprompted hlater), ?_, ?_⟩
      · rw [hturns, hrest, hfire, ← run_append]
        rfl
      · rw [hfire, ← run_append] at hend
        exact hend

end Elapse

section Scripts

variable (setup : Setup) {w : World}

/-- To let time pass is a run that ends at rest. -/
theorem Numbered.elapse_run {moment : Nat} (hnumbered : w.Numbered) (hrest : w.isResting = true)
    (hlater : w.clock ≤ moment) :
    ∃ moves, Unprompted moves ∧ w.elapse setup moment = w.run setup moves
      ∧ (w.run setup moves).isResting = true := by
  obtain ⟨hsettled, hpunctual⟩ := isResting_iff.1 hrest
  have hnow : w.Punctual w.clock := fun task hmem hasleep timer hset =>
    Nat.le_of_succ_le (hpunctual task hmem hasleep timer hset)
  exact hnumbered.elapseFrom_run hsettled hnow hlater (Nat.le_refl _)

/-- Where no task sleeps past its moment, the turns that are due lead to rest. -/
theorem Numbered.settle_rests (hnumbered : w.Numbered) (hpunctual : w.Punctual (w.clock + 1)) :
    ∃ moves, Unprompted moves ∧ w.settle setup = w.run setup moves
      ∧ (w.run setup moves).isResting = true := by
  obtain ⟨moves, hunprompted, hsame, hsettled, hclock⟩ := hnumbered.settle_run setup
  refine ⟨moves, hunprompted, hsame, isResting_iff.2 ⟨hsettled, ?_⟩⟩
  rw [hclock]
  exact punctual_run setup (Nat.le_refl _) hpunctual moves

/-- After a move other than a tick, the turns that are due lead back to rest. -/
theorem Numbered.move_settle_rests (hnumbered : w.Numbered) (hrest : w.isResting = true)
    (move : Move) (hmove : ∀ milliseconds, move ≠ .tick milliseconds) :
    ∃ later, Unprompted later ∧ (w.move setup move).settle setup = w.run setup (move :: later)
      ∧ (w.run setup (move :: later)).isResting = true := by
  have hhappening := move_happens setup w move
  have hclock : (w.move setup move).clock = w.clock := by
    rcases hhappening.clock with hstill | ⟨milliseconds, htick, -⟩
    · exact hstill
    · exact absurd htick (hmove milliseconds)
  have hpunctual : (w.move setup move).Punctual ((w.move setup move).clock + 1) := by
    rw [hclock]
    exact hhappening.punctual (Nat.le_refl _) (isResting_iff.1 hrest).2
  exact (hhappening.numbered hnumbered).settle_rests setup hpunctual

/-- A step of a script is a run from rest to rest: the caller acts, and nobody acts after that. To let time
pass is no act of its own. -/
theorem Numbered.take_run (hnumbered : w.Numbered) (hrest : w.isResting = true) (step : Step) :
    ∃ later, Unprompted later ∧ (w.take setup step).1 = w.run setup (.act step :: later)
      ∧ (w.run setup (.act step :: later)).isResting = true := by
  by_cases hsleep : ∃ milliseconds, step = .sleep milliseconds
  · obtain ⟨milliseconds, rfl⟩ := hsleep
    obtain ⟨moves, hmoves, hsame, hend⟩ := hnumbered.elapse_run setup hrest
      (Nat.le_add_right w.clock milliseconds)
    obtain ⟨turns, hturns, hsettled, hend'⟩ := (numbered_run hnumbered moves).settle_rests setup
      (isResting_iff.1 hend).2
    have hrun : w.run setup (.act (.sleep milliseconds) :: (moves ++ turns))
        = (w.run setup moves).run setup turns := run_append setup w moves turns
    refine ⟨moves ++ turns, unprompted_append hmoves hturns, ?_, ?_⟩
    · rw [hrun, ← hsettled, ← hsame]
      rfl
    · rw [hrun]
      exact hend'
  · have hact : w.move setup (.act step) = (w.act setup step).1 := by
      cases step with
      | sleep milliseconds => exact absurd ⟨milliseconds, rfl⟩ hsleep
      | _ => rfl
    have hsettled := hnumbered.move_settle_rests setup hrest (.act step)
      (fun _ htick => by cases htick)
    rw [hact] at hsettled
    exact hsettled

/-- Whatever a script shows is what a run comes to, at rest. -/
theorem Numbered.perform_run (hnumbered : w.Numbered) (hrest : w.isResting = true)
    (steps : List Step) :
    ∀ record ∈ w.perform setup steps, ∃ moves, (w.run setup moves).isResting = true
      ∧ record.snapshot = (w.run setup moves).snapshot
      ∧ record.pending = (w.run setup moves).pending := by
  induction steps generalizing w with
  | nil =>
    intro record hmem
    cases hmem
  | cons step steps ih =>
    intro record hmem
    obtain ⟨turns, -, hsame, hend⟩ := hnumbered.take_run setup hrest step
    generalize .act step :: turns = moves at hsame hend
    rcases List.mem_cons.1 hmem with rfl | hlater
    · refine ⟨moves, hend, ?_, ?_⟩
      · rw [← hsame]
        rfl
      · rw [← hsame]
        rfl
    · have hothers : record ∈ (w.take setup step).1.perform setup steps := hlater
      rw [hsame] at hothers
      obtain ⟨more, hend', hsnapshot, hpending⟩ := ih (numbered_run hnumbered moves) hend record hothers
      rw [← run_append] at hend' hsnapshot hpending
      exact ⟨moves ++ more, hend', hsnapshot, hpending⟩

/-- Whatever a script shows of a service that has just been created is what a run comes to, at rest. -/
theorem initial_perform_run (checkup : Option Checkup) (steps : List Step) :
    ∀ record ∈ (initial checkup).perform setup steps, ∃ moves,
      ((initial checkup).run setup moves).isResting = true
        ∧ record.snapshot = ((initial checkup).run setup moves).snapshot
        ∧ record.pending = ((initial checkup).run setup moves).pending :=
  (numbered_initial checkup).perform_run setup rfl steps

end Scripts

/-- What holds before a step and survives whatever moves come to, and the passing of time, holds after it. -/
theorem take_induction (setup : Setup) {P : World → Prop}
    (hmove : ∀ move w after, move.listens = false → Happening setup move w after → P w → P after)
    (hfire : ∀ w timer, P w → P (fire w timer)) (hclock : ∀ w moment, P w → P { w with clock := moment })
    {w : World} (hP : P w) (step : Step) : P (w.take setup step).1 := by
  have hsettle : ∀ v : World, P v → P (v.settle setup) := by
    intro v
    fun_induction World.settle setup v with
    | case1 v hnone => exact id
    | case2 v after hdue ih =>
      intro hv
      obtain ⟨⟨task, others⟩, hfound, rfl⟩ := Option.map_eq_some_iff.1 hdue
      obtain ⟨front, back, hsplit, rfl, -, -⟩ := Task.takeFirst_eq_some hfound
      have hturn : (Move.turn task.serial).isTurnOf task.serial = true := decide_eq_true rfl
      exact ih (hmove (.turn task.serial) v _ rfl (takeTurn_happens setup v hturn hsplit) hv)
  have helapse : ∀ moment fuel (v : World), P v → P (elapseFrom setup moment fuel v) := by
    intro moment fuel
    induction fuel with
    | zero => exact fun v hv => hclock v _ hv
    | succ fuel ih =>
      intro v hv
      unfold elapseFrom
      split
      · exact hclock v _ hv
      · exact ih _ (hsettle _ (hfire v _ hv))
  refine hsettle _ ?_
  by_cases hsleep : ∃ milliseconds, step = .sleep milliseconds
  · obtain ⟨milliseconds, rfl⟩ := hsleep
    exact helapse _ _ w hP
  · exact hmove (.act step) w _ rfl
      (act_happens setup w step fun milliseconds h => hsleep ⟨milliseconds, h⟩) hP

end World

end GracefulService
