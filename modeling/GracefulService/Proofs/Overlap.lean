import GracefulService.Proofs.Sessions

/-!
# Openings that overlap

Several callers may open a service at once, and all of them may find that it has just been created. As long
as no shutdown begins, the step forward that each of them has to make lets only one of them succeed.
Once the shutdown has begun, that step is no longer asked for: whoever has bound surfaces by then
publishes them, one caller after the other, and each time somebody may take them.
-/

namespace GracefulService

/-- An opening that has moved the phase on, or has been spared that, and will succeed. -/
def Opening.hasCommitted : Opening → Bool
  | publish _ => true
  | _ => false

/-- How many openings will succeed or have done so. -/
def Session.committed (s : Session) : Nat :=
  s.openings.countP Opening.hasCommitted + s.told.count .opened

/-- What holds of openings and those who listen, however their calls overlap. -/
structure Session.Exclusive (s : Session) : Prop where
  /-- Nobody takes surfaces that have not been published before. -/
  takes : s.told.countP Reply.isTaken + s.supervisor.sockets.toList.length ≤ s.told.count .opened
  /-- An address is published exactly where an opening has succeeded. -/
  published : s.supervisor.primaryAddress.isSome = true ↔ .opened ∈ s.told
  /-- No opening of a service that has just been created has succeeded or will do so. -/
  created : s.supervisor.phase = .created → s.committed = 0
  /-- Until the shutdown begins at most one opening succeeds. -/
  once : s.isShuttingDown = false → s.committed ≤ 1

namespace World

/-- Where the shutdown has not begun, it had not begun before. -/
theorem Leads.open_before {w after : World} (h : w.Leads after)
    (hopen : after.snapshot.phase.isShuttingDown = false) : w.snapshot.phase.isShuttingDown = false := by
  rw [← Bool.not_eq_true] at hopen ⊢
  exact fun hshutting => hopen (h.precedes.isShuttingDown hshutting)

/-- A service that has just been created was so before. -/
theorem Leads.created_before {w after : World} (h : w.Leads after)
    (hcreated : after.snapshot.phase = .created) : w.snapshot.phase = .created := by
  have hphase := h.precedes.phase
  rw [hcreated] at hphase
  cases hbefore : w.snapshot.phase with
  | created => rfl
  | _ =>
    rw [hbefore] at hphase
    simp [Phase.number] at hphase

/-- The step forward of a service that has just been created opens it. -/
theorem phase_advance_opened (policy : WakePolicy) {w : World} (hcreated : w.snapshot.phase = .created) :
    (w.advance policy .opened).1.snapshot.phase = .opened := by
  have hcan : w.snapshot.phase.canAdvance .opened = true := by
    rw [hcreated]
    rfl
  rw [snapshot_advance, Deed.result_advance, if_pos hcan]

end World

namespace Supervisor

open World

/-- Once the shutdown has begun, bound surfaces are published without a step forward. -/
theorem openStage_commit_of_draining {s : Supervisor} (h : s.phase = .draining) (binding : Binding)
    (sockets : Sockets) : s.openStage binding (.commit sockets) = (s, .goOn (.publish sockets)) := by
  have hanswer := advance_answer s.setup.policy s.world .opened
  have hphase : s.world.snapshot.phase = .draining := h
  rw [hphase] at hanswer
  have hrefused := refused_advance _ _ _ hanswer
  unfold openStage commitOpening
  dsimp only
  generalize s.world.advance s.setup.policy .opened = advanced at hanswer hrefused ⊢
  obtain ⟨world, allowed⟩ := advanced
  cases allowed with
  | true => cases hanswer
  | false => simp only [if_pos h]

end Supervisor

namespace Session

open World

/-- Once the shutdown has begun, an opening that holds bound surfaces publishes them. -/
theorem run_opening_of_draining {s : Session} (hphase : s.supervisor.phase = .draining)
    {sockets : Sockets} {others : List Opening} (hopenings : s.openings = .commit sockets :: others)
    (binding : Binding) :
    s.run [.goOnOpening 0 binding, .goOnOpening 0 binding]
      = { s with
          supervisor := { s.supervisor with
            primaryAddress := some sockets.primary
            managementAddress := sockets.management
            sockets := some sockets }
          openings := others
          told := s.told ++ [.opened] } := by
  have hcommitted : s.take (.goOnOpening 0 binding) = { s with openings := .publish sockets :: others } := by
    simp only [take, hopenings, List.getElem?_cons_zero, takeStage,
      Supervisor.openStage_commit_of_draining hphase]
    rfl
  rw [run_cons, hcommitted]
  rfl

/-- Where several openings hold bound surfaces when the shutdown begins, all of them succeed. What the first
one has published is replaced by what the second one publishes, and both may be taken. -/
theorem run_openings_of_draining {s : Session} (hphase : s.supervisor.phase = .draining)
    {first second : Sockets} (hopenings : s.openings = [.commit first, .commit second])
    (binding : Binding) :
    let opened := s.run [.goOnOpening 0 binding, .goOnOpening 0 binding]
    let later := opened.run [.listen, .goOnOpening 0 binding, .goOnOpening 0 binding, .listen]
    opened.told = s.told ++ [.opened]
      ∧ opened.supervisor.primaryAddress = some first.primary
      ∧ opened.supervisor.managementAddress = first.management
      ∧ later.told = s.told ++ [.opened, .taken first, .opened, .taken second]
      ∧ later.supervisor.primaryAddress = some second.primary
      ∧ later.supervisor.managementAddress = second.management := by
  intro opened later
  have hopened : opened = _ := run_opening_of_draining hphase hopenings binding
  have hwaiting : opened.supervisor.sockets = some first := by rw [hopened]
  have htaken := take_listen_some hwaiting
  have hstill : (opened.take .listen).supervisor.phase = .draining := by
    rw [htaken, hopened]
    exact hphase
  have hleft : (opened.take .listen).openings = [.commit second] := by rw [htaken, hopened]
  have hsecond := run_opening_of_draining hstill hleft binding
  have hlater : later = ((opened.take .listen).run
      [.goOnOpening 0 binding, .goOnOpening 0 binding]).take .listen := rfl
  have hagain : ((opened.take .listen).run
      [.goOnOpening 0 binding, .goOnOpening 0 binding]).supervisor.sockets = some second := by
    rw [hsecond]
  rw [hlater, take_listen_some hagain, hsecond, htaken, hopened]
  simp

/-- Two callers open a service at once, and its shutdown is asked for after both have bound its surfaces. -/
theorem two_openings_succeed :
    let opened := (create .usual (.confined []) none).run
      [.openService, .openService, .goOnOpening 0 (Machine.confined []).bind,
        .goOnOpening 1 (Machine.confined [⟨"0.0.0.0", 32768⟩]).bind, .aside (.trigger none),
        .goOnOpening 0 (Machine.confined []).bind, .goOnOpening 0 (Machine.confined []).bind]
    let later := opened.run [.listen, .goOnOpening 0 (Machine.confined []).bind,
      .goOnOpening 0 (Machine.confined []).bind, .listen]
    opened.told = [.opened]
      ∧ opened.supervisor.primaryAddress = some ⟨"0.0.0.0", 32768⟩
      ∧ later.told = [.opened, .taken ⟨⟨"0.0.0.0", 32768⟩, none⟩, .opened,
        .taken ⟨⟨"0.0.0.0", 32769⟩, none⟩]
      ∧ later.supervisor.primaryAddress = some ⟨"0.0.0.0", 32769⟩ := by
  decide +kernel

/-! Until the shutdown begins only one of the openings succeeds. -/

/-- No opening of a service that has just been created has succeeded. -/
theorem exclusive_create (config : Config) (machine : Machine) (checkup : Option Checkup) :
    (create config machine checkup).Exclusive where
  takes := Nat.le_refl 0
  published := by simp [create, Supervisor.create]
  created := fun _ => rfl
  once := fun _ => Nat.zero_le 1

section Steps

variable {s : Session}

/-- What opens nothing, publishes nothing and takes nothing changes nothing about who succeeds. -/
theorem Exclusive.later {after : Session} (h : s.Exclusive)
    (hleads : s.supervisor.world.Leads after.supervisor.world)
    (hsockets : after.supervisor.sockets = s.supervisor.sockets)
    (haddress : after.supervisor.primaryAddress = s.supervisor.primaryAddress)
    (hopened : after.told.count .opened = s.told.count .opened)
    (htaken : after.told.countP Reply.isTaken = s.told.countP Reply.isTaken)
    (hopenings : after.openings.countP Opening.hasCommitted
      = s.openings.countP Opening.hasCommitted) : after.Exclusive := by
  have hcommitted : after.committed = s.committed := by
    unfold committed
    rw [hopened, hopenings]
  refine ⟨?_, ?_, fun hcreated => ?_, fun hopen => ?_⟩
  · rw [htaken, hsockets, hopened]
    exact h.takes
  · rw [haddress, h.published, ← List.count_pos_iff, ← List.count_pos_iff, hopened]
  · rw [hcommitted]
    exact h.created (hleads.created_before hcreated)
  · rw [hcommitted]
    exact h.once (hleads.open_before hopen)

/-- An opening that is about to succeed is the first one, unless the shutdown has begun. -/
theorem Exclusive.commit {after : Session} (h : s.Exclusive)
    (hleads : s.supervisor.world.Leads after.supervisor.world)
    (hphase : s.supervisor.phase = .created ∨ s.supervisor.phase = .draining)
    (hmoves : s.supervisor.phase = .created → after.supervisor.phase = .opened)
    (hsockets : after.supervisor.sockets = s.supervisor.sockets)
    (haddress : after.supervisor.primaryAddress = s.supervisor.primaryAddress)
    (htold : after.told = s.told) (hcommitted : after.committed = s.committed + 1) :
    after.Exclusive := by
  refine ⟨?_, ?_, fun hcreated => ?_, fun hopen => ?_⟩
  · rw [htold, hsockets]
    exact h.takes
  · rw [htold, haddress]
    exact h.published
  · have hopened := hmoves (hleads.created_before hcreated)
    rw [hcreated] at hopened
    cases hopened
  · have hbefore : s.supervisor.phase.isShuttingDown = false := hleads.open_before hopen
    have hnone : s.committed = 0 := by
      rcases hphase with hphase | hphase
      · exact h.created hphase
      · rw [hphase] at hbefore
        cases hbefore
    omega

/-- An opening that succeeds was about to. -/
theorem Exclusive.publish {after : Session} (h : s.Exclusive)
    (hphase : after.supervisor.phase = s.supervisor.phase) {sockets : Sockets}
    (hsockets : after.supervisor.sockets = some sockets)
    (haddress : after.supervisor.primaryAddress = some sockets.primary)
    (htold : after.told = s.told ++ [.opened]) (hcommitted : after.committed = s.committed) :
    after.Exclusive := by
  refine ⟨?_, ?_, fun hcreated => ?_, fun hopen => ?_⟩
  · have hopened : after.told.count .opened = s.told.count .opened + 1 := by
      rw [htold, List.count_append]
      rfl
    have htaken : after.told.countP Reply.isTaken = s.told.countP Reply.isTaken := by
      rw [htold, List.countP_append]
      rfl
    have htakes := h.takes
    rw [hopened, htaken, hsockets, Option.toList_some, List.length_singleton]
    omega
  · rw [haddress, htold]
    exact iff_of_true rfl (List.mem_append_right _ List.mem_cons_self)
  · rw [hphase] at hcreated
    rw [hcommitted]
    exact h.created hcreated
  · have hbefore : s.isShuttingDown = false := by
      unfold isShuttingDown
      rw [← hphase]
      exact hopen
    rw [hcommitted]
    exact h.once hbefore

/-- An opening that stands between others counts like one beside them. -/
theorem countP_between (before after : List Opening) (stage : Opening) :
    (before ++ stage :: after).countP Opening.hasCommitted
      = (before ++ after).countP Opening.hasCommitted + [stage].countP Opening.hasCommitted := by
  rw [List.countP_append, List.countP_append, ← List.singleton_append, List.countP_append]
  omega

/-- Of the openings that will succeed one may be the opening that stands between others. -/
theorem HasOpening.countP {stage : Opening} {before after : List Opening}
    (h : s.HasOpening stage before after) : s.openings.countP Opening.hasCommitted
      = (before ++ after).countP Opening.hasCommitted + [stage].countP Opening.hasCommitted := by
  rcases h with hsplit | ⟨rfl, rfl, rfl⟩
  · rw [hsplit, countP_between]
  · rw [List.append_nil]
    rfl

/-- Whatever call comes, at most one opening succeeds until the shutdown begins. -/
theorem Exclusive.take {after : Session} (h : s.Exclusive) (htakes : s.Takes after) :
    after.Exclusive := by
  have hleads := htakes.leads
  cases htakes with
  | @goesOn stage next supervisor before after hopening hdone =>
    have hcount := hopening.countP
    cases hdone with
    | checked hphase =>
      exact h.later hleads rfl rfl rfl rfl ((countP_between _ _ _).trans hcount.symm)
    | bound hcore hfits =>
      exact h.later hleads rfl rfl rfl rfl ((countP_between _ _ _).trans hcount.symm)
    | @committed sockets hphase =>
      refine h.commit hleads hphase (phase_advance_opened s.supervisor.setup.policy) rfl rfl rfl ?_
      have hmore : [Opening.publish sockets].countP Opening.hasCommitted
          = [Opening.commit sockets].countP Opening.hasCommitted + 1 := rfl
      simp only [committed]
      rw [countP_between, hcount, hmore]
      omega
  | @ends stage result supervisor before after hopening hdone =>
    have hcount := hopening.countP
    cases hdone with
    | @published sockets =>
      refine h.publish rfl rfl rfl rfl ?_
      have hpublish : [Opening.publish sockets].countP Opening.hasCommitted = 1 := rfl
      have hopened : (s.told ++ [Reply.opened]).count .opened = s.told.count .opened + 1 := by
        rw [List.count_append]
        rfl
      simp only [committed, Reply.ofOpening]
      rw [hcount, hpublish, hopened]
      omega
    | _ =>
      exact h.later hleads rfl rfl (by simp [Reply.ofOpening])
        (by simp [Reply.ofOpening, Reply.isTaken]) hcount.symm
  | @taken sockets hsockets =>
    have htakes := h.takes
    rw [hsockets, Option.toList_some, List.length_singleton] at htakes
    have hopened : (s.told ++ [Reply.taken sockets]).count .opened = s.told.count .opened := by simp
    have hcommitted : committed { s with
        supervisor := { s.supervisor with sockets := none }
        beginnings := s.beginnings ++ [.letIn sockets]
        told := s.told ++ [.taken sockets] } = s.committed := by
      simp only [committed]
      rw [hopened]
    refine ⟨?_, ?_, fun hcreated => ?_, fun hopen => ?_⟩
    · rw [hopened, List.countP_append]
      exact htakes
    · rw [h.published]
      simp
    · exact hcommitted.trans (h.created hcreated)
    · exact Nat.le_trans (Nat.le_of_eq hcommitted) (h.once hopen)
  | letIn =>
    rw [Supervisor.admitRequests_eq] at hleads ⊢
    exact h.later hleads rfl rfl rfl rfl rfl
  | refused | broken | served =>
    exact h.later hleads rfl rfl (by simp) (by simp [Reply.isTaken]) rfl
  | aside haside =>
    rw [Supervisor.move_aside haside] at hleads ⊢
    exact h.later hleads rfl rfl rfl rfl rfl
  | rests => exact h

/-- Whatever calls come, at most one opening succeeds until the shutdown begins. -/
theorem Exclusive.run (h : s.Exclusive) (calls : List Call) : (s.run calls).Exclusive :=
  List.foldlRecOn calls Session.take h fun _ hs call _ => hs.take (takes_take _ call)

/-- As long as the shutdown has not begun, an opening that has succeeded is the only one that does. -/
theorem Exclusive.not_committed (h : s.Exclusive) (hopen : s.isShuttingDown = false)
    (hopened : .opened ∈ s.told) : ∀ stage ∈ s.openings, stage.hasCommitted = false := by
  have honce := h.once hopen
  have hcount := List.count_pos_iff.2 hopened
  unfold committed at honce
  have hnone : s.openings.countP Opening.hasCommitted = 0 := by omega
  intro stage hmem
  exact Bool.eq_false_iff.2 (List.countP_eq_zero.1 hnone stage hmem)

/-- Where an opening has succeeded and the shutdown has not begun, no call changes the addresses. -/
theorem Exclusive.addresses_take {after : Session} (h : s.Exclusive)
    (hopen : s.isShuttingDown = false) (hopened : .opened ∈ s.told) (htakes : s.Takes after) :
    after.supervisor.primaryAddress = s.supervisor.primaryAddress
      ∧ after.supervisor.managementAddress = s.supervisor.managementAddress := by
  cases htakes with
  | goesOn hopening hdone => cases hdone <;> exact ⟨rfl, rfl⟩
  | ends hopening hdone =>
    cases hdone with
    | published =>
      -- no opening but the first one is ever about to publish
      have hnone := h.not_committed hopen hopened
      rcases hopening with hsplit | ⟨hcheck, -, -⟩
      · rw [hsplit] at hnone
        cases hnone _ (List.mem_append_right _ List.mem_cons_self)
      · cases hcheck
    | _ => exact ⟨rfl, rfl⟩
  | letIn =>
    rw [Supervisor.admitRequests_eq]
    exact ⟨rfl, rfl⟩
  | aside haside =>
    rw [Supervisor.move_aside haside]
    exact ⟨rfl, rfl⟩
  | _ => exact ⟨rfl, rfl⟩

/-- What callers have been told stays told. -/
theorem Takes.told {after : Session} (h : s.Takes after) : s.told <+: after.told := by
  cases h with
  | rests | goesOn | letIn | aside => exact List.prefix_refl _
  | _ => exact List.prefix_append _ _

/-- Until the shutdown begins the addresses stay as they are once an opening has succeeded. -/
theorem Exclusive.addresses_run (h : s.Exclusive) (hopened : .opened ∈ s.told) (later : List Call)
    (hopen : (s.run later).isShuttingDown = false) :
    (s.run later).supervisor.primaryAddress = s.supervisor.primaryAddress
      ∧ (s.run later).supervisor.managementAddress = s.supervisor.managementAddress := by
  induction later generalizing s with
  | nil => exact ⟨rfl, rfl⟩
  | cons call later ih =>
    have htakes := takes_take s call
    have htold := htakes.told.mem hopened
    have hbefore : s.isShuttingDown = false :=
      (run_leads s (call :: later)).open_before hopen
    obtain ⟨hprimary, hmanagement⟩ := h.addresses_take hbefore hopened htakes
    obtain ⟨hlater, hlaterManagement⟩ := ih (h.take htakes) htold hopen
    exact ⟨hlater.trans hprimary, hlaterManagement.trans hmanagement⟩

end Steps

end Session

/-- However the calls of those who open a service and listen on it overlap, as long as no shutdown begins
only one opening succeeds, the addresses it has published stay, and only one caller takes the surfaces.
Whenever it begins, nobody takes surfaces that no opening has published for them. -/
theorem opened_once_until_shutdown (config : Config) (machine : Machine) (checkup : Option Checkup)
    (calls : List Call) :
    let s := (Session.create config machine checkup).run calls
    s.told.countP Reply.isTaken ≤ s.told.count .opened
      ∧ (s.supervisor.primaryAddress.isSome = true ↔ .opened ∈ s.told)
      ∧ (s.isShuttingDown = false →
        s.told.count .opened ≤ 1 ∧ s.told.countP Reply.isTaken ≤ 1)
      ∧ (.opened ∈ s.told → ∀ later, (s.run later).isShuttingDown = false →
        (s.run later).supervisor.primaryAddress = s.supervisor.primaryAddress
          ∧ (s.run later).supervisor.managementAddress = s.supervisor.managementAddress) := by
  intro s
  have h : s.Exclusive := (Session.exclusive_create config machine checkup).run calls
  have htakes : s.told.countP Reply.isTaken ≤ s.told.count .opened :=
    Nat.le_trans (Nat.le_add_right _ _) h.takes
  refine ⟨htakes, h.published, fun hopen => ?_, fun hopened later => h.addresses_run hopened later⟩
  have honce : s.told.count .opened ≤ 1 := Nat.le_trans (Nat.le_add_left _ _) (h.once hopen)
  exact ⟨honce, Nat.le_trans htakes honce⟩

end GracefulService
