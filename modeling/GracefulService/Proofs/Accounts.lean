import GracefulService.Proofs.Books
import GracefulService.Proofs.Published
import GracefulService.Proofs.Refusals
import GracefulService.Proofs.Reports
import GracefulService.Proofs.Scripts
import GracefulService.Proofs.Slots
import GracefulService.Proofs.Unseen

/-!
# What is published and logged agrees with the state

Whatever happens to a service leaves traces in four places: in its snapshot, in the numbers that it publishes, in
its log, and in what its callers and clients are told. After every run the four agree, and so they do after every
step of a script, which shows all that callers are told and all that is logged.
-/

namespace GracefulService

namespace World

/-! ## Scripts -/

/-- The world after a script. -/
def play (setup : Setup) (w : World) (steps : List Step) : World :=
  steps.foldl (fun w step => (w.take setup step).1) w

/-- A script is a run in which the callers are told what the script shows. -/
theorem Numbered.play_run {w : World} (hnumbered : w.Numbered) (hrest : w.isResting = true)
    (setup : Setup) (steps : List Step) : ∃ moves, w.play setup steps = w.run setup moves
      ∧ w.told setup moves = (w.perform setup steps).map StepRecord.result := by
  induction steps generalizing w with
  | nil => exact ⟨[], rfl, rfl⟩
  | cons step steps ih =>
    obtain ⟨turns, hunprompted, hsame, hend⟩ := hnumbered.take_run setup hrest step
    obtain ⟨moves, hplayed, htold⟩ := ih (numbered_run hnumbered (.act step :: turns)) hend
    have hanswer : w.told setup (.act step :: turns) = [(w.act setup step).2] := by
      rw [told, told_of_unprompted setup _ hunprompted, List.append_nil]
      rfl
    have hrest : (w.take setup step).1.play setup steps = w.play setup (step :: steps) := rfl
    have hshown : (w.perform setup (step :: steps)).map StepRecord.result
        = (w.act setup step).2 :: ((w.take setup step).1.perform setup steps).map StepRecord.result := rfl
    refine ⟨.act step :: turns ++ moves, ?_, ?_⟩
    · rw [run_append, ← hplayed, ← hsame, hrest]
    · rw [told_append, hanswer, htold, hshown, hsame]
      rfl

/-- What lies behind a service that goes on as it is, with some of its ids ahead. -/
def ownPast (w : World) (ahead : Nat) : Past :=
  ⟨w.log, w.finished, w.calls, w.meters.probes, id, 0, fun n => w.ids (n + ahead)⟩

/-- From its own past, a service that shows only what is there now is the service itself. -/
theorem resume_ownPast (w : World) (ahead : Nat) :
    (w.present w.ids).resume ((w.ownPast ahead).ahead ahead) = w := by
  have htasks : w.tasks.map (Task.renumber id) = w.tasks := List.map_id _
  have htape : ((w.ownPast ahead).ahead ahead).tape w.ids = w.ids := by
    funext n
    have hlead : ((w.ownPast ahead).ahead ahead).lead = ahead := Nat.zero_add ahead
    simp only [Past.tape, hlead]
    split
    · rfl
    · have hn : n - ahead + ahead = n := by omega
      exact congrArg w.ids hn
  simp only [resume, World.present, htape]
  simp only [Past.ahead, ownPast, htasks, List.append_nil, List.map_nil]
  rfl

/-- A step writes to the log what it shows, after what is there. -/
theorem Settled.log_take {w : World} (hsettled : w.Settled) (setup : Setup) (step : Step) :
    (w.take setup step).1.log = w.log ++ (w.take setup step).2.log := by
  have hpresent : (w.present w.ids).Settled := hsettled
  have htaken := hpresent.take_resume setup (w.ownPast step.draws) rfl step
  rw [resume_ownPast] at htaken
  have hgrown : w.log <+: (w.take setup step).1.log := by
    rw [htaken]
    exact List.prefix_append _ _
  exact (List.prefix_iff_eq_append.1 hgrown).symm

/-- After a script the log is what its steps have shown. -/
theorem Settled.log_play {w : World} (hsettled : w.Settled) (setup : Setup) (steps : List Step) :
    (w.play setup steps).log = w.log ++ (w.perform setup steps).flatMap StepRecord.log := by
  induction steps generalizing w with
  | nil => exact (List.append_nil _).symm
  | cons step steps ih =>
    have hafter : (w.take setup step).1.Settled := settled_settle setup _
    have hplayed : w.play setup (step :: steps) = (w.take setup step).1.play setup steps := rfl
    rw [perform_cons, List.flatMap_cons, hplayed, ih hafter, hsettled.log_take, List.append_assoc]

/-! ## Accounts -/

/-- The accounts of a service agree with its state, where callers were told something and reports went out. -/
structure Accounts (w : World) (told : List StepResult) (sent : List SentReport) : Prop where
  /-- Once a request was let in, the gauge shows how many hold a slot. -/
  inFlight : w.meters.shown "scaffold_in_flight_requests"
    = if w.meters.accepted = 0 then none else some w.snapshot.inFlight
  /-- Each request that was let in holds a slot or has given it back, as the log says. -/
  accepted : (w.meters.shown "scaffold_requests_total\x7boutcome=accepted\x7d").getD 0
    = w.snapshot.inFlight + w.log.count .slotReleased
  /-- Each request that was turned away is in the log. -/
  rejected : (w.meters.shown "scaffold_requests_total\x7boutcome=rejected\x7d").getD 0
    = w.log.countP Event.isRejection
  /-- It was refused to a caller, or the gate turned it away. -/
  refused : (w.meters.shown "scaffold_requests_total\x7boutcome=rejected\x7d").getD 0
    = told.countP StepResult.isRejected + w.turnedAway
  /-- Each report that went out is counted under its own probe and status. -/
  probe : ∀ key, (w.meters.shown (Meters.probeCounter key)).getD 0
    = sent.countP fun report => report.key = key
  /-- Over all labels they are as many as the reports. -/
  probes : (Meters.probeKeys.map fun key => (w.meters.shown (Meters.probeCounter key)).getD 0).sum
    = sent.length
  /-- The steps in the log lead from the creation to the present phase. -/
  leads : Phase.created.Leads (transitions w.log) w.snapshot.phase
  /-- The last of them is published. -/
  phase : w.meters.shown "scaffold_state"
    = (transitions w.log).getLast?.map fun step => step.2.number

/-- In every run the meters say what the log, the callers and the reports say. -/
theorem accounts_run (setup : Setup) (checkup : Option Checkup) (moves : List Move) :
    ((initial checkup).run setup moves).Accounts ((initial checkup).told setup moves)
      ((initial checkup).reports setup moves) := by
  have hkept : ((initial checkup).run setup moves).books.Kept := kept_run (kept_initial checkup) moves
  have hbalanced : Balanced 0 ((initial checkup).run setup moves) :=
    run_induction setup _ moves (fun _ _ _ _ hhappening => hhappening.balanced)
      (balanced_initial checkup)
  have htallied : Tallied 0 (initial checkup) := rfl
  have hrefused := htallied.run setup moves
  have hprobes : ((initial checkup).run setup moves).meters.probes
      = countReports ((initial checkup).reports setup moves) [] :=
    congrArg Prod.snd (polls_run setup (initial checkup) moves)
  have hreleased : ((initial checkup).run setup moves).deeds.count .slotReleased
      = ((initial checkup).run setup moves).log.count .slotReleased := List.count_filter rfl
  have hprobe : ∀ key, (((initial checkup).run setup moves).meters.shown (Meters.probeCounter key)).getD 0
      = ((initial checkup).reports setup moves).countP fun report => report.key = key := by
    intro key
    rw [Meters.shown_probe, hprobes, Meters.lookup_countReports]
    exact Nat.zero_add _
  constructor
  · rw [Meters.shown_inFlight]
    exact hkept.inFlight
  · rw [Meters.shown_accepted, ← hreleased]
    exact hbalanced.conserved
  · rw [Meters.shown_rejected, ← countP_isRejection_deeds]
    exact hkept.rejected
  · rw [Meters.shown_rejected, Nat.add_comm, ← Nat.zero_add (List.countP _ _)]
    exact hrefused
  · exact hprobe
  · simp only [hprobe]
    exact Meters.sum_countP_probeKeys _
  · rw [← transitions_deeds]
    exact hkept.leads
  · rw [Meters.shown_phase, ← transitions_deeds]
    exact hkept.phase

end World

/-- After every run what a service publishes and logs agrees with its state and with what its callers and
clients were told: the gauge of requests in flight with the slots that are held; the requests let in with those
in flight and the slots given back; the requests turned away with the log, the callers who were refused and the
requests that the gate turned away; the answers of probes, label by label and in all, with the reports that
clients got; and the steps in the log lead, one after the other, from the creation to the present phase, which
is the one that is published. Each script is such a run, in which the callers are told what it shows, and shows
all that is in the log. -/
theorem accounts_agree (setup : Setup) (checkup : Option Checkup) :
    let created := World.initial checkup
    (∀ moves, (created.run setup moves).Accounts (created.told setup moves) (created.reports setup moves)
        ∧ created.Served setup moves)
      ∧ ∀ steps, ∃ moves, created.play setup steps = created.run setup moves
        ∧ (created.play setup steps).Accounts ((created.perform setup steps).map StepRecord.result)
          (created.reports setup moves)
        ∧ (created.play setup steps).log = (created.perform setup steps).flatMap StepRecord.log := by
  intro created
  have hnumbered : created.Numbered := World.numbered_initial checkup
  constructor
  · intro moves
    exact ⟨World.accounts_run setup checkup moves, hnumbered.served moves⟩
  · intro steps
    obtain ⟨moves, hplayed, htold⟩ := hnumbered.play_run rfl setup steps
    have hsettled : created.Settled := (World.poised_initial checkup).settled
    have haccounts := World.accounts_run setup checkup moves
    refine ⟨moves, hplayed, ?_, hsettled.log_play setup steps⟩
    rw [hplayed, ← htold]
    exact haccounts

end GracefulService
