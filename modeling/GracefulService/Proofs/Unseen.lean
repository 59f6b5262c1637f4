import GracefulService.Proofs.Probes
import GracefulService.Proofs.Resuming
import GracefulService.Proofs.Serving
import GracefulService.Serve.Delegate
import Mathlib.Order.Monotone.Basic

/-!
# Looking on

Whoever probes a service, or reads what it knows, begins nothing there: the answer is counted and perhaps
logged, an id is given out, and all else stays as it was. So a script can be compared with what is left of
it when steps that only look on are left out, at whichever places: the steps that remain show the same.
-/

namespace GracefulService

open Http

/-- A request that goes here is answered beside the gate, and nothing comes of it. -/
def Destination.isAside : Destination → Bool
  | control (.probe _) | otherMethods _ | nowhere => true
  | control .markdown | gate => false

namespace Step

/-- A step that only looks on: a request, of any method and with any headers, that goes to the probes, or a
reading of what the service knows. -/
def looksOn (site : Site) : Step → Bool
  | request _ surface (some asked) => (site.destination surface asked).isAside
  | report _ | metrics | inspect => true
  | _ => false

/-- The probe that answers the request of a step. -/
def probe? (site : Site) : Step → Option Probe
  | request _ surface (some asked) => (site.destination surface asked).probe?
  | _ => none

/-- The id of the task that a step of this kind starts. -/
def request? : Step → Option String
  | request name _ (some _) => some name
  | _ => none

end Step

/-! ## Records beside each other -/

namespace Meters

/-- How often a probe has given a status. -/
def count (key : Probe × Status) (counts : List ((Probe × Status) × Nat)) : Nat :=
  ((counts.filter fun entry => entry.1 = key).map Prod.snd).sum

/-- Numbers that lack some answers of probes that others count, and nothing else. -/
structure Lacks (gone : List (Probe × Status)) (full less : Meters) : Prop where
  /-- All but the answers of probes are the same. -/
  same : { less with probes := [] } = { full with probes := [] }
  /-- Each answer is counted as often as it was given. -/
  answers : ∀ key, count key full.probes = count key less.probes + gone.count key

section Counts

variable {key other : Probe × Status} {n : Nat}

/-- What is counted under a key is in the first entry and in the rest. -/
theorem count_cons (entry : (Probe × Status) × Nat) (rest : List ((Probe × Status) × Nat)) :
    count key (entry :: rest) = (if entry.1 = key then entry.2 else 0) + count key rest := by
  simp only [count, List.filter_cons, decide_eq_true_eq]
  split
  · rw [List.map_cons, List.sum_cons]
  · exact (Nat.zero_add _).symm

/-- More is counted under one key alone. -/
theorem count_countMore (counts : List ((Probe × Status) × Nat)) :
    count key (countMore other n counts) = count key counts + if other = key then n else 0 := by
  induction counts with
  | nil => exact (count_cons _ _).trans (Nat.add_comm _ _)
  | cons first rest ih =>
    simp only [countMore]
    split
    · rename_i hsame
      simp only [count_cons, hsame]
      split <;> omega
    · simp only [count_cons, ih, Nat.add_assoc]

/-- What is gathered from two lists is counted together. -/
theorem count_gather (earlier later : List ((Probe × Status) × Nat)) :
    count key (gather earlier later) = count key earlier + count key later := by
  induction later generalizing earlier with
  | nil => rfl
  | cons first rest ih =>
    have hrest := ih (countMore first.1 first.2 earlier)
    rw [count_countMore, Nat.add_assoc] at hrest
    rw [count_cons]
    exact hrest

/-- Each answer that is recorded is counted. -/
theorem count_foldl_countUp (seen : List (Probe × Status)) (counts : List ((Probe × Status) × Nat)) :
    count key (seen.foldl (fun counts answer => countUp answer counts) counts)
      = count key counts + seen.count key := by
  induction seen generalizing counts with
  | nil => rfl
  | cons first rest ih =>
    rw [List.foldl_cons, ih, countUp_eq_countMore, count_countMore, List.count_cons]
    simp only [beq_iff_eq]
    omega

end Counts

end Meters

/-- What a caller gets for a step of a script agrees with what it gets where some probes were left out: it
is the same, but the recorded numbers lack the answers of those probes. -/
def StepResult.Agrees (gone : List (Probe × Status)) : StepResult → StepResult → Prop
  | numbers published, numbers published' => ∃ full less : Meters, full.Lacks gone less
      ∧ published = full.published ∧ published' = less.published
  | result, result' => result = result'

/-- What a step shows agrees with what it shows where some probes were left out. -/
structure StepRecord.Agrees (gone : List (Probe × Status)) (full less : StepRecord) : Prop where
  /-- The results agree. -/
  result : full.result.Agrees gone less.result
  /-- The snapshot is the same. -/
  snapshot : full.snapshot = less.snapshot
  /-- The same tasks have ended, in the same way. -/
  ended : full.ended = less.ended
  /-- The same tasks go on. -/
  pending : full.pending = less.pending
  /-- The same has happened. -/
  log : full.log = less.log

/-- What a step that only looks on shows. -/
structure StepRecord.Glimpse (site : Site) (step : Step) (record : StepRecord)
    (seen : List (Probe × Status)) : Prop where
  /-- At most its own answer is worth an event. -/
  log : ∀ event ∈ record.log, ∃ probe report, step.probe? site = some probe
    ∧ event = .probeUnhealthy probe report
  /-- No task has ended but its own. -/
  ended : record.ended.map Prod.fst = step.request?.toList
  /-- What the probe that it asks has answered, and no more, is counted. -/
  probe : seen.map Prod.fst = (step.probe? site).toList
  /-- The code of the answer is that of the status that is counted. -/
  status : ∀ answer ∈ seen, ∃ name response, (name, .answered .control response) ∈ record.ended
    ∧ response.status = answer.1.code answer.2

/-- A script in which some steps are marked to be left out. -/
abbrev MarkedScript := List (Step × Bool)

namespace MarkedScript

/-- All steps. -/
def whole (script : MarkedScript) : List Step := script.map Prod.fst

/-- The steps that remain. -/
def remaining (script : MarkedScript) : List Step :=
  (script.filter fun (_, leftOut) => !leftOut).map Prod.fst

/-- Which of the ids that are given out in the whole script are given out, one after the other, in the
steps that remain, and which after them. -/
def idsLeft : MarkedScript → Nat → Nat
  | [], n => n
  | (step, true) :: script, n => idsLeft script n + step.draws
  | (step, false) :: script, n =>
    if n < step.draws then n else idsLeft script (n - step.draws) + step.draws

/-- Ids are left in their order. -/
theorem strictMono_idsLeft (script : MarkedScript) : StrictMono script.idsLeft := by
  induction script with
  | nil => exact strictMono_id
  | cons cue script ih =>
    obtain ⟨step, leftOut⟩ := cue
    intro m n hless
    cases leftOut with
    | true => exact Nat.add_lt_add_right (ih hless) _
    | false =>
      simp only [idsLeft]
      split <;> split
      · exact hless
      · omega
      · omega
      · exact Nat.add_lt_add_right (ih (by omega)) _

end MarkedScript

/-- The records of a whole script beside those of the steps that remain. The former show, at each step that
was left out, no more than a glimpse; at each that remains they agree with the latter, whose numbers
lack the answers of all probes that were left out before. -/
inductive Beside (site : Site) :
    List (Probe × Status) → MarkedScript → List StepRecord → List StepRecord → Prop where
  | over {gone : List (Probe × Status)} : Beside site gone [] [] []
  | remains {gone : List (Probe × Status)} {step : Step} {script : MarkedScript} {full less : StepRecord}
      {fulls lesses : List StepRecord} (hagrees : full.Agrees gone less)
      (hlater : Beside site gone script fulls lesses) :
      Beside site gone ((step, false) :: script) (full :: fulls) (less :: lesses)
  | leftOut {gone seen : List (Probe × Status)} {step : Step} {script : MarkedScript} {full : StepRecord}
      {fulls lesses : List StepRecord} (hglimpse : full.Glimpse site step seen)
      (hlater : Beside site (gone ++ seen) script fulls lesses) :
      Beside site gone ((step, true) :: script) (full :: fulls) lesses

/-! ## What a step that only looks on does -/

namespace World

/-- A service after somebody has looked on: so many ids were given out, this has happened, these answers of
probes were counted, and these tasks came and went. -/
def glance (w : World) (ids : Nat) (events : List Event) (seen : List (Probe × Status))
    (endings : List Ending) : World :=
  { w with
    meters := { w.meters with
      probes := seen.foldl (fun counts answer => Meters.countUp answer counts) w.meters.probes }
    log := w.log ++ events
    ids := fun n => w.ids (n + ids)
    started := w.started + endings.length
    finished := w.finished ++ endings }

/-- The answer to a request that stays with the probes. -/
structure Aside (site : Site) (surface : Surface) (request : Request) (events : List Event)
    (seen : List (Probe × Status)) (answerer : Answerer) (response : Response) : Prop where
  /-- At most the answer itself is worth an event. -/
  log : ∀ event ∈ events, ∃ probe report, (site.destination surface request).probe? = some probe
    ∧ event = .probeUnhealthy probe report
  /-- What the probe has answered is counted. -/
  probe : seen.map Prod.fst = (site.destination surface request).probe?.toList
  /-- The code is that of the status that is counted. -/
  status : ∀ answer ∈ seen, answerer = .control ∧ response.status = answer.1.code answer.2

/-- A request that is given an id, or keeps its own. -/
theorem identify_glance (w : World) (surface : Surface) (request : Request) :
    (w.identify surface request).1 = w.glance (drawn surface request) [] [] [] := by
  have hnone : w.glance 0 [] [] [] = w := by
    simp only [glance, List.append_nil, List.foldl_nil, Nat.add_zero, List.length_nil]
  cases surface with
  | management => exact hnone.symm
  | primary =>
    cases hid : request.id? with
    | some given =>
      simp only [identify, drawn, hid]
      exact hnone.symm
    | none =>
      simp only [identify, drawn, hid, freshId, glance, List.append_nil, List.foldl_nil,
        List.length_nil, Nat.add_zero]

/-- An answer of a probe is counted, and is an event where something is wrong. -/
theorem answerProbe_glance (w : World) (ids : Nat) (probe : Probe) (request : Request) :
    let report := probe.report w.snapshot.phase w.checkup
    (w.glance ids [] [] []).answerProbe probe request
      = (w.glance ids (if 500 ≤ probe.code report.status then [.probeUnhealthy probe report] else [])
          [(probe, report.status)] [], report.respond probe request.bodyFormat) := by
  intro report
  have hreport : probe.report (w.glance ids [] [] []).snapshot.phase (w.glance ids [] [] []).checkup
      = report := rfl
  simp only [answerProbe, hreport]
  split
  · simp only [glance, tell, record, Meters.record, List.append_nil, List.foldl_nil, List.foldl_cons]
  · simp only [glance, record, Meters.record, List.append_nil, List.foldl_nil, List.foldl_cons]

/-- A request that stays with the probes is answered at a glance. -/
theorem receive_aside (setup : Setup) (w : World) {surface : Surface} {request : Request}
    (haside : (setup.site.destination surface request).isAside = true) :
    ∃ events seen answerer response, Aside setup.site surface request events seen answerer response
      ∧ w.receive setup surface request
        = (w.glance (drawn surface request) events seen [], .finish (.answered answerer response)) := by
  have hdestination := destination_identify w setup.site surface request
  have hidentified := identify_glance w surface request
  simp only [receive]
  generalize w.identify surface request = arrived at hdestination hidentified
  obtain ⟨v, identified⟩ := arrived
  simp only at hdestination hidentified
  subst hidentified
  simp only [hdestination]
  cases hgoes : setup.site.destination surface request with
  | control action =>
    cases action with
    | markdown =>
      rw [hgoes] at haside
      cases haside
    | probe probe =>
      simp only [answerControl, answerProbe_glance]
      refine ⟨_, _, .control, _, ⟨?_, ?_, ?_⟩, rfl⟩
      · intro event hmem
        split at hmem
        · exact ⟨probe, _, by rw [hgoes]; rfl, List.mem_singleton.1 hmem⟩
        · cases hmem
      · rw [hgoes]
        rfl
      · intro answer hmem
        rw [List.mem_singleton.1 hmem]
        refine ⟨rfl, (Response.status_leave _ _ _ _ _).trans ?_⟩
        cases identified.bodyFormat <;> rfl
  | otherMethods allowed =>
    refine ⟨[], [], .control, _, ⟨?_, ?_, ?_⟩, rfl⟩
    · exact List.forall_mem_nil _
    · rw [hgoes]
      rfl
    · exact List.forall_mem_nil _
  | gate =>
    rw [hgoes] at haside
    cases haside
  | nowhere =>
    refine ⟨[], [], .nobody, _, ⟨?_, ?_, ?_⟩, rfl⟩
    · exact List.forall_mem_nil _
    · rw [hgoes]
      rfl
    · exact List.forall_mem_nil _

/-- Without servers, nobody waits for the end of a task. -/
theorem map_noticeTask {tasks : List Task} (hstaff : ∀ task ∈ tasks, task.errand.isStaff = false) :
    tasks.map Task.noticeTask = tasks := by
  have hquiet : ∀ task ∈ tasks, task.noticeTask = task := by
    intro task hmem
    have hwatches : task.errand.watchesTasks = false := by
      have hidle := hstaff task hmem
      cases herrand : task.errand <;>
        simp_all [Errand.watchesTasks, Errand.isStaff, Errand.server?, Errand.closes]
    simp only [Task.noticeTask, hwatches, Bool.false_eq_true, if_false]
  rw [List.map_congr_left hquiet, List.map_id']

/-- A request that stays with the probes has come and gone when its step is over. -/
theorem settle_aside (setup : Setup) {w : World} (hsettled : w.Settled)
    (hstaff : ∀ task ∈ w.tasks, task.errand.isStaff = false) {surface : Surface} {request : Request}
    (haside : (setup.site.destination surface request).isAside = true) (owner : Owner) :
    ∃ events seen answerer response, Aside setup.site surface request events seen answerer response
      ∧ (w.start owner (.arrive surface request)).settle setup
        = w.glance (drawn surface request) events seen [⟨w.started, owner, .answered answerer response⟩] := by
  have hfound : Task.takeFirst Task.woken (w.start owner (.arrive surface request)).tasks
      = some (.fresh w.started owner (.arrive surface request), w.tasks ++ []) :=
    Task.takeFirst_split hsettled rfl []
  obtain ⟨events, seen, answerer, response, hanswered, hreceive⟩ :=
    receive_aside setup { w with started := w.started + 1 } haside
  refine ⟨events, seen, answerer, response, hanswered, ?_⟩
  have hdue : (w.start owner (.arrive surface request)).step? setup
      = some (w.glance (drawn surface request) events seen
        [⟨w.started, owner, .answered answerer response⟩]) := by
    have hnotice := map_noticeTask hstaff
    have hbeside : { w.start owner (.arrive surface request) with tasks := w.tasks ++ [] }
        = { w with started := w.started + 1 } := by rw [List.append_nil]; rfl
    rw [step?, hfound]
    simp only [Option.map, takeTurn, Task.fresh, turn, hbeside, hreceive]
    simp only [glance, conclude, Task.ending, hnotice, List.append_nil, List.length_nil,
      List.length_singleton, Nat.add_zero]
  have hrest : (w.glance (drawn surface request) events seen
      [⟨w.started, owner, .answered answerer response⟩]).Settled := hsettled
  rw [settle_of_step? setup hdue, hrest.settle]

/-- A glance shows what it has added. -/
theorem since_glance (w : World) (ids : Nat) (events : List Event) (seen : List (Probe × Status))
    (endings : List Ending) (result : StepResult) :
    since w (w.glance ids events seen endings) result
      = ⟨result, w.snapshot, endings.filterMap fun ending =>
          (callerId? ending.owner).map fun name => (name, ending.outcome), w.pending, events⟩ := by
  simp only [since, glance, List.drop_left]
  rfl

/-- A step that only looks on comes to no more than a glance. -/
theorem take_looksOn (setup : Setup) {w : World} (hsettled : w.Settled)
    (hstaff : ∀ task ∈ w.tasks, task.errand.isStaff = false) {step : Step}
    (hlooks : step.looksOn setup.site = true) :
    ∃ events seen endings, (w.take setup step).1 = w.glance step.draws events seen endings
      ∧ (w.take setup step).2.Glimpse setup.site step seen := by
  -- A reading leaves everything as it was.
  have hread : (w.act setup step).1 = w → step.draws = 0 → step.request? = none →
      step.probe? setup.site = none →
      ∃ events seen endings, (w.take setup step).1 = w.glance step.draws events seen endings
        ∧ (w.take setup step).2.Glimpse setup.site step seen := by
    intro hacted hdraws hrequest hprobe
    have hstays : w.glance step.draws [] [] [] = w := by
      rw [hdraws]
      simp only [glance, List.append_nil, List.foldl_nil, Nat.add_zero, List.length_nil]
    have htaken : (w.take setup step).1 = w := by
      simp only [take, hacted, hsettled.settle]
    have hrecord : (w.take setup step).2 = since w (w.glance step.draws [] [] []) (w.act setup step).2 := by
      rw [hstays]
      simp only [take, hacted, hsettled.settle]
    refine ⟨[], [], [], htaken.trans hstays.symm, ?_⟩
    rw [hrecord, since_glance]
    exact ⟨List.forall_mem_nil _, by rw [hrequest]; rfl, by rw [hprobe]; rfl, List.forall_mem_nil _⟩
  cases step with
  | request name surface asked =>
    cases asked with
    | none => cases hlooks
    | some asked =>
      obtain ⟨events, seen, answerer, response, haside, hsettles⟩ :=
        settle_aside setup hsettled hstaff hlooks (.caller name)
      refine ⟨events, seen, _, hsettles, ?_⟩
      have hrecord : (w.take setup (.request name surface (some asked))).2
          = since w ((w.start (.caller name) (.arrive surface asked)).settle setup) .nothing := rfl
      rw [hrecord, hsettles, since_glance]
      refine ⟨haside.log, rfl, haside.probe, fun answer hmem => ?_⟩
      obtain ⟨hcontrol, hstatus⟩ := haside.status answer hmem
      subst hcontrol
      exact ⟨name, response, List.mem_singleton_self _, hstatus⟩
  | report probe => exact hread rfl rfl rfl rfl
  | metrics => exact hread rfl rfl rfl rfl
  | inspect => exact hread rfl rfl rfl rfl
  | _ => cases hlooks

/-- A service without servers, between two steps of a script. -/
structure Poised (w : World) : Prop where
  /-- All tasks wait. -/
  settled : w.Settled
  /-- Tasks have different numbers. -/
  numbered : w.Numbered
  /-- There are no servers. -/
  unserved : w.Unserved

/-- A service that has just been created is poised. -/
theorem poised_initial (checkup : Option Checkup) : (initial checkup).Poised :=
  ⟨List.forall_mem_nil _, numbered_initial checkup, unserved_initial checkup⟩

section Poised

variable {w : World} (h : w.Poised) (setup : Setup)
include h

/-- A step leaves a service without servers poised for the next, and never starts fewer tasks. -/
theorem Poised.take (step : Step) :
    (w.take setup step).1.Poised ∧ w.started ≤ (w.take setup step).1.started := by
  have hkept := take_induction setup
    (P := fun v => v.Numbered ∧ v.Unserved ∧ w.started ≤ v.started)
    (fun move v after hquiet hhappening hv =>
      ⟨hhappening.numbered hv.1, hv.2.1.step hhappening hquiet, hv.2.2.trans hhappening.started_le⟩)
    (fun v timer hv => by
      refine ⟨?_, ⟨?_, hv.2.1.closed⟩, hv.2.2⟩
      · exact (renumbers_mapTasks { v with clock := max v.clock timer.deadline }
          fun task => (Task.resembles_noticeTime timer task).serial).numbered ⟨hv.1.distinct, hv.1.below⟩
      · intro task hmem
        obtain ⟨source, hsource, rfl⟩ := List.mem_map.1 hmem
        rw [noticeTime_errand]
        exact hv.2.1.staff source hsource)
    (fun v moment hv => ⟨⟨hv.1.distinct, hv.1.below⟩, ⟨hv.2.1.staff, hv.2.1.closed⟩, hv.2.2⟩)
    ⟨h.numbered, h.unserved, Nat.le_refl _⟩ step
  exact ⟨⟨settled_settle setup _, hkept.1, hkept.2.1⟩, hkept.2.2⟩

end Poised

/-- A service without a past, and with other ids to give out. -/
def present (w : World) (ids : Nat → String) : World :=
  { w with
    meters := { w.meters with probes := [] }
    log := []
    ids := ids
    finished := []
    calls := [] }

/-- A poised service that shows only what is there now is poised. -/
theorem Poised.present {w : World} (h : w.Poised) (ids : Nat → String) : (w.present ids).Poised where
  settled := h.settled
  numbered := by
    have hserials : (w.present ids).serials = w.tasks.map Task.serial := List.append_nil _
    constructor
    · rw [hserials]
      exact (List.nodup_append.1 h.numbered.distinct).1
    · intro serial hmem
      rw [hserials] at hmem
      exact h.numbered.below serial (List.mem_append_left _ hmem)
  unserved := ⟨h.unserved.staff, fun _ => rfl⟩

end World

namespace Past

/-- The same past with other ids ahead. -/
def on (past : Past) (ids : Nat → String) : Past := { past with lead := 0, ids := ids }

/-- What lies behind a service when it has come from a past to where it is and somebody has looked on. -/
def beyond (past : Past) (w : World) (events : List Event) (seen : List (Probe × Status))
    (endings : List Ending) : Past :=
  { past with
    log := past.log ++ w.log ++ events
    finished := past.finished ++ w.finished.map (Ending.renumber past.number) ++ endings
    calls := past.calls ++ w.calls
    probes := seen.foldl (fun counts answer => Meters.countUp answer counts)
      (Meters.gather past.probes w.meters.probes)
    number := fun n => if n < w.started then past.number n else past.number n + endings.length }

/-- What is counted there has been counted in the past, on the way, or at the last glance. -/
theorem count_beyond (past : Past) (w : World) (events : List Event) (seen : List (Probe × Status))
    (endings : List Ending) (key : Probe × Status) :
    Meters.count key (past.beyond w events seen endings).probes
      = Meters.count key past.probes + Meters.count key w.meters.probes + seen.count key :=
  (Meters.count_foldl_countUp seen _).trans
    (congrArg (· + seen.count key) (Meters.count_gather _ _))

/-- The numbers of tasks from some task on follow each other. -/
def Steady (past : Past) (first : Nat) : Prop := ∀ n, first ≤ n → past.number (n + 1) = past.number n + 1

/-- A steady past that has gone further is steady. -/
theorem Steady.beyond {past : Past} {w : World} (h : past.Steady w.started) (events : List Event)
    (seen : List (Probe × Status)) (endings : List Ending) :
    (past.beyond w events seen endings).Steady w.started := by
  intro n hfirst
  have hn : ¬n < w.started := by omega
  have hnext : ¬n + 1 < w.started := by omega
  simp only [Past.beyond, if_neg hn, if_neg hnext, h n hfirst]
  omega

end Past

namespace World

/-- A glance at a service that goes on from a past is one more part of its past. -/
theorem Poised.glance_resume {w : World} (h : w.Poised) (past : Past) (ids ids' : Nat → String) (n : Nat)
    (events : List Event) (seen : List (Probe × Status)) (endings : List Ending) :
    (w.resume (past.on ids)).glance n events seen endings
      = (w.present ids').resume ((past.beyond w events seen endings).on fun m => ids (m + n)) := by
  have htasks : w.tasks.map (Task.renumber past.number)
      = w.tasks.map (Task.renumber (past.beyond w events seen endings).number) := by
    refine List.map_congr_left fun task hmem => ?_
    have hbelow := h.numbered.below task.serial (List.mem_append_left _ (List.mem_map_of_mem hmem))
    simp only [Task.renumber, Past.beyond, if_pos hbelow]
  have hstarted : (past.beyond w events seen endings).number w.started
      = past.number w.started + endings.length := if_neg (Nat.lt_irrefl _)
  have htape : ∀ (past : Past) ahead own, (past.on ahead).tape own = ahead := fun _ _ _ => rfl
  simp only [resume, glance, htape, World.present]
  simp only [Past.on, htasks, hstarted, List.map_nil, List.append_nil]
  rfl

/-- Where a service has come to is one more part of its past. -/
theorem Poised.resume_present {w : World} (h : w.Poised) (past : Past) (ids ids' : Nat → String) :
    w.resume (past.on ids) = (w.present ids').resume ((past.beyond w [] [] []).on ids) := by
  have hglanced := h.glance_resume past ids ids' 0 [] [] []
  have hnone : (w.resume (past.on ids)).glance 0 [] [] [] = w.resume (past.on ids) := by
    simp only [glance, List.append_nil, List.foldl_nil, Nat.add_zero, List.length_nil]
  rw [hnone] at hglanced
  exact hglanced

/-- Apart from the recorded numbers, a caller gets the same whatever lies behind the service. -/
theorem agrees_resultAfter (setup : Setup) (w : World) {full less : Past} {gone : List (Probe × Status)}
    (hcounts : ∀ key, Meters.count key full.probes = Meters.count key less.probes + gone.count key)
    (step : Step) :
    (w.resultAfter setup full step).Agrees gone (w.resultAfter setup less step) := by
  cases step with
  | metrics =>
    refine ⟨(w.resume full).meters, (w.resume less).meters, ⟨rfl, fun key => ?_⟩, rfl, rfl⟩
    have hfull : Meters.count key (w.resume full).meters.probes
        = Meters.count key full.probes + Meters.count key w.meters.probes := Meters.count_gather _ _
    have hless : Meters.count key (w.resume less).meters.probes
        = Meters.count key less.probes + Meters.count key w.meters.probes := Meters.count_gather _ _
    have hkey := hcounts key
    omega
  | advance target =>
    simp only [resultAfter, act]
    split <;> rfl
  | enter name =>
    simp only [resultAfter, act]
    split <;> rfl
  | request name surface asked => cases asked <;> rfl
  | health checkup =>
    simp only [resultAfter, act]
    split <;> rfl
  | _ => rfl

/-- A service that goes on from a past with some ids ahead gives the first of them out as it would without the
past. -/
theorem resume_on_ahead (w : World) (past : Past) {ids : Nat → String} (later : Nat → String) {n : Nat}
    (hfirst : ∀ m, m < n → ids m = w.ids m) (hlater : ∀ m, ids (m + n) = later m) :
    w.resume (past.on ids) = w.resume ((past.on later).ahead n) := by
  have htape : ((past.on later).ahead n).tape w.ids = ids := by
    funext m
    have hlead : ((past.on later).ahead n).lead = n := Nat.zero_add n
    simp only [Past.tape, hlead]
    split
    · rename_i hless
      exact (hfirst m hless).symm
    · have hm := hlater (m - n)
      rw [Nat.sub_add_cancel (by omega)] at hm
      exact hm.symm
  have hnone : (past.on ids).tape w.ids = ids := rfl
  simp only [resume, htape, hnone]
  rfl

/-- A step comes to the same from any past, and what is left of the ids is then ahead. -/
theorem Poised.take_on {w : World} (h : w.Poised) (setup : Setup) {past : Past}
    (hsteady : past.Steady w.started) (step : Step) (ids later : Nat → String)
    (hfirst : ∀ m, m < step.draws → ids m = w.ids m) (hlater : ∀ m, ids (m + step.draws) = later m) :
    (w.resume (past.on ids)).take setup step
      = ((w.take setup step).1.resume (past.on later),
        since w (w.take setup step).1 (w.resultAfter setup (past.on later) step)) := by
  rw [resume_on_ahead w past later hfirst hlater]
  exact h.settled.take_resume setup (past.on later) (hsteady _ (Nat.le_refl _)) step

/-- A step that only looks on, taken from a past, is one more part of the past. -/
theorem Poised.take_looksOn_on {w : World} (h : w.Poised) (setup : Setup) (past : Past) {step : Step}
    (hlooks : step.looksOn setup.site = true) (ids : Nat → String) :
    ∃ events seen endings, ((w.resume (past.on ids)).take setup step).2.Glimpse setup.site step seen
      ∧ ∀ ids', ((w.resume (past.on ids)).take setup step).1 = (w.present ids').resume
        ((past.beyond w events seen endings).on fun m => ids (m + step.draws)) := by
  have hstaff : ∀ task ∈ (w.resume (past.on ids)).tasks, task.errand.isStaff = false := by
    intro task hmem
    obtain ⟨source, hsource, rfl⟩ := List.mem_map.1 hmem
    exact h.unserved.staff source hsource
  obtain ⟨events, seen, endings, htaken, hglimpse⟩ := take_looksOn setup
    (h.settled.resume (past.on ids)) hstaff hlooks
  refine ⟨events, seen, endings, hglimpse, fun ids' => ?_⟩
  rw [htaken, h.glance_resume past ids ids']

/-- A poised service with other ids to give out is poised. -/
theorem Poised.withIds {w : World} (h : w.Poised) (ids : Nat → String) : World.Poised { w with ids := ids } :=
  ⟨h.settled, ⟨h.numbered.distinct, h.numbered.below⟩, ⟨h.unserved.staff, h.unserved.closed⟩⟩

/-- A script is performed step by step. -/
theorem perform_cons (setup : Setup) (w : World) (step : Step) (steps : List Step) :
    w.perform setup (step :: steps) = (w.take setup step).2 :: (w.take setup step).1.perform setup steps := rfl

/-- What a service shows of a script, when it goes on from a past, stands beside what it shows of the steps
that remain, when it goes on from a past that lacks some answers of probes. -/
theorem Poised.beside (setup : Setup) {script : MarkedScript}
    (hlooks : ∀ step, (step, true) ∈ script → step.looksOn setup.site = true) {w : World} (h : w.Poised)
    {full less : Past} (hfull : full.Steady w.started) (hless : less.Steady w.started)
    {gone : List (Probe × Status)}
    (hcounts : ∀ key, Meters.count key full.probes = Meters.count key less.probes + gone.count key) :
    Beside setup.site gone script ((w.resume (full.on w.ids)).perform setup script.whole)
      ((w.resume (less.on (w.ids ∘ script.idsLeft))).perform setup script.remaining) := by
  induction script generalizing w full less gone with
  | nil => exact .over
  | cons cue script ih =>
    obtain ⟨step, leftOut⟩ := cue
    have hothers : ∀ step, (step, true) ∈ script → step.looksOn setup.site = true := fun step hmem =>
      hlooks step (List.mem_cons_of_mem _ hmem)
    let later := fun n => w.ids (n + step.draws)
    cases leftOut with
    | true =>
      -- The whole script takes the step and has one more part of its past, the other stays where it is.
      obtain ⟨events, seen, endings, hglimpse, htaken⟩ :=
        h.take_looksOn_on setup full (hlooks step List.mem_cons_self) w.ids
      have hseen : ∀ key, Meters.count key (full.beyond w events seen endings).probes
          = Meters.count key (less.beyond w [] [] []).probes + (gone ++ seen).count key := by
        intro key
        have hkey := hcounts key
        rw [Past.count_beyond, Past.count_beyond, List.count_append, List.count_nil]
        omega
      have hrest := ih hothers (h.present later) (hfull.beyond events seen endings)
        (hless.beyond [] [] []) hseen
      have hwhole : MarkedScript.whole ((step, true) :: script) = step :: MarkedScript.whole script := rfl
      rw [h.resume_present less _ later, hwhole, perform_cons, htaken later]
      exact .leftOut hglimpse hrest
    | false =>
      -- Both take the step, from different pasts.
      obtain ⟨hpoised, hstarted⟩ := h.take setup step
      have htaken := h.take_on setup hfull step w.ids later (fun _ _ => rfl) fun _ => rfl
      have hremains := h.take_on setup hless step
        (w.ids ∘ MarkedScript.idsLeft ((step, false) :: script)) (later ∘ MarkedScript.idsLeft script)
        (fun m hm => by simp only [Function.comp, MarkedScript.idsLeft, if_pos hm])
        (fun m => by
          have hm : ¬m + step.draws < step.draws := by omega
          simp only [Function.comp, MarkedScript.idsLeft, if_neg hm, Nat.add_sub_cancel, later])
      have hrest := ih hothers (hpoised.withIds later) (fun n hn => hfull n (hstarted.trans hn))
        (fun n hn => hless n (hstarted.trans hn)) hcounts
      have hwhole : MarkedScript.whole ((step, false) :: script) = step :: MarkedScript.whole script := rfl
      have hremaining : MarkedScript.remaining ((step, false) :: script)
          = step :: MarkedScript.remaining script := rfl
      rw [hwhole, hremaining, perform_cons, perform_cons, htaken, hremains]
      exact .remains ⟨agrees_resultAfter setup w hcounts step, rfl, rfl, rfl, rfl⟩ hrest

end World

/-- Probes are invisible to all else. Leave out of a script, at whichever places, steps that only look on:
requests of any method and with any headers that stay with the probes, on the primary surface or on their own,
and readings of what the service knows. The steps that remain show the same as in the whole script, their
results and answers, the snapshot, the tasks that end and those that go on, and all events, but for recorded
numbers, which lack the answers of the probes that were left out. The ids that are given out to them are those
that they were given in the whole script, and are the only trace of the steps between. -/
theorem probes_unseen (setup : Setup) (checkup : Option Checkup) (ids : Nat → String) (script : MarkedScript)
    (hlooks : ∀ step, (step, true) ∈ script → step.looksOn setup.site = true) :
    StrictMono script.idsLeft ∧ Beside setup.site [] script
      (World.perform setup { World.initial checkup with ids := ids } script.whole)
      (World.perform setup { World.initial checkup with ids := ids ∘ script.idsLeft } script.remaining) := by
  have hpoised := (World.poised_initial checkup).withIds ids
  have hsteady : Past.Steady ⟨[], [], [], [], id, 0, ids⟩ 0 := fun _ _ => rfl
  exact ⟨script.strictMono_idsLeft, hpoised.beside setup hlooks hsteady hsteady fun _ => rfl⟩

/-- A service with probes on its primary surface. -/
def watched : Setup :=
  ⟨⟨(RouteTable.build (probeRoutes "/health" "/ready")).toOption.getD .empty, false, .sample⟩, 1000, 0,
    .onNotice⟩

/-- While a request is served, and while the service drains, somebody asks whether it is ready; only the request
and the drain are to remain, and the numbers afterwards. -/
def glances : MarkedScript := [
  (.advance .opened, false),
  (.advance .listening, false),
  (.request "a" .primary (some ⟨.standard .get, ⟨"/work", some "delay=20ms"⟩, []⟩), false),
  (.request "b" .primary (some ⟨.standard .head, ⟨"/ready", none⟩, [("accept", "text/plain")]⟩), true),
  (.drain "c", false),
  (.beginDrain .manualStop, false),
  (.request "d" .primary (some ⟨.standard .get, ⟨"/ready", none⟩, []⟩), true),
  (.request "e" .primary (some ⟨.standard .post, ⟨"/health", none⟩, []⟩), true),
  (.metrics, true),
  (.sleep 20, false),
  (.metrics, false)]

/-- The drain remains as it was, and the numbers lack two answers. -/
theorem probes_unseen_draining :
    (∀ step, (step, true) ∈ glances → step.looksOn watched.site = true)
      ∧ StrictMono glances.idsLeft ∧ Beside watched.site [] glances
        (World.perform watched { World.initial none with ids := distinctId } glances.whole)
        (World.perform watched { World.initial none with ids := distinctId ∘ glances.idsLeft }
          glances.remaining) := by
  have hmarked : (glances.all fun (step, leftOut) => !leftOut || step.looksOn watched.site) = true := by
    decide +kernel
  have hlooks : ∀ step, (step, true) ∈ glances → step.looksOn watched.site = true := fun step hmem =>
    List.all_eq_true.1 hmarked _ hmem
  exact ⟨hlooks, probes_unseen watched none distinctId glances hlooks⟩

end GracefulService
