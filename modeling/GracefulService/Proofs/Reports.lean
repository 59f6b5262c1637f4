import GracefulService.Proofs.Probes

/-!
# Reports that clients got

The reports that go out during a run are those that clients were answered with: each of them answers one request
for its probe, no request gets two, and no request for a probe goes without.
-/

namespace GracefulService

open Http

namespace World

section Reports

variable {setup : Setup} {w : World}

/-- A report goes out with the turn of a request that has reached a probe. -/
theorem runs_of_reportIn? {move : Move} {sent : SentReport} (h : w.reportIn? setup move = some sent) :
    ∃ owner surface request, w.Runs sent.serial owner (.arrive surface request)
      ∧ move.isTurnOf sent.serial = true
      ∧ setup.site.destination surface request = .control (.probe sent.probe) := by
  have hturn : ∀ serial, ((Task.takeFirst (fun task => decide (task.serial = serial)) w.tasks).bind
      fun found => w.reportOf? setup found.1) = some sent →
      ∃ owner surface request, w.Runs sent.serial owner (.arrive surface request)
        ∧ sent.serial = serial
        ∧ setup.site.destination surface request = .control (.probe sent.probe) := by
    intro serial hsent
    obtain ⟨⟨task, others⟩, hfound, hgiven⟩ := Option.bind_eq_some_iff.1 hsent
    obtain ⟨front, back, hsplit, rfl, hserial, -⟩ := Task.takeFirst_eq_some hfound
    have hreport : w.reportOf? setup task = some sent := hgiven
    unfold reportOf? at hreport
    split at hreport
    · rename_i surface request herrand
      obtain ⟨probe, hprobe, rfl⟩ := Option.map_eq_some_iff.1 hreport
      have hdestination : setup.site.destination surface request = .control (.probe probe) := by
        unfold Destination.probe? at hprobe
        split at hprobe
        · rename_i other hsame
          cases hprobe
          exact hsame
        · cases hprobe
      exact ⟨task.owner, surface, request, ⟨task, mem_of_split hsplit, rfl, rfl, herrand⟩,
        of_decide_eq_true hserial, hdestination⟩
    · cases hreport
  cases move with
  | turn serial =>
    obtain ⟨owner, surface, request, hruns, hserial, hdestination⟩ := hturn serial h
    exact ⟨owner, surface, request, hruns, decide_eq_true hserial.symm, hdestination⟩
  | preempt serial =>
    obtain ⟨owner, surface, request, hruns, hserial, hdestination⟩ := hturn serial h
    exact ⟨owner, surface, request, hruns, decide_eq_true hserial.symm, hdestination⟩
  | _ => cases h

/-- The turn of a request that has reached a probe sends its report. -/
theorem Numbered.reportIn?_of_runs (hnumbered : w.Numbered) {serial : Nat} {owner : Owner}
    {surface : Surface} {request : Request} (hruns : w.Runs serial owner (.arrive surface request))
    {move : Move} (hmove : move.isTurnOf serial = true) {probe : Probe}
    (hdestination : setup.site.destination surface request = .control (.probe probe)) :
    w.reportIn? setup move = some ⟨serial, probe, probe.report w.snapshot.phase w.checkup⟩ := by
  obtain ⟨task, hmem, rfl, rfl, herrand⟩ := hruns
  obtain ⟨front, back, hsplit⟩ := List.append_of_mem hmem
  have hfound := hnumbered.takeFirst_serial hsplit
  have hreport : w.reportOf? setup task
      = some ⟨task.serial, probe, probe.report w.snapshot.phase w.checkup⟩ := by
    simp only [reportOf?, herrand, reportTo?, hdestination, Destination.probe?, Option.map_some]
  cases move with
  | turn other =>
    rw [of_decide_eq_true hmove]
    simp only [reportIn?, hfound, Option.bind_some, hreport]
  | preempt other =>
    rw [of_decide_eq_true hmove]
    simp only [reportIn?, hfound, Option.bind_some, hreport]
  | _ => cases hmove

/-- The reports of a run are those that go out with its moves. -/
theorem mem_reports {moves : List Move} {sent : SentReport} : sent ∈ w.reports setup moves
    ↔ ∃ before move later, moves = before ++ move :: later
      ∧ (w.run setup before).reportIn? setup move = some sent := by
  induction moves generalizing w with
  | nil =>
    constructor
    · intro hmem
      cases hmem
    · rintro ⟨before, move, later, hmoves, -⟩
      simp at hmoves
  | cons first rest ih =>
    rw [reports, List.mem_append, Option.mem_toList, ih]
    constructor
    · rintro (hfirst | ⟨before, move, later, rfl, hsent⟩)
      · exact ⟨[], first, rest, rfl, hfirst⟩
      · exact ⟨first :: before, move, later, rfl, hsent⟩
    · rintro ⟨before, move, later, hmoves, hsent⟩
      cases before with
      | nil =>
        obtain ⟨rfl, rfl⟩ := List.cons.inj hmoves
        exact Or.inl hsent
      | cons _ before =>
        obtain ⟨rfl, rfl⟩ := List.cons.inj hmoves
        exact Or.inr ⟨before, move, later, rfl, hsent⟩

/-- The reports that count are those that clients were answered with during a run. -/
structure Served (setup : Setup) (w : World) (moves : List Move) : Prop where
  /-- A client was answered with each of them, on a request for that probe. -/
  answered : ∀ sent ∈ w.reports setup moves, ∃ owner surface request,
    setup.site.destination surface request = .control (.probe sent.probe)
      ∧ ⟨sent.serial, owner, .answered .control ((sent.report.respond sent.probe
          request.bodyFormat).leave surface request true none)⟩ ∈ (w.run setup moves).finished
  /-- No two of them answered one request. -/
  once : ((w.reports setup moves).map SentReport.serial).Nodup
  /-- None is missing that answered a request for a probe. -/
  all : ∀ before move later serial owner surface request probe, moves = before ++ move :: later →
    (w.run setup before).Runs serial owner (.arrive surface request) → move.isTurnOf serial = true →
    setup.site.destination surface request = .control (.probe probe) →
    ∃ sent ∈ w.reports setup moves, sent.serial = serial ∧ sent.probe = probe
      ∧ sent.report = probe.report (w.run setup before).snapshot.phase (w.run setup before).checkup

/-- A report that goes out in a move answers its request in that move. -/
theorem Numbered.answered_of_reportIn? (hnumbered : w.Numbered) {move : Move} {sent : SentReport}
    (hsent : w.reportIn? setup move = some sent) : ∃ owner surface request,
    setup.site.destination surface request = .control (.probe sent.probe)
      ∧ ⟨sent.serial, owner, .answered .control ((sent.report.respond sent.probe
          request.bodyFormat).leave surface request true none)⟩ ∈ (w.move setup move).finished := by
  obtain ⟨owner, surface, request, hruns, hmove, hdestination⟩ := runs_of_reportIn? hsent
  have hidentified : setup.site.destination surface (w.identify surface request).2
      = .control (.probe sent.probe) := (destination_identify w setup.site surface request).trans hdestination
  have hreport : sent.report = sent.probe.report w.snapshot.phase w.checkup := by
    have hsame := hnumbered.reportIn?_of_runs hruns hmove hdestination
    rw [hsent] at hsame
    exact congrArg SentReport.report (Option.some.inj hsame)
  have hended := (move_probe hnumbered hruns hmove rfl hidentified).2
  rw [← hreport] at hended
  exact ⟨owner, surface, _, hidentified, hended⟩

/-- A request that has been answered gets no report any more. -/
theorem Numbered.serial_ne_of_mem_reports (hnumbered : w.Numbered) {moves : List Move}
    {sent : SentReport} (hsent : sent ∈ w.reports setup moves) {ending : Ending}
    (hended : ending ∈ w.finished) : sent.serial ≠ ending.serial := by
  obtain ⟨before, move, later, rfl, hin⟩ := mem_reports.1 hsent
  obtain ⟨owner, surface, request, ⟨task, hmem, hserial, -, -⟩, -, -⟩ := runs_of_reportIn? hin
  rw [← hserial]
  exact (numbered_run hnumbered before).not_over hmem (finished_run setup hended before)

/-- No request is sent two reports. -/
theorem Numbered.nodup_reports (hnumbered : w.Numbered) (moves : List Move) :
    ((w.reports setup moves).map SentReport.serial).Nodup := by
  induction moves generalizing w with
  | nil => exact List.nodup_nil
  | cons move later ih =>
    have hafter : (w.move setup move).Numbered := (move_happens setup w move).numbered hnumbered
    have hlater := ih hafter
    rw [reports]
    cases hin : w.reportIn? setup move with
    | none => exact hlater
    | some sent =>
      obtain ⟨owner, surface, request, -, hended⟩ := hnumbered.answered_of_reportIn? hin
      refine List.nodup_cons.2 ⟨?_, hlater⟩
      intro hmem
      obtain ⟨other, hother, hsame⟩ := List.mem_map.1 hmem
      exact hafter.serial_ne_of_mem_reports hother hended hsame

/-- In every run the reports that count are those that clients were answered with. -/
theorem Numbered.served (hnumbered : w.Numbered) (moves : List Move) : w.Served setup moves where
  answered := by
    intro sent hsent
    obtain ⟨before, move, later, rfl, hin⟩ := mem_reports.1 hsent
    obtain ⟨owner, surface, request, hdestination, hended⟩ :=
      (numbered_run hnumbered before).answered_of_reportIn? hin
    have hkept := finished_run setup hended later
    rw [run_append]
    exact ⟨owner, surface, request, hdestination, hkept⟩
  once := hnumbered.nodup_reports moves
  all := by
    rintro before move later serial owner surface request probe rfl hruns hmove hdestination
    have hin := (numbered_run hnumbered before).reportIn?_of_runs hruns hmove hdestination
    exact ⟨_, mem_reports.2 ⟨before, move, later, rfl, hin⟩, rfl, rfl, rfl⟩

end Reports

end World

end GracefulService
