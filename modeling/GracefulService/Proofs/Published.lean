import GracefulService.Proofs.Polls
import Mathlib.Algebra.BigOperators.Group.List.Basic
import Mathlib.Algebra.GroupWithZero.Nat

/-!
# What the meters publish

The recorded numbers are published under their names, each at most once: what is read under a name is what was
recorded for it. The answers of probes are counted one by one, each under its own probe and status.
-/

namespace GracefulService

namespace Meters

/-- The number that is published under a name, once one has been recorded. -/
def shown (meters : Meters) (name : String) : Option Nat := meters.published.lookup name

/-- The name under which the answers of a probe with a status are counted. -/
def probeCounter (key : Probe × Status) : String :=
  "scaffold_probe_requests_total\x7bprobe=" ++ key.1.name ++ ",status=" ++ key.2.name ++ "\x7d"

/-- The other names under which numbers are published. -/
def plainNames : List String :=
  ["scaffold_in_flight_requests", "scaffold_requests_total\x7boutcome=accepted\x7d",
    "scaffold_requests_total\x7boutcome=rejected\x7d", "scaffold_state"]

/-- Every probe and status has a counter of its own. -/
theorem probeCounter_injective : Function.Injective probeCounter := by
  rintro ⟨probe, status⟩ ⟨probe', status'⟩ hsame
  cases probe <;> cases status <;> cases probe' <;> cases status' <;>
    first | rfl | exact absurd hsame (by decide)

/-- No counter of a probe has the name of another number. -/
theorem probeCounter_not_plain (key : Probe × Status) : probeCounter key ∉ plainNames := by
  obtain ⟨probe, status⟩ := key
  cases probe <;> cases status <;> decide

/-- The counts of answers by name. -/
def answers (counts : List ((Probe × Status) × Nat)) : List (String × Nat) :=
  counts.map fun (key, n) => (probeCounter key, n)

section Lookup

/-- A key is looked up in the first entry and then in the rest. -/
theorem lookup_cons_eq {α : Type} [BEq α] [LawfulBEq α] [DecidableEq α] (entry : α × Nat)
    (rest : List (α × Nat)) (key : α) :
    (entry :: rest).lookup key = if key = entry.1 then some entry.2 else rest.lookup key := by
  rw [List.lookup_cons]
  split
  · rename_i hsame
    rw [if_pos (eq_of_beq hsame)]
  · rename_i hother
    rw [if_neg (ne_of_beq_false hother)]

variable {name other : String}

/-- A gauge is found under its name once it was set. -/
theorem lookup_gauge (gauge : Option Nat) :
    (gauge.toList.map fun n => (name, n)).lookup other = if other = name then gauge else none := by
  cases gauge with
  | none => simp
  | some n => exact lookup_cons_eq (name, n) [] other

/-- A counter is found under its name once it has counted. -/
theorem lookup_counted (n : Nat) :
    (counted name n).lookup other = if other = name ∧ n ≠ 0 then some n else none := by
  unfold counted
  split
  · rename_i hzero
    simp [hzero]
  · rename_i hpositive
    simp [lookup_cons_eq, hpositive]

/-- No other number is found among the answers of probes. -/
theorem lookup_answers_plain (hname : name ∈ plainNames) (counts : List ((Probe × Status) × Nat)) :
    (answers counts).lookup name = none := by
  rw [List.lookup_eq_none_iff]
  intro entry hmem
  obtain ⟨⟨key, n⟩, -, rfl⟩ := List.mem_map.1 hmem
  refine bne_iff_ne.2 ?_
  rintro rfl
  exact probeCounter_not_plain key hname

/-- An answer of a probe is found under the name of its counter. -/
theorem lookup_answers (key : Probe × Status) (counts : List ((Probe × Status) × Nat)) :
    (answers counts).lookup (probeCounter key) = counts.lookup key := by
  induction counts with
  | nil => rfl
  | cons first rest ih =>
    have hcons : answers (first :: rest) = (probeCounter first.1, first.2) :: answers rest := rfl
    rw [hcons, lookup_cons_eq, lookup_cons_eq, ih]
    simp only [probeCounter_injective.eq_iff]

end Lookup

/-! ## Numbers by name -/

section Shown

variable (meters : Meters)

/-- What is shown under a name, piece by piece of what is published. -/
theorem shown_eq (name : String) : meters.shown name
    = ((((if name = "scaffold_in_flight_requests" then meters.inFlight else none).or
        ((answers meters.probes).lookup name)).or
        (if name = "scaffold_requests_total\x7boutcome=accepted\x7d" ∧ meters.accepted ≠ 0
          then some meters.accepted else none)).or
        (if name = "scaffold_requests_total\x7boutcome=rejected\x7d" ∧ meters.rejected ≠ 0
          then some meters.rejected else none)).or
        (if name = "scaffold_state" then meters.phase else none) := by
  have hpublished : meters.published
      = (meters.inFlight.toList.map fun n => ("scaffold_in_flight_requests", n))
        ++ answers meters.probes
        ++ counted "scaffold_requests_total\x7boutcome=accepted\x7d" meters.accepted
        ++ counted "scaffold_requests_total\x7boutcome=rejected\x7d" meters.rejected
        ++ (meters.phase.toList.map fun n => ("scaffold_state", n)) := rfl
  rw [shown, hpublished]
  simp only [List.lookup_append, lookup_gauge, lookup_counted]

/-- The requests in flight are shown as they are recorded. -/
theorem shown_inFlight : meters.shown "scaffold_in_flight_requests" = meters.inFlight := by
  rw [shown_eq, lookup_answers_plain (by decide)]
  simp

/-- The accepted requests are shown as they are recorded. -/
theorem shown_accepted :
    (meters.shown "scaffold_requests_total\x7boutcome=accepted\x7d").getD 0 = meters.accepted := by
  rw [shown_eq, lookup_answers_plain (by decide)]
  by_cases hzero : meters.accepted = 0 <;> simp [hzero]

/-- The rejected requests are shown as they are recorded. -/
theorem shown_rejected :
    (meters.shown "scaffold_requests_total\x7boutcome=rejected\x7d").getD 0 = meters.rejected := by
  rw [shown_eq, lookup_answers_plain (by decide)]
  by_cases hzero : meters.rejected = 0 <;> simp [hzero]

/-- The phase is shown as it is recorded. -/
theorem shown_phase : meters.shown "scaffold_state" = meters.phase := by
  rw [shown_eq, lookup_answers_plain (by decide)]
  simp

/-- The answers of a probe are shown as they are recorded. -/
theorem shown_probe (key : Probe × Status) :
    meters.shown (probeCounter key) = meters.probes.lookup key := by
  have hplain := probeCounter_not_plain key
  simp only [plainNames, List.mem_cons, List.not_mem_nil, or_false, not_or] at hplain
  rw [shown_eq, lookup_answers]
  simp [hplain]

end Shown

/-! ## Answers of probes -/

/-- One more is counted under its key and under no other. -/
theorem lookup_countUp (key other : Probe × Status) (counts : List ((Probe × Status) × Nat)) :
    ((countUp key counts).lookup other).getD 0
      = (counts.lookup other).getD 0 + if key = other then 1 else 0 := by
  induction counts with
  | nil =>
    simp only [countUp, lookup_cons_eq, List.lookup_nil, Option.getD_none, eq_comm (a := other)]
    split <;> rfl
  | cons first rest ih =>
    unfold countUp
    split
    · rename_i hfirst
      rw [lookup_cons_eq, lookup_cons_eq, ← hfirst]
      by_cases hother : other = first.1
      · rw [if_pos hother, if_pos hother, if_pos hother.symm]
        rfl
      · rw [if_neg hother, if_neg hother, if_neg (Ne.symm hother)]
        rfl
    · rename_i hfirst
      rw [lookup_cons_eq, lookup_cons_eq]
      split
      · rename_i hother
        have hkey : key ≠ other := fun h => hfirst (hother.symm.trans h.symm)
        rw [if_neg hkey]
        rfl
      · exact ih

/-- Each report is counted once, under its own probe and status. -/
theorem lookup_countReports (sent : List SentReport) (counts : List ((Probe × Status) × Nat))
    (key : Probe × Status) : ((World.countReports sent counts).lookup key).getD 0
      = (counts.lookup key).getD 0 + sent.countP fun report => report.key = key := by
  induction sent generalizing counts with
  | nil => rfl
  | cons first rest ih =>
    have hrest := ih (countUp first.key counts)
    rw [lookup_countUp] at hrest
    simp only [List.countP_cons, decide_eq_true_eq]
    exact hrest.trans (by omega)

/-- All labels under which answers of probes are counted. -/
def probeKeys : List (Probe × Status) :=
  [(.liveness, .ok), (.liveness, .notReady), (.liveness, .failed), (.readiness, .ok),
    (.readiness, .notReady), (.readiness, .failed)]

/-- Each report has one of the labels. -/
theorem sum_countP_probeKeys (sent : List SentReport) :
    (probeKeys.map fun key => sent.countP fun report => report.key = key).sum = sent.length := by
  induction sent with
  | nil => rfl
  | cons first rest ih =>
    have hone : (probeKeys.map fun key => if first.key = key then 1 else 0).sum = 1 := by
      obtain ⟨serial, probe, status, reason⟩ := first
      cases probe <;> cases status <;> rfl
    simp only [List.countP_cons, decide_eq_true_eq, List.sum_map_add, List.length_cons]
    rw [ih, hone]

end Meters

end GracefulService
