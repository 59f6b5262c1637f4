import GracefulService.Proofs.Lifecycle
import Mathlib.Data.List.Nodup

/-!
# Publishing the phase

Whoever enters a phase publishes its number afterwards. The change of the snapshot is one step, the publication
another one, and in between others may act: a drain that the beginning of the shutdown wakes can stop the
service and publish that before the beginning of the shutdown is published. So the published number is that of
the phase published last, which is the present one where everybody publishes a phase before the next one is
entered, as all do who act one after the other. Where a publication is overtaken, the number is wrong, and
stays wrong once the service has stopped. The requests in flight are published within the change itself, and
cannot be overtaken.
-/

namespace GracefulService

/-- The phase that a reading publishes. -/
def Reading.phase? : Reading → Option Phase
  | .phase entered => some entered
  | _ => none

/-- The phase that a deed enters, which is yet to be published. -/
def Deed.enters (s : Snapshot) (deed : Deed) : List Phase := (deed.readings s).filterMap Reading.phase?

/-- A service whose callers publish the phases that they have entered. -/
structure Bulletin where
  /-- What all parts know about the state. -/
  snapshot : Snapshot
  /-- The phases that were entered and are not yet published. -/
  pending : List Phase
  /-- The phases that were published, the latest one last. -/
  published : List Phase
deriving Repr

/-- What can happen next. -/
inductive BulletinMove where
  /-- Somebody does a deed. -/
  | change (deed : Deed)
  /-- Whoever has entered a phase publishes it. -/
  | publish (phase : Phase)
deriving DecidableEq, Repr

namespace Bulletin

/-- A service that has just been created. -/
def initial : Bulletin := ⟨.initial, [], []⟩

/-- The published number. -/
def gauge (b : Bulletin) : Option Nat := b.published.getLast?.map Phase.number

/-- A move. Only what is pending can be published. -/
def move (b : Bulletin) : BulletinMove → Bulletin
  | .change deed =>
    { b with
      snapshot := deed.result b.snapshot
      pending := b.pending ++ deed.enters b.snapshot }
  | .publish phase =>
    if phase ∈ b.pending then
      { b with
        pending := b.pending.erase phase
        published := b.published ++ [phase] }
    else b

/-- One move after the other. -/
def run (b : Bulletin) (moves : List BulletinMove) : Bulletin := moves.foldl move b

/-- A deed enters no phase, or the one in which it leaves the service. -/
theorem enters_cases (s : Snapshot) (deed : Deed) :
    (deed.enters s = [] ∧ (deed.result s).phase = s.phase)
      ∨ deed.enters s = [(deed.result s).phase] ∧ s.phase.Follows (deed.result s).phase := by
  cases deed with
  | nothing => exact Or.inl ⟨rfl, rfl⟩
  | advance target =>
    cases hcan : s.phase.canAdvance target with
    | true =>
      right
      have hfollows := (Phase.canAdvance_iff_follows _ _).1 hcan
      simpa [Deed.enters, Deed.readings, Deed.result, Deed.change, Snapshot.advance, hcan,
        Reading.phase?] using hfollows
    | false =>
      left
      simp [Deed.enters, Deed.readings, Deed.result, Deed.change, Snapshot.advance, hcan]
  | enter =>
    left
    cases hchange : Deed.enter.change s <;>
      simp [Deed.enters, Deed.readings, hchange, Reading.phase?, Deed.result_enter] <;> split <;> rfl
  | leave =>
    left
    cases hchange : Deed.leave.change s <;>
      simp [Deed.enters, Deed.readings, hchange, Reading.phase?, Deed.result_leave]
  | beginDrain cause =>
    cases hcan : s.phase.canAdvance .draining with
    | true =>
      right
      have hfollows := (Phase.canAdvance_iff_follows _ _).1 hcan
      simpa [Deed.enters, Deed.readings, Deed.result, Deed.change, Snapshot.beginDrain, hcan,
        Reading.phase?] using hfollows
    | false =>
      left
      simp [Deed.enters, Deed.readings, Deed.result, Deed.change, Snapshot.beginDrain, hcan]
  | abandon =>
    left
    refine ⟨rfl, ?_⟩
    rw [Deed.result_abandon]
    split <;> rfl

/-! ## Each phase is published once -/

/-- The phases that were entered, published or not, are those that lead to the present one, each of them once. -/
structure Orderly (b : Bulletin) : Prop where
  /-- No phase is published or pending twice. -/
  nodup : (b.published ++ b.pending).Nodup
  /-- A phase that is published or pending was entered. -/
  entered : ∀ phase ∈ b.published ++ b.pending,
    Phase.created.number < phase.number ∧ phase.number ≤ b.snapshot.phase.number
  /-- The present one is published or pending, once one was entered. -/
  present : b.snapshot.phase ≠ .created → b.snapshot.phase ∈ b.published ++ b.pending

/-- A bulletin that has just been set up is in order. -/
theorem orderly_initial : initial.Orderly := ⟨List.nodup_nil, List.forall_mem_nil _, fun h => absurd rfl h⟩

/-- Whatever move comes, a bulletin stays in order. -/
theorem Orderly.move {b : Bulletin} (h : b.Orderly) (move : BulletinMove) : (b.move move).Orderly := by
  cases move with
  | change deed =>
    rcases enters_cases b.snapshot deed with ⟨hnone, hphase⟩ | ⟨hone, hfollows⟩
    · have hsame : b.move (.change deed) = { b with snapshot := deed.result b.snapshot } := by
        simp only [Bulletin.move, hnone, List.append_nil]
      rw [hsame]
      refine ⟨h.nodup, ?_, ?_⟩
      · rw [hphase]
        exact h.entered
      · rw [hphase]
        exact h.present
    · have hlonger : b.move (.change deed) = { b with
          snapshot := deed.result b.snapshot
          pending := b.pending ++ [(deed.result b.snapshot).phase] } := by
        simp only [Bulletin.move, hone]
      have hless := hfollows.number
      have hbelow : ∀ phase ∈ b.published ++ b.pending, phase.number < (deed.result b.snapshot).phase.number :=
        fun phase hmem => Nat.lt_of_le_of_lt (h.entered phase hmem).2 hless
      have hnew : (deed.result b.snapshot).phase ∉ b.published ++ b.pending :=
        fun hmem => Nat.lt_irrefl _ (hbelow _ hmem)
      rw [hlonger]
      constructor
      · rw [← List.append_assoc, List.nodup_append]
        refine ⟨h.nodup, List.nodup_singleton _, ?_⟩
        rintro phase hmem _ hlast rfl
        exact hnew (List.mem_singleton.1 hlast ▸ hmem)
      · intro phase hmem
        rw [← List.append_assoc, List.mem_append, List.mem_singleton] at hmem
        rcases hmem with hold | rfl
        · exact ⟨(h.entered phase hold).1, Nat.le_of_lt (hbelow phase hold)⟩
        · exact ⟨Nat.lt_of_le_of_lt (Nat.zero_le _) hless, Nat.le_refl _⟩
      · intro _
        rw [← List.append_assoc]
        exact List.mem_append_right _ List.mem_cons_self
  | publish phase =>
    simp only [Bulletin.move]
    split
    · rename_i hpending
      have hperm : ((b.published ++ [phase]) ++ b.pending.erase phase).Perm (b.published ++ b.pending) := by
        rw [List.append_assoc]
        exact (List.perm_cons_erase hpending).symm.append_left _
      refine ⟨hperm.nodup_iff.2 h.nodup, ?_, ?_⟩
      · intro other hmem
        exact h.entered other (hperm.mem_iff.1 hmem)
      · intro hentered
        exact hperm.mem_iff.2 (h.present hentered)
    · exact h

/-- Whatever moves come, a bulletin stays in order. -/
theorem Orderly.run {b : Bulletin} (h : b.Orderly) (moves : List BulletinMove) : (b.run moves).Orderly := by
  induction moves generalizing b with
  | nil => exact h
  | cons move later ih => exact ih (h.move move)

/-- However the callers overlap, when nobody has anything left to publish, a phase is published exactly where one
was entered, and it is the present one or an earlier one. -/
theorem gauge_of_settled (moves : List BulletinMove) (hsettled : (initial.run moves).pending = []) :
    ((initial.run moves).gauge = none ↔ (initial.run moves).snapshot.phase = .created)
      ∧ ∀ n, (initial.run moves).gauge = some n → n ≤ (initial.run moves).snapshot.phase.number := by
  have horderly : (initial.run moves).Orderly := orderly_initial.run moves
  generalize initial.run moves = b at hsettled horderly
  have hall : ∀ phase, phase ∈ b.published ++ b.pending ↔ phase ∈ b.published := by
    rw [hsettled, List.append_nil]
    exact fun _ => Iff.rfl
  constructor
  · rw [gauge, Option.map_eq_none_iff, List.getLast?_eq_none_iff]
    constructor
    · intro hnone
      by_contra hentered
      have hpresent := horderly.present hentered
      rw [hall, hnone] at hpresent
      cases hpresent
    · intro hcreated
      rw [List.eq_nil_iff_forall_not_mem]
      intro phase hmem
      obtain ⟨hlower, hupper⟩ := horderly.entered phase ((hall phase).2 hmem)
      rw [hcreated] at hupper
      omega
  · intro n hgauge
    obtain ⟨phase, hlast, rfl⟩ := Option.map_eq_some_iff.1 hgauge
    have hmem := List.mem_of_getLast? hlast
    exact (horderly.entered phase ((hall phase).2 hmem)).2

/-! ## Publications in turn -/

/-- With a move a phase is entered while an earlier one is not yet published. -/
def Overtakes (b : Bulletin) : BulletinMove → Prop
  | .change deed => deed.enters b.snapshot ≠ [] ∧ b.pending ≠ []
  | .publish _ => False

/-- Each phase is published before the next one is entered. -/
def InTurn (b : Bulletin) : List BulletinMove → Prop
  | [] => True
  | move :: moves => ¬b.Overtakes move ∧ (b.move move).InTurn moves

/-- The phase that was entered last is published last, or is the only one that is left to publish. -/
structure Current (b : Bulletin) : Prop where
  /-- At most one phase is left to publish. -/
  alone : b.pending.length ≤ 1
  /-- It is the present one, or the present one was published last. -/
  last : (b.published ++ b.pending).getLast?
    = if b.snapshot.phase = .created then none else some b.snapshot.phase

/-- Unless a publisher overtakes another one, the gauge stays current. -/
theorem Current.move {b : Bulletin} (h : b.Current) {move : BulletinMove} (hturn : ¬b.Overtakes move) :
    (b.move move).Current := by
  cases move with
  | change deed =>
    rcases enters_cases b.snapshot deed with ⟨hnone, hphase⟩ | ⟨hone, hfollows⟩
    · simp only [Bulletin.move, hnone, List.append_nil]
      refine ⟨h.alone, ?_⟩
      rw [hphase]
      exact h.last
    · have hempty : b.pending = [] := by
        by_contra hpending
        exact hturn ⟨by rw [hone]; simp, hpending⟩
      have hcreated : (deed.result b.snapshot).phase ≠ .created := by
        intro hback
        have hless := hfollows.number
        rw [hback] at hless
        exact Nat.not_lt_zero _ hless
      simp only [Bulletin.move, hone, hempty, List.nil_append]
      refine ⟨Nat.le_refl _, ?_⟩
      rw [List.getLast?_concat, if_neg hcreated]
  | publish phase =>
    simp only [Bulletin.move]
    split
    · rename_i hpending
      have hone : b.pending = [phase] := by
        obtain ⟨only, honly⟩ := List.length_eq_one_iff.1
          (Nat.le_antisymm h.alone (List.length_pos_of_mem hpending))
        rw [honly] at hpending ⊢
        rw [List.mem_singleton.1 hpending]
      have hlast := h.last
      rw [hone] at hlast ⊢
      refine ⟨?_, ?_⟩
      · simp
      · simpa using hlast
    · exact h

/-- Where each phase is published before the next one is entered, the present one is the one that is published
when nobody has anything left to publish. -/
theorem gauge_of_inTurn {b : Bulletin} (hcurrent : b.Current) (moves : List BulletinMove)
    (hturn : b.InTurn moves) (hsettled : (b.run moves).pending = []) :
    (b.run moves).gauge = if (b.run moves).snapshot.phase = .created then none
      else some (b.run moves).snapshot.phase.number := by
  induction moves generalizing b with
  | nil =>
    have hlast := hcurrent.last
    have hnone : b.pending = [] := hsettled
    rw [hnone, List.append_nil] at hlast
    have hrun : b.run [] = b := rfl
    rw [hrun, gauge, hlast]
    split <;> rfl
  | cons move later ih =>
    obtain ⟨hfirst, hlater⟩ := hturn
    exact ih (hcurrent.move hfirst) hlater hsettled

/-! ## Overtaken publications -/

/-- Where the service has stopped and nobody has anything left to publish, the published number stays for
good. -/
theorem gauge_of_stopped {b : Bulletin} (hstopped : b.snapshot.phase = .stopped) (hsettled : b.pending = [])
    (moves : List BulletinMove) : (b.run moves).gauge = b.gauge := by
  induction moves generalizing b with
  | nil => rfl
  | cons move later ih =>
    cases move with
    | change deed =>
      rcases enters_cases b.snapshot deed with ⟨hnone, hphase⟩ | ⟨hone, hfollows⟩
      · have hpending : (b.move (.change deed)).pending = [] := by
          simp only [Bulletin.move, hnone, hsettled, List.append_nil]
        have hstays : (b.move (.change deed)).snapshot.phase = .stopped := hphase.trans hstopped
        exact ih hstays hpending
      · have hless := hfollows.number
        rw [hstopped] at hless
        cases hphase : (deed.result b.snapshot).phase <;> simp [hphase, Phase.number] at hless
    | publish phase =>
      have hnot : phase ∉ b.pending := by simp [hsettled]
      have hsame : b.move (.publish phase) = b := by simp only [Bulletin.move, if_neg hnot]
      have hrun : b.run (.publish phase :: later) = (b.move (.publish phase)).run later := rfl
      rw [hrun, hsame]
      exact ih hstopped hsettled

/-- The shutdown begins, and the drain that this wakes stops the service and publishes that, before the
beginning of the shutdown is published. -/
def overtaken : List BulletinMove :=
  [.change (.beginDrain .manualStop), .change (.advance .stopped), .publish .stopped, .publish .draining]

/-- Then nobody has anything left to publish, the service has stopped, and it is published for good that it
drains. -/
theorem gauge_of_overtaken : (initial.run overtaken).pending = []
    ∧ (initial.run overtaken).snapshot.phase = .stopped
    ∧ ∀ later, ((initial.run overtaken).run later).gauge = some Phase.draining.number := by
  refine ⟨by decide, by decide, fun later => ?_⟩
  rw [gauge_of_stopped (by decide) (by decide) later]
  decide

/-! ## Callers who are not interrupted -/

/-- After some readings the gauge shows the last phase among them. -/
theorem phase_foldl_record (readings : List Reading) (meters : Meters) :
    (readings.foldl Meters.record meters).phase
      = (readings.filterMap Reading.phase?).foldl (fun _ phase => some phase.number) meters.phase := by
  induction readings generalizing meters with
  | nil => rfl
  | cons reading later ih =>
    rw [List.foldl_cons, ih]
    cases reading with
    | admission accepted => cases accepted <;> rfl
    | _ => rfl

/-- A caller who publishes at once what it has entered leaves the published number that the meters show after
its deed. -/
theorem gauge_of_carryOut (policy : WakePolicy) (w : World) {b : Bulletin} (hsnapshot : b.snapshot = w.snapshot)
    (hgauge : b.gauge = w.meters.phase) (hsettled : b.pending = []) (deed : Deed) :
    let after := b.run (.change deed :: (deed.enters b.snapshot).map .publish)
    after.snapshot = (w.carryOut policy deed).snapshot
      ∧ after.gauge = (w.carryOut policy deed).meters.phase
      ∧ after.pending = [] := by
  intro after
  have hmeters : (w.carryOut policy deed).meters.phase
      = (deed.enters b.snapshot).foldl (fun _ phase => some phase.number) b.gauge := by
    rw [hgauge, hsnapshot]
    exact phase_foldl_record _ _
  have hresult : (w.carryOut policy deed).snapshot = deed.result b.snapshot := by
    rw [hsnapshot]
    rfl
  rw [hmeters, hresult]
  rcases enters_cases b.snapshot deed with ⟨hnone, -⟩ | ⟨hone, -⟩
  · have hafter : after = { b with snapshot := deed.result b.snapshot } := by
      simp [after, Bulletin.run, Bulletin.move, hnone]
    rw [hafter, hnone]
    exact ⟨rfl, rfl, hsettled⟩
  · have hafter : after = { b with
        snapshot := deed.result b.snapshot
        published := b.published ++ [(deed.result b.snapshot).phase] } := by
      simp [after, Bulletin.run, Bulletin.move, hone, hsettled]
    rw [hafter, hone]
    refine ⟨rfl, ?_, hsettled⟩
    rw [gauge, List.getLast?_concat]
    rfl

end Bulletin

end GracefulService
