import GracefulService.Proofs.Lifecycle

/-!
# Who is turned away

Somebody is counted as turned away where a caller asks for a slot and gets none, and where the gate answers a
request that it does not let in. Nothing else counts: move by move, what is counted is what callers were told
and what the gate has answered.
-/

namespace GracefulService

/-- The caller asked for a slot and got none. -/
def StepResult.isRejected : StepResult → Bool
  | rejected _ => true
  | _ => false

/-- The gate turned the request away. -/
def Outcome.isTurnedAway : Outcome → Bool
  | answered .gate _ => true
  | _ => false

/-- What comes next is the end of a request that the gate turned away. -/
def Next.isTurnedAway : Next → Bool
  | goOn _ => false
  | finish outcome => outcome.isTurnedAway

namespace World

/-- How many requests the gate has turned away. -/
def turnedAway (w : World) : Nat := w.finished.countP fun ending => ending.outcome.isTurnedAway

/-- What the caller is told that acts in a move. -/
def answerTo? (setup : Setup) (w : World) : Move → Option StepResult
  | .act step => some (w.act setup step).2
  | _ => none

/-- What the callers are told during a run. -/
def told (setup : Setup) (w : World) : List Move → List StepResult
  | [] => []
  | move :: moves => (w.answerTo? setup move).toList ++ (w.move setup move).told setup moves

/-- As many requests were counted as turned away as the gate has turned away, and some more. -/
def Tallied (callers : Nat) (w : World) : Prop := w.meters.rejected = w.turnedAway + callers

section Tallied

variable {setup : Setup} {policy : WakePolicy} {w : World} {callers : Nat}

/-- A caller that is refused has asked for a slot while the service did not listen. -/
theorem isRejected_act {step : Step} (h : (w.act setup step).2.isRejected = true) :
    ∃ id, step = .enter id ∧ w.snapshot.phase ≠ .listening := by
  cases step with
  | enter id =>
    refine ⟨id, rfl, fun hlistening => ?_⟩
    rw [act_enter_answer, if_pos hlistening] at h
    cases h
  | advance target =>
    rw [act_advance_answer] at h
    split at h <;> cases h
  | request id surface request => cases request <;> cases h
  | health checkup =>
    simp only [act] at h
    split at h <;> cases h
  | _ => cases h

/-- Only a request that is refused a slot is counted as turned away. -/
theorem rejected_carryOut (policy : WakePolicy) (w : World) (deed : Deed)
    (h : deed ≠ .enter ∨ w.snapshot.phase = .listening) :
    (w.carryOut policy deed).meters.rejected = w.meters.rejected := by
  cases deed with
  | enter =>
    have hlistening := h.resolve_left fun hne => hne rfl
    simp [carryOut, Deed.readings, Deed.change, Snapshot.enter, Phase.acceptsRequests, hlistening,
      Meters.record]
  | advance target =>
    cases hchange : (Deed.advance target).change w.snapshot <;>
      simp [carryOut, Deed.readings, hchange, Meters.record]
  | leave =>
    cases hchange : Deed.leave.change w.snapshot <;>
      simp [carryOut, Deed.readings, hchange, Meters.record]
  | beginDrain cause =>
    cases hchange : (Deed.beginDrain cause).change w.snapshot <;>
      simp [carryOut, Deed.readings, hchange, Meters.record]
  | nothing => rfl
  | abandon => rfl

/-- A slot that is refused is recorded as a rejection. -/
theorem rejected_carryOut_refused (policy : WakePolicy) (w : World) (hphase : w.snapshot.phase ≠ .listening) :
    (w.carryOut policy .enter).meters.rejected = w.meters.rejected + 1 := by
  simp [carryOut, Deed.readings, Deed.change, Snapshot.enter, Phase.acceptsRequests, hphase, Meters.record]

/-- A slot that is kept is no rejection. -/
theorem rejected_keepGuard (policy : WakePolicy) (w : World) (id : String) :
    (w.keepGuard policy id).meters.rejected = w.meters.rejected
      ∧ (w.keepGuard policy id).turnedAway = w.turnedAway :=
  keepGuard_induction w (P := fun after => after.meters.rejected = w.meters.rejected
      ∧ after.turnedAway = w.turnedAway) policy id (fun _ _ h => h)
    (fun v h => ⟨(rejected_carryOut policy v .leave (Or.inl (by simp))).trans h.1, h.2⟩) ⟨rfl, rfl⟩

/-- Where a task ends, one more request was turned away if it ended so. -/
theorem turnedAway_conclude (ending : Ending) :
    (w.conclude ending).turnedAway = w.turnedAway + ending.outcome.isTurnedAway.toNat := by
  simp only [turnedAway, conclude, List.countP_append, List.countP_singleton]
  cases ending.outcome.isTurnedAway <;> rfl

end Tallied

end World

open World

/-- A turn counts a request as turned away exactly where the gate turns it away. -/
theorem Turned.rejected {setup : Setup} {w : World} {looks : Bool} {errand : Errand} {effect : Effect}
    {next : Next} (hturned : Turned setup w looks errand effect next) (policy : WakePolicy) :
    (effect.apply policy w.core).meters.rejected = w.meters.rejected + next.isTurnedAway.toNat := by
  have hother : ∀ deed : Deed, deed ≠ .enter ∨ w.snapshot.phase = .listening →
      (w.core.carryOut policy deed).meters.rejected = w.meters.rejected :=
    rejected_carryOut policy w.core
  cases hturned with
  | letIn hrequest hgate hlistening => exact hother .enter (Or.inr hlistening)
  | answerAtOnce hrequest hgate hlistening =>
    have hleft := rejected_carryOut policy (w.core.carryOut policy .enter) .leave (Or.inl (by simp))
    exact hleft.trans (hother .enter (Or.inr hlistening))
  | refuse hrequest hgate hphase => exact rejected_carryOut_refused policy w.core hphase
  | @answer _ _ answerer response hgate hmarkdown hanswerer =>
    have hnot : (Next.finish (.answered answerer response)).isTurnedAway = false := by
      cases answerer <;> first | rfl | exact absurd rfl hanswerer
    rw [hnot]
    exact hother .nothing (Or.inl (by simp))
  | _ => exact hother _ (Or.inl (by simp))

/-- Where no caller is refused a slot, as many requests are counted as turned away as the gate turns away. -/
theorem Happening.tallied {setup : Setup} {move : Move} {w after : World} {callers : Nat}
    (hhappening : Happening setup move w after)
    (hgranted : ∀ id, move = .act (.enter id) → w.snapshot.phase = .listening) (h : w.Tallied callers) :
    after.Tallied callers := by
  have hpass : ∀ away : Nat, after.core.meters.rejected = w.meters.rejected + away →
      after.core.turnedAway = w.turnedAway + away → after.Tallied callers := by
    intro away hrejected hturnedAway
    have hbefore : w.meters.rejected = w.turnedAway + callers := h
    have hafter : after.meters.rejected = w.meters.rejected + away := hrejected
    have hending : after.turnedAway = w.turnedAway + away := hturnedAway
    unfold Tallied
    omega
  cases hhappening with
  | @deed deed hmove h =>
    refine hpass 0 ?_ ((congrArg turnedAway h).trans rfl)
    rw [h]
    exact rejected_carryOut setup.policy w.core deed (Or.inl (Move.slots_of_deed? hmove).1)
  | refuse hphase h hmove => exact absurd (hgranted _ hmove) hphase
  | keep hphase h hmove =>
    obtain ⟨hrejected, hturnedAway⟩ := rejected_keepGuard setup.policy
      (w.core.carryOut setup.policy .enter) _
    refine hpass 0 ?_ ?_
    · rw [h, hrejected]
      exact rejected_carryOut setup.policy w.core .enter (Or.inr hphase)
    · rw [h, hturnedAway]
      rfl
  | drop hheld h =>
    refine hpass 0 ?_ ((congrArg turnedAway h).trans rfl)
    rw [h]
    exact rejected_carryOut setup.policy _ .leave (Or.inl (by simp))
  | @interrupt front back task x outcome hsplit herrand hwhy h =>
    have houtcome : outcome.isTurnedAway = false := by
      cases hwhy <;> rfl
    refine hpass 0 ?_ ?_
    · rw [h]
      exact rejected_carryOut setup.policy { w.core with tasks := front ++ back } .leave (Or.inl (by simp))
    · rw [h, turnedAway_conclude]
      exact congrArg (w.turnedAway + ·.toNat) houtcome
  | @cancel front back task id hmove hsplit howner hholds h =>
    refine hpass 0 ((congrArg (fun v => v.meters.rejected) h).trans rfl) ?_
    rw [h, turnedAway_conclude]
    rfl
  | @goOn front back task effect errand hmove hsplit hturned h =>
    refine hpass 0 ?_ ((congrArg turnedAway h).trans rfl)
    rw [h]
    exact hturned.rejected setup.policy
  | @finish front back task effect outcome hmove hsplit hturned h =>
    refine hpass outcome.isTurnedAway.toNat ?_ ?_
    · rw [h]
      exact hturned.rejected setup.policy
    · rw [h, turnedAway_conclude]
      rfl
  | idle h | start _ h | vain _ _ h | tick _ _ h | ring _ h | release _ h | signal _ h =>
    exact hpass 0 ((congrArg (fun v => v.meters.rejected) h).trans rfl) ((congrArg turnedAway h).trans rfl)

namespace World

/-- After every move, the requests that were counted as turned away are those that the gate has turned away and
those of the callers who were refused. -/
theorem Tallied.move (setup : Setup) {w : World} {callers : Nat} (h : w.Tallied callers) (move : Move) :
    (w.move setup move).Tallied
      (callers + (w.answerTo? setup move).toList.countP StepResult.isRejected) := by
  by_cases hrefused : ∃ id, move = .act (.enter id) ∧ w.snapshot.phase ≠ .listening
  · obtain ⟨id, rfl, hphase⟩ := hrefused
    have hanswer : w.answerTo? setup (.act (.enter id)) = some (.rejected w.snapshot.phase) := by
      rw [answerTo?, act_enter_answer, if_neg hphase]
    have hafter : w.move setup (.act (.enter id))
        = (w.record (.admission false)).tell (.requestRejected w.snapshot.phase) := by
      simp [World.move, act, enter, Snapshot.enter, Phase.acceptsRequests, hphase]
    rw [hanswer, hafter]
    exact congrArg (· + 1) h
  · have hgranted : ∀ id, move = .act (.enter id) → w.snapshot.phase = .listening := by
      intro id hmove
      by_contra hphase
      exact hrefused ⟨id, hmove, hphase⟩
    have hnone : (w.answerTo? setup move).toList.countP StepResult.isRejected = 0 := by
      rw [List.countP_eq_zero]
      intro result hmem hrejected
      cases move with
      | act step =>
        rw [List.mem_singleton.1 hmem] at hrejected
        obtain ⟨id, rfl, hphase⟩ := isRejected_act hrejected
        exact hphase (hgranted id rfl)
      | _ => cases hmem
    rw [hnone]
    exact (move_happens setup w move).tallied hgranted h

/-- In every run the rejections are those of callers and of requests. -/
theorem Tallied.run (setup : Setup) {w : World} {callers : Nat} (h : w.Tallied callers)
    (moves : List Move) :
    (w.run setup moves).Tallied (callers + (w.told setup moves).countP StepResult.isRejected) := by
  induction moves generalizing w callers with
  | nil => exact h
  | cons move later ih =>
    have hlater := ih (h.move setup move)
    rw [told, List.countP_append, ← Nat.add_assoc]
    exact hlater

/-- What callers are told in one run after another is told one after the other. -/
theorem told_append (setup : Setup) (w : World) (before later : List Move) :
    w.told setup (before ++ later) = w.told setup before ++ (w.run setup before).told setup later := by
  induction before generalizing w with
  | nil => rfl
  | cons first rest ih =>
    rw [List.cons_append, told, told, ih, List.append_assoc]
    rfl

/-- Where nobody acts, nobody is told anything. -/
theorem told_of_unprompted (setup : Setup) (w : World) {moves : List Move} (h : Unprompted moves) :
    w.told setup moves = [] := by
  induction moves generalizing w with
  | nil => rfl
  | cons first rest ih =>
    have hrest : Unprompted rest := fun move hmem => h move (List.mem_cons_of_mem _ hmem)
    rw [told, ih _ hrest, List.append_nil]
    cases first with
    | act step => exact absurd List.mem_cons_self (h.not_mem rfl)
    | _ => rfl

end World

end GracefulService
