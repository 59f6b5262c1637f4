import GracefulService.Proofs.Servers

/-!
# How the servers are closed

Whoever listens has the surfaces before them and goes over these one by one. A surface lies behind them once no
server is left on it: the server has closed, or it was given up at the end of the grace together with
the requests in flight. All surfaces share the one deadline that is set when the drain is over. Nobody
else closes servers, so where the end of the list is reached the service has stopped and no server is
left, and requests in flight have been given up exactly if some server has not closed by itself.
-/

namespace GracefulService

open Http

/-- The surfaces whose servers a drain has still to close. -/
def Errand.toClose? : Errand → Option (List Surface)
  | awaitShutdown (.close surfaces) | awaitIdle (.close surfaces) _ | readCause (.close surfaces)
  | closeServers _ _ surfaces => some surfaces
  | _ => none

/-- It takes listening for an errand to be there: it is that of a server, or of a drain that closes servers. -/
def Errand.isStaff (errand : Errand) : Bool := errand.server?.isSome || errand.closes

/-- Whoever has surfaces to close is a drain that closes. -/
theorem Errand.closes_of_toClose? {errand : Errand} {surfaces : List Surface}
    (h : errand.toClose? = some surfaces) : errand.closes = true := by
  unfold toClose? at h
  split at h <;> first | rfl | cases h

/-- Whoever closes servers is no server. -/
theorem Errand.server?_of_closes {errand : Errand} (h : errand.closes = true) : errand.server? = none := by
  cases errand <;> first | rfl | cases h

namespace World

/-- The drain with a number has these surfaces before it, or has none and has ended. -/
def Awaits (w : World) (serial : Nat) (ahead : List Surface) : Prop :=
  (∃ errand, errand.toClose? = some ahead ∧ w.Runs serial .service errand)
    ∨ (ahead = [] ∧ ∃ cause, ⟨serial, .service, .stopped cause⟩ ∈ w.finished)

/-- The surfaces that are served, and the drain with a number that closes their servers. -/
structure Tended (serial : Nat) (surfaces : List Surface) (w : World) : Prop where
  /-- Servers belong to the service, so nobody cancels them. -/
  own : ∀ task ∈ w.tasks, task.errand.server?.isSome = true → task.owner = .service
  /-- No other drain closes servers. -/
  alone : ∀ task ∈ w.tasks, task.errand.closes = true → task.serial = serial
  /-- No other surface has a server. -/
  elsewhere : ∀ surface ∉ surfaces, w.running surface = 0
  /-- A surface has one server, which runs, has closed, or has been given up. -/
  once : ∀ surface, w.running surface + w.closed surface ≤ 1
  /-- A server that has been given up was given up together with the requests in flight. -/
  lost : ∀ surface ∈ surfaces, w.running surface + w.closed surface = 0 → w.snapshot.abandoned = true
  /-- No server is left on the surfaces that lie behind the drain. -/
  passed : ∃ behind ahead, surfaces = behind ++ ahead ∧ w.Awaits serial ahead
    ∧ ∀ surface ∈ behind, w.running surface = 0

/-- Once a service has stopped, requests in flight can be given up, or have been. -/
theorem abandoned_of_abandon {s : Snapshot} (hstopped : s.phase = .stopped) :
    (Deed.abandon.result s).abandoned = true := by
  rw [Deed.result_abandon]
  cases habandoned : s.abandoned <;> simp [hstopped, habandoned]

end World

open World

/-- A drain goes on with the same surfaces before it, or leaves one behind that has no server, or whose
server it gives up. -/
theorem Turned.toClose? {setup : Setup} {w : World} {looks : Bool} {errand next : Errand} {effect : Effect}
    (hturned : Turned setup w looks errand effect (.goOn next)) {ahead : List Surface}
    (hahead : errand.toClose? = some ahead) :
    next.toClose? = some ahead ∨ ∃ surface rest, ahead = surface :: rest ∧ next.toClose? = some rest
      ∧ (effect.aborted = some surface ∨ w.hasServer surface = false) := by
  cases hturned with
  | @seeShutdown sequel | @seeIdle sequel | @endWindow sequel =>
    cases sequel with
    | report => cases hahead
    | close surfaces => exact Or.inl hahead
  | beginClosing => exact Or.inl hahead
  | seeClosed hgone =>
    cases hahead
    exact Or.inr ⟨_, _, rfl, rfl, Or.inr hgone⟩
  | endGrace hserver hdue =>
    cases hahead
    exact Or.inr ⟨_, _, rfl, rfl, Or.inl rfl⟩
  | _ => cases hahead

/-- A stage that is followed by another takes listening exactly where the other does. -/
theorem Turned.staff {setup : Setup} {w : World} {looks : Bool} {errand next : Errand} {effect : Effect}
    (hturned : Turned setup w looks errand effect (.goOn next)) : next.closes = errand.closes := by
  cases hturned with
  | @seeShutdown sequel | @seeIdle sequel | @endWindow sequel => cases sequel <;> rfl
  | _ => rfl

/-- Unless the service begins to be listened on, its servers and the drain that closes them are those that
were there before. -/
theorem Happening.staff {setup : Setup} {move : Move} {w after : World}
    (hhappening : Happening setup move w after) (hquiet : move.listens = false) {task : Task}
    (hmem : task ∈ after.tasks) (hstaff : task.errand.isStaff = true) :
    ∃ source ∈ w.tasks, source.serial = task.serial ∧ source.owner = task.owner
      ∧ source.errand.server? = task.errand.server? ∧ source.errand.closes = task.errand.closes := by
  cases hhappening.origin hmem with
  | @same source hsource hresembles =>
    refine ⟨source, hsource, hresembles.serial.symm, hresembles.owner.symm, ?_, ?_⟩ <;>
      rw [hresembles.errand]
  | vain hsource hturn htask =>
    rw [htask]
    exact ⟨_, hsource, rfl, rfl, rfl, rfl⟩
  | begun hbegins hlistens =>
    have hnone : task.errand.isListening = false := by
      rw [← Bool.not_eq_true]
      intro hlistening
      rw [hlistens hlistening] at hquiet
      cases hquiet
    generalize task.errand = errand at hbegins hnone hstaff
    cases errand with
    | awaitShutdown sequel =>
      cases sequel <;>
        simp_all [Errand.isStaff, Errand.isListening, Errand.closes, Errand.server?]
    | _ => simp_all [Errand.begins, Errand.isStaff, Errand.isListening, Errand.closes, Errand.server?]
  | released hsource herrand hheld htask =>
    rw [htask] at hstaff
    cases hstaff
  | signalled htask =>
    rw [htask] at hstaff
    cases hstaff
  | goesOn hsource hturned hwoken hsnapshot hserial howner =>
    exact ⟨_, hsource, hserial.symm, howner.symm, hturned.server?.symm, hturned.staff.symm⟩

namespace World

section Tended

variable {setup : Setup} {move : Move} {w after : World} {serial : Nat} {surfaces : List Surface}

/-- No server comes or comes back, and none that has closed had been given up. -/
theorem servers_fewer (hhappening : Happening setup move w after) (hquiet : move.listens = false)
    (hown : ∀ task ∈ w.tasks, task.errand.server?.isSome = true → task.owner = .service)
    (surface : Surface) :
    after.running surface ≤ w.running surface
      ∧ after.running surface + after.closed surface ≤ w.running surface + w.closed surface := by
  cases hhappening.serverFate hquiet hown surface with
  | same hrunning hclosed => omega
  | closes hrunning hclosed => omega
  | givenUp hmem hmove herrand hserver hdue hsnapshot hnext hrunning hclosed => omega

/-- A server is lost only together with the requests in flight. -/
theorem Tended.step_lost (h : w.Tended serial surfaces) (hhappening : Happening setup move w after)
    (hquiet : move.listens = false) (hagreed : w.Agreed) {surface : Surface} (hmem : surface ∈ surfaces)
    (hgone : after.running surface + after.closed surface = 0) : after.snapshot.abandoned = true := by
  cases hhappening.serverFate hquiet h.own surface with
  | same hrunning hclosed =>
    exact hhappening.precedes.abandoned (h.lost surface hmem (by omega))
  | closes hrunning hclosed => omega
  | @givenUp task cause timer rest htask hmove herrand hserver hdue hsnapshot hnext hrunning hclosed =>
    have hagrees := hagreed.tasks task htask
    rw [herrand] at hagrees
    rw [hsnapshot]
    exact abandoned_of_abandon hagrees.1

/-- The drain goes over the surfaces one by one. -/
theorem Tended.step_passed (h : w.Tended serial surfaces) (hhappening : Happening setup move w after)
    (hquiet : move.listens = false) :
    ∃ behind ahead, surfaces = behind ++ ahead ∧ after.Awaits serial ahead
      ∧ ∀ surface ∈ behind, after.running surface = 0 := by
  obtain ⟨behind, ahead, hsplit, hawaits, hbehind⟩ := h.passed
  have hstill : ∀ surface ∈ behind, after.running surface = 0 := by
    intro surface hmem
    have hfewer := (servers_fewer hhappening hquiet h.own surface).1
    have hnone := hbehind surface hmem
    omega
  rcases hawaits with ⟨errand, hahead, hruns⟩ | ⟨rfl, cause, hended⟩
  · have hcloses := Errand.closes_of_toClose? hahead
    cases hhappening.fate hruns with
    | stays hstays => exact ⟨behind, ahead, hsplit, Or.inl ⟨errand, hahead, hstays⟩, hstill⟩
    | @goesOn _ next others looks effect hmove hturned hsnapshot hclock hnext hothers hcore =>
      rcases hturned.toClose? hahead with hsame | ⟨surface, rest, rfl, hrest, hgone⟩
      · exact ⟨behind, ahead, hsplit, Or.inl ⟨next, hsame, hnext⟩, hstill⟩
      · refine ⟨behind ++ [surface], rest, by simp [hsplit], Or.inl ⟨next, hrest, hnext⟩, ?_⟩
        intro other hmem
        rcases List.mem_append.1 hmem with hearlier | hnew
        · exact hstill other hearlier
        · rw [List.mem_singleton.1 hnew]
          -- The drain itself is no server, and the others on the surface are gone or given up.
          have hserver := Errand.server?_of_closes (Errand.closes_of_toClose? hrest)
          have hrunning := running_goOn hcore surface
          simp only [hserver] at hrunning
          rw [hrunning]
          rcases hgone with haborted | hnone
          · rw [if_pos haborted]
            rfl
          · have hothers : ¬0 < serversOn surface others := by
              have hiff : World.hasServer { w with tasks := others } surface = true ↔
                  0 < serversOn surface others := hasServer_iff
              rw [hnone] at hiff
              exact fun hpositive => Bool.false_ne_true (hiff.2 hpositive)
            split
            · rfl
            · have hzero := Nat.eq_zero_of_not_pos hothers
              rw [hzero]
              rfl
    | @ends _ others looks effect outcome hmove hturned hsnapshot hclock hended hothers =>
      cases hturned with
      | endClosing =>
        cases hahead
        exact ⟨behind, [], hsplit, Or.inr ⟨rfl, _, hended⟩, hstill⟩
      | _ => cases hahead
    | cancelled hmove howner hended => cases howner
    | aborted hserver =>
      rw [Errand.server?_of_closes hcloses] at hserver
      cases hserver
    | _ => cases hahead
  · exact ⟨behind, [], hsplit, Or.inr ⟨rfl, cause, hhappening.finished hended⟩, hstill⟩

/-- Whatever happens, the surfaces are served or closed by the same drain. -/
theorem Tended.step (h : w.Tended serial surfaces) (hhappening : Happening setup move w after)
    (hquiet : move.listens = false) (hagreed : w.Agreed) : after.Tended serial surfaces where
  own := by
    intro task hmem hserver
    obtain ⟨source, hsource, -, howner, hsame, -⟩ :=
      hhappening.staff hquiet hmem (by simp [Errand.isStaff, hserver])
    rw [← howner]
    exact h.own source hsource (by rw [hsame]; exact hserver)
  alone := by
    intro task hmem hcloses
    obtain ⟨source, hsource, hserial, -, -, hsame⟩ :=
      hhappening.staff hquiet hmem (by simp [Errand.isStaff, hcloses])
    rw [← hserial]
    exact h.alone source hsource (by rw [hsame]; exact hcloses)
  elsewhere := by
    intro surface hmem
    have hfewer := (servers_fewer hhappening hquiet h.own surface).1
    have hnone := h.elsewhere surface hmem
    omega
  once := by
    intro surface
    have hfewer := (servers_fewer hhappening hquiet h.own surface).2
    have honce := h.once surface
    omega
  lost := fun surface hmem hgone => h.step_lost hhappening hquiet hagreed hmem hgone
  passed := h.step_passed hhappening hquiet

/-- Where the drain has ended, no server is left. -/
theorem Tended.none_left (h : w.Tended serial surfaces) (hnumbered : w.Numbered) {cause : Cause}
    (hended : ⟨serial, .service, .stopped cause⟩ ∈ w.finished) (surface : Surface) :
    w.running surface = 0 := by
  obtain ⟨behind, ahead, hsplit, hawaits, hbehind⟩ := h.passed
  rcases hawaits with ⟨errand, hahead, task, hmem, hserial, -⟩ | ⟨rfl, -⟩
  · exact absurd hserial (hnumbered.not_over hmem hended)
  · by_cases hserved : surface ∈ surfaces
    · rw [hsplit, List.append_nil] at hserved
      exact hbehind surface hserved
    · exact h.elsewhere surface hserved

/-- Where the drain has ended, a server that has not closed was given up with the requests in flight. -/
theorem Tended.closed_or_abandoned (h : w.Tended serial surfaces) (hnumbered : w.Numbered) {cause : Cause}
    (hended : ⟨serial, .service, .stopped cause⟩ ∈ w.finished) {surface : Surface}
    (hmem : surface ∈ surfaces) : 0 < w.closed surface ∨ w.snapshot.abandoned = true := by
  have hnone := h.none_left hnumbered hended surface
  by_cases hclosed : w.closed surface = 0
  · exact Or.inr (h.lost surface hmem (by omega))
  · exact Or.inl (Nat.pos_of_ne_zero hclosed)

end Tended

end World

/-! The end of the grace. -/

/-- No other deed gives requests up. -/
theorem Deed.abandoned_result {s : Snapshot} {deed : Deed} (h : deed ≠ .abandon) :
    (deed.result s).abandoned = s.abandoned := by
  cases deed with
  | nothing => rfl
  | advance target =>
    rw [result_advance]
    split <;> rfl
  | enter =>
    rw [result_enter]
    split <;> rfl
  | leave => rw [result_leave]
  | beginDrain cause =>
    rw [result_beginDrain]
    split <;> rfl
  | abandon => exact absurd rfl h

/-- A turn gives requests up only where that is among its deeds. -/
theorem Effect.abandoned_result {s : Snapshot} {effect : Effect} (h : .abandon ∉ effect.deeds) :
    (effect.result s).abandoned = s.abandoned :=
  List.foldlRecOn (motive := fun after => after.abandoned = s.abandoned) effect.deeds Deed.result rfl
    fun _ hbefore _ hmem =>
      (Deed.abandoned_result fun hsame => h (hsame ▸ hmem)).trans hbefore

namespace World

/-- The drain with a number is over and has a deadline for closing servers, set or about to be set, or it has
closed them. -/
def Bounded (w : World) (serial grace deadline : Nat) : Prop :=
  (∃ surfaces, w.Runs serial .service (.readCause (.close surfaces)) ∧ w.clock + grace = deadline)
    ∨ (∃ cause timer surfaces, w.Runs serial .service (.closeServers cause timer surfaces)
      ∧ timer.deadline = deadline ∧ w.clock ≤ deadline)
    ∨ ∃ cause, ⟨serial, .service, .stopped cause⟩ ∈ w.finished

section Bounded

variable {setup : Setup} {move : Move} {w after : World} {serial deadline : Nat}

/-- The deadline is set once, at the moment at which the drain is over, and time does not pass over it. -/
theorem Bounded.step (h : w.Bounded serial setup.grace deadline) (hattentive : w.Attentive)
    (hhappening : Happening setup move w after) : after.Bounded serial setup.grace deadline := by
  rcases h with ⟨surfaces, hruns, hset⟩ | ⟨cause, timer, surfaces, hruns, rfl, hclock⟩ | ⟨cause, hended⟩
  · -- The cause is read at once, so no time passes before the deadline is set.
    have hstill : after.clock = w.clock := by
      rcases hhappening.clock with hstill | ⟨milliseconds, -, hcan, -⟩
      · exact hstill
      · obtain ⟨task, hmem, -, -, herrand⟩ := hruns
        simp only [canTick, Bool.and_eq_true] at hcan
        have hwaits := (hattentive.waits_at_rest hcan.1 hmem).2.1
        rw [herrand] at hwaits
        cases hwaits
    cases hhappening.fate hruns with
    | stays hstays => exact Or.inl ⟨surfaces, hstays, by rw [hstill]; exact hset⟩
    | goesOn hmove hturned hsnapshot hclock hnext =>
      cases hturned with
      | beginClosing =>
        have hset' : w.clock + setup.grace = deadline := hset
        exact Or.inr (Or.inl ⟨_, _, _, hnext, hset', by omega⟩)
    | ends hmove hturned hsnapshot hclock hended => cases hturned
    | cancelled hmove howner hended => cases howner
    | aborted hserver => cases hserver
  · have hlater := clock_le_of_awaited hhappening hruns rfl hclock
    cases hhappening.fate hruns with
    | stays hstays => exact Or.inr (Or.inl ⟨_, _, _, hstays, rfl, hlater⟩)
    | goesOn hmove hturned hsnapshot hstill hnext =>
      cases hturned with
      | seeClosed hgone => exact Or.inr (Or.inl ⟨_, _, _, hnext, rfl, hlater⟩)
      | endGrace hserver hdue => exact Or.inr (Or.inl ⟨_, _, _, hnext, rfl, hlater⟩)
    | ends hmove hturned hsnapshot hstill hended =>
      cases hturned with
      | endClosing => exact Or.inr (Or.inr ⟨_, hended⟩)
    | cancelled hmove howner hended => cases howner
    | aborted hserver => cases hserver
  · exact Or.inr (Or.inr ⟨cause, hhappening.finished hended⟩)

end Bounded

end World

end GracefulService
