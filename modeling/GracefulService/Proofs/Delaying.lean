import GracefulService.Proofs.Admission
import GracefulService.Proofs.Delays
import GracefulService.Serve.Delegate

/-!
# What the delegate that delays answers

A delegate that does nothing but delay refuses what is no delay, and breaks where the delay is more minutes than
can be counted in seconds. Every other request that it is called with succeeds. How a request that was let in goes
on is up to the gate, as with any delegate.
-/

namespace GracefulService

open Http

/-- A request asks for a delay with a text. -/
def Http.Request.AsksFor (request : Request) (text : String) : Prop :=
  formValue? "delay" request.target.query = some text

/-- A response answers a request for a delay: it says that something broke exactly where too many minutes are asked
for, refuses exactly what is no delay, and is a success otherwise. -/
structure Http.Response.AnswersDelay (response : Response) (request : Request) : Prop where
  broken : response.status = 500 ↔ ∃ text, request.AsksFor text ∧ Delay.Overlong text
  refused : response.status = 400 ↔ ∃ text, request.AsksFor text ∧ Delay.read text = .unreadable
  whole : response.status = 200 ∨ response.status = 400 ∨ response.status = 500

namespace Delegate

/-- What comes of the work that only delays. -/
theorem yield_delayed (request : Request) : (delayed request).yield
    = match (formValue? "delay" request.target.query).map Delay.read with
      | some .unreadable => .bare 400
      | some .overflow => .panicked
      | _ => .bare 200 := by
  unfold delayed
  cases formValue? "delay" request.target.query with
  | none => rfl
  | some text =>
    simp only [Option.map_some]
    match Delay.read text with
    | .lasting 0 => rfl
    | .lasting (_ + 1) => rfl
    | .unreadable => rfl
    | .overflow => rfl

/-- The delegate that only delays breaks where it is asked for too many minutes, and nowhere else. -/
theorem demo_answer (surface : Surface) (request : Request) :
    ((demo request).answer surface request).AnswersDelay request := by
  have hstatus : ((demo request).answer surface request).status = (delayed request).yield.status :=
    Response.status_leave _ _ _ _ _
  cases hasked : formValue? "delay" request.target.query with
  | none =>
    constructor <;> simp [hstatus, yield_delayed, Request.AsksFor, hasked, Response.bare]
  | some text =>
    cases hread : Delay.read text <;> constructor <;>
      simp [hstatus, yield_delayed, Request.AsksFor, ← Delay.read_eq_overflow_iff, hasked, hread, Response.bare,
        Response.panicked, Response.text, Response.withBody]

end Delegate

/-- Nobody is broken by a delay unless it is more minutes than can be counted in seconds: every other text is
read, and every other request that the delegate is called with is answered with a success or, if its delay is
unreadable, refused. -/
theorem delays_break_nobody_unless_overlong (setup : Setup) (hdemo : setup.site.delegate = Delegate.demo) :
    (∀ text, Delay.read text = .overflow ↔ Delay.Overlong text)
      ∧ ∀ (checkup : Option Checkup) (moves : List Move),
        let w := (World.initial checkup).run setup moves
        ∀ serial owner surface request move, w.Runs serial owner (.arrive surface request) →
          move.isTurnOf serial = true →
          ∀ identified, identified = (w.identify surface request).2 →
          setup.site.destination surface identified = .gate → w.snapshot.phase = .listening →
          let after := w.move setup move
          let handling := Delegate.demo identified
          LetIn w after serial owner handling surface identified
            ∧ Honoured setup after serial owner handling surface identified
            ∧ (handling.answer surface identified).AnswersDelay identified := by
  refine ⟨Delay.read_eq_overflow_iff, ?_⟩
  intro checkup moves w serial owner surface request move hruns hmove identified hidentified hgate
    hlistening after handling
  have hnumbered : w.Numbered := World.numbered_run (World.numbered_initial checkup) moves
  have hletIn := (World.turn_arrive setup hnumbered hruns hmove hidentified hgate).1 hlistening
  rw [hdemo] at hletIn
  have hafter : after.Numbered := (World.move_happens setup w move).numbered hnumbered
  have hattentive : after.Attentive := (World.move_happens setup w move).attentive
    (World.attentive_run (World.attentive_initial checkup) moves)
  exact ⟨hletIn, World.honoured_of_letIn hafter hattentive hletIn, Delegate.demo_answer surface identified⟩

/-- A service that only delays. -/
def delayer : Setup := ⟨⟨.empty, true, Delegate.demo⟩, 1000, 1000, .onNotice⟩

/-- A request with a query for a service that only delays. -/
def delayRequest (query : String) : Request := ⟨.standard .get, ⟨"/", some query⟩, []⟩

/-- The service that only delays listens, and a request with a query has come in. -/
def delayerAsked (query : String) : World :=
  (World.initial none).run delayer [.act (.advance .opened), .act (.advance .listening),
    .act (.request "a" .primary (some (delayRequest query)))]

/-- A request for seven seconds is let in and will be answered with a success. -/
theorem delays_break_nobody_unless_overlong_brief :
    let w := delayerAsked "delay=7s"
    let asked := (w.identify .primary (delayRequest "delay=7s")).2
    LetIn w (w.move delayer (.turn 0)) 0 (.caller "a") (Delegate.demo asked) .primary asked
      ∧ ((Delegate.demo asked).answer .primary asked).status = 200 := by
  intro w asked
  obtain ⟨hexact, hrun⟩ := delays_break_nobody_unless_overlong delayer rfl
  obtain ⟨hletIn, -, hanswers⟩ := hrun none
    [.act (.advance .opened), .act (.advance .listening),
      .act (.request "a" .primary (some (delayRequest "delay=7s")))]
    0 (.caller "a") .primary (delayRequest "delay=7s") (.turn 0)
    ⟨_, List.mem_cons_self, rfl, rfl, rfl⟩ rfl asked rfl rfl rfl
  have hasks : formValue? "delay" asked.target.query = some "7s" := by decide +kernel
  have hread : Delay.read "7s" = .lasting 7000 := by decide
  refine ⟨hletIn, hanswers.whole.resolve_right ?_⟩
  rintro (hrefused | hbroken)
  · obtain ⟨text, htext, hunreadable⟩ := hanswers.refused.1 hrefused
    rw [← Option.some.inj (hasks.symm.trans htext), hread] at hunreadable
    cases hunreadable
  · obtain ⟨text, htext, hoverlong⟩ := hanswers.broken.1 hbroken
    rw [← hexact, ← Option.some.inj (hasks.symm.trans htext), hread] at hoverlong
    cases hoverlong

/-- The least number of minutes that is too long breaks the delegate, although it fits 64 bits: the request is
answered, but only because the service catches what broke. -/
theorem delay_breaks :
    Delay.read "307445734561825861m" = .overflow
      ∧ (((delayerAsked "delay=307445734561825861m").run delayer [.turn 0, .turn 0]).finished.map fun ending =>
        match ending.outcome with
        | .answered answerer response => some (answerer, response.status, response.body)
        | _ => none) = [some (.delegate, 500, "Service panicked")] := by
  decide +kernel

end GracefulService
