import GracefulService.Http.Form
import GracefulService.Serve.Delay
import GracefulService.Serve.Site

/-!
# Delegates

Small delegates for demonstrations: one that answers after the delay a request asks for, and richer ones
in front of it with routes that answer, break, tell the id of a request, or wait to be told to go on.
-/

namespace GracefulService

open Http

namespace Delegate

/-- Answers without a body after the delay in the query, whatever the path and method. A delay that
cannot be read is the fault of the client. -/
def delayed (request : Request) : Work :=
  match formValue? "delay" request.target.query with
  | none => .answer (.bare 200)
  | some text =>
    match Delay.read text with
    | .lasting 0 => .answer (.bare 200)
    | .lasting milliseconds => .pause milliseconds (.bare 200)
    | .unreadable => .answer (.bare 400)
    | .overflow => .broken

/-- The delegate that only delays. -/
def demo : Delegate := fun request => ⟨none, delayed request⟩

/-- Tells the id of a request. -/
def tellId (request : Request) : Work :=
  .answer (.text 200 ((request.visibleHeader? requestIdHeader).getD "none"))

/-- Paths that can be fetched, and what is done for them. -/
def fetches : List (String × (Request → Work)) := [
  ("/hello", fun _ => .answer (.text 200 "hello")),
  ("/panic", fun _ => .broken),
  ("/seen-id", tellId)]

/-- A delegate with paths that can be fetched in front of other work. -/
def withFetches (otherwise : Request → Work) : Delegate := fun request =>
  match fetches.lookup request.target.path with
  | some work =>
    if Verb.get.serves request.method then ⟨none, work request⟩
    else ⟨some Verb.get.allowed, .answer (.bare 405)⟩
  | none => ⟨none, otherwise request⟩

/-- The delegate with paths that can be fetched. -/
def sample : Delegate := withFetches delayed

/-- The key that a path for waiting names. -/
def holdKey? (path : String) : Option String :=
  match Text.afterStart "/hold/".toList path.toList with
  | some key => if key.isEmpty ∨ key.contains '/' then none else some (String.ofList key)
  | none => none

/-- Waits to be told to go on where the path says so, and delays otherwise. -/
def heldOrDelayed (request : Request) : Work :=
  match holdKey? request.target.path with
  | some key => .hold key (.text 200 "released")
  | none => delayed request

/-- The delegate that can be made to wait. -/
def holding : Delegate := withFetches heldOrDelayed

end Delegate

end GracefulService
