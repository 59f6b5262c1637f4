import GracefulService.Http.Message
import GracefulService.Json.Printer
import GracefulService.Json.Reader
import GracefulService.Net.Url
import GracefulService.ProbeClient.Arguments

/-!
# Inquiries

The probe client asks one question and reports the answer: the body to its output, and the status to its
error output and its exit code unless the answer is a success. An answer in JSON is laid out over several
lines.
-/

namespace GracefulService.ProbeClient

open Http

/-- What goes out to a service. -/
structure Inquiry where
  /-- The method. -/
  verb : Verb
  /-- Where it goes. -/
  url : Net.Url
  /-- The types of body that are welcome. -/
  accept : String
deriving DecidableEq, Repr, Inhabited

/-- Why no answer came. -/
inductive InquiryFault where
  /-- The location cannot be read. -/
  | unreadable
  /-- The location is not one that can be asked. -/
  | unsuitable (url : Net.Url)
  /-- Nobody answers there. -/
  | unreached (url : Net.Url)
deriving DecidableEq, Repr, Inhabited

/-- A fault in words. -/
def InquiryFault.message : InquiryFault → String
  | unreadable => "builder error"
  | unsuitable url => "builder error for url (" ++ url.written ++ ")"
  | unreached url => "error sending request for url (" ++ url.written ++ ")"

/-- The type of body that a format asks for. -/
def acceptOf : BodyFormat → String
  | .text => "text/plain"
  | .json => "application/json"

/-- The location of a question: the path behind the base without the slashes at its end. -/
def location (arguments : Arguments) : String :=
  String.ofList ((arguments.base.toList.reverse.dropWhile (· = '/')).reverse) ++ arguments.path

/-- A location can be asked when it names a machine that speaks HTTP. -/
def isSuitable (url : Net.Url) : Bool :=
  url.host.isSome && (url.scheme = "http" || url.scheme = "https")

/-- What goes out for the arguments. -/
def Inquiry.make (arguments : Arguments) : Except InquiryFault Inquiry :=
  match Net.Url.read? (location arguments) with
  | none => .error .unreadable
  | some url =>
    if isSuitable url then .ok ⟨arguments.question.verb, url, acceptOf arguments.format⟩
    else .error (.unsuitable url)

/-- What the program leaves behind. -/
structure Ending where
  /-- The exit code. -/
  exit : Nat
  /-- The output. -/
  output : String
  /-- The error output. -/
  errors : String
  /-- What reached a service. -/
  asked : Option Inquiry
deriving DecidableEq, Repr, Inhabited

/-- The text of a body: a mark of the byte order at its start does not belong to it. -/
def bodyText (body : String) : String :=
  match body.toList with
  | '\ufeff' :: rest => String.ofList rest
  | _ => body

/-- A body in the words of the output. -/
def present (format : BodyFormat) (body : String) : String :=
  match format with
  | .text => body
  | .json =>
    match Json.read body with
    | .ok document => Json.pretty document
    | .error _ => body

/-- A status code with its words. -/
def statusLine (status : Nat) : String :=
  String.ofList (Text.decimal status) ++ " "
    ++ (reasonPhrase status).getD "<unknown status code>"

/-- What is left behind after an answer. -/
def report (format : BodyFormat) (inquiry : Inquiry) (response : Response) : Ending :=
  let output := present format (bodyText response.body) ++ "\n"
  if response.isSuccess then ⟨0, output, "", some inquiry⟩
  else ⟨1, output, "Probe returned status " ++ statusLine response.status ++ "\n", some inquiry⟩

/-- What is left behind without an answer. -/
def giveUp (fault : InquiryFault) : Ending := ⟨2, "", "Error: " ++ fault.message ++ "\n", none⟩

/-- Asks a question; `exchange` brings the answer of a service, if one answers. -/
def ask (exchange : Inquiry → Option Response) (arguments : Arguments) : Ending :=
  match Inquiry.make arguments with
  | .error fault => giveUp fault
  | .ok inquiry =>
    match exchange inquiry with
    | none => giveUp (.unreached inquiry.url)
    | some response => report arguments.format inquiry response

end GracefulService.ProbeClient
