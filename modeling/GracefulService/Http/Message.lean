import GracefulService.Http.Method
import GracefulService.Http.Target

/-!
# Requests and responses

A request has a method, a target and headers; a response a status, a body and the headers a service
sets. A response that leaves through a route is finished there: it says how long its body is, which
methods the route serves when it was asked for another, and loses its body where the method asks for
none.
-/

namespace GracefulService.Http

/-- A request. The names of its headers are in small letters. -/
structure Request where
  /-- The method. -/
  method : Method
  /-- What is asked for. -/
  target : Target
  /-- The headers in order. -/
  headers : List (String × String)
deriving DecidableEq, Repr, Inhabited

namespace Request

/-- Characters that may stand in the value of a header. -/
def isHeaderChar (c : Char) : Bool := c = '\t' || (0x20 ≤ c.toNat && c.toNat ≠ 0x7F)

/-- A header that can be sent. -/
def readHeader? : String × String → Option (String × String)
  | (name, value) =>
    if isToken name && value.toList.all isHeaderChar then
      some (String.ofList (Text.lowerAscii name.toList), value)
    else none

/-- A request from its parts, when all of them are sound. -/
def read? (method target : String) (headers : List (String × String)) : Option Request := do
  let method ← Method.ofName? method
  let target ← Target.read? target
  let headers ← headers.mapM readHeader?
  return ⟨method, target, headers⟩

/-- The first value of a header. -/
def header? (request : Request) (name : String) : Option String := request.headers.lookup name

/-- A header value that is visible text. -/
def isVisible (value : String) : Bool :=
  value.toList.all fun c => c = '\t' || (0x20 ≤ c.toNat && c.toNat < 0x7F)

/-- The first value of a header, when it is visible text. -/
def visibleHeader? (request : Request) (name : String) : Option String :=
  match request.header? name with
  | some value => if isVisible value then some value else none
  | none => none

/-- The path starts at the root. -/
def isRooted (request : Request) : Bool := request.target.path.toList.head? = some '/'

end Request

/-- A response. -/
structure Response where
  /-- The status code. -/
  status : Nat
  /-- What kind of text the body is. -/
  contentType : Option String
  /-- How many octets the body has, or would have. -/
  contentLength : Option Nat
  /-- Which methods are served. -/
  allow : Option String
  /-- Which request this answers. -/
  requestId : Option String
  /-- The body. -/
  body : String
deriving DecidableEq, Repr, Inhabited

namespace Response

/-- The type of plain text. -/
def plainText : String := "text/plain; charset=utf-8"

/-- The type of JSON. -/
def jsonText : String := "application/json"

/-- A response without a body. -/
def bare (status : Nat) : Response := ⟨status, none, none, none, none, ""⟩

/-- A response with a body of a type. -/
def withBody (status : Nat) (contentType body : String) : Response :=
  ⟨status, some contentType, none, none, none, body⟩

/-- A response in plain text. -/
def text (status : Nat) (body : String) : Response := withBody status plainText body

/-- The answer to a request that gets no slot, or loses it. -/
def unavailable : Response := text 503 "Service Unavailable"

/-- The answer where serving a request broke. -/
def panicked : Response := text 500 "Service panicked"

/-- The response to a method that opens a tunnel has no body when it is a success. -/
def asTunnel (response : Response) : Response :=
  if response.contentLength.isSome || !response.body.isEmpty then { response with body := "" }
  else response

/-- A success has a status in the two hundreds. -/
def isSuccess (response : Response) : Bool := 200 ≤ response.status && response.status < 300

/-- The response as it leaves through a route. -/
def finish (method : Method) (allow : Option String) (response : Response) : Response :=
  if method = .standard .connect ∧ response.isSuccess = true then response.asTunnel
  else
    let full := { response with
      allow := response.allow.or allow
      contentLength := response.contentLength.or (some response.body.utf8ByteSize) }
    if method = .standard .head then { full with body := "" } else full

end Response

/-- The words that go with a status code. -/
def reasonPhrase : Nat → Option String
  | 100 => some "Continue"
  | 101 => some "Switching Protocols"
  | 102 => some "Processing"
  | 200 => some "OK"
  | 201 => some "Created"
  | 202 => some "Accepted"
  | 203 => some "Non Authoritative Information"
  | 204 => some "No Content"
  | 205 => some "Reset Content"
  | 206 => some "Partial Content"
  | 207 => some "Multi-Status"
  | 208 => some "Already Reported"
  | 226 => some "IM Used"
  | 300 => some "Multiple Choices"
  | 301 => some "Moved Permanently"
  | 302 => some "Found"
  | 303 => some "See Other"
  | 304 => some "Not Modified"
  | 305 => some "Use Proxy"
  | 307 => some "Temporary Redirect"
  | 308 => some "Permanent Redirect"
  | 400 => some "Bad Request"
  | 401 => some "Unauthorized"
  | 402 => some "Payment Required"
  | 403 => some "Forbidden"
  | 404 => some "Not Found"
  | 405 => some "Method Not Allowed"
  | 406 => some "Not Acceptable"
  | 407 => some "Proxy Authentication Required"
  | 408 => some "Request Timeout"
  | 409 => some "Conflict"
  | 410 => some "Gone"
  | 411 => some "Length Required"
  | 412 => some "Precondition Failed"
  | 413 => some "Payload Too Large"
  | 414 => some "URI Too Long"
  | 415 => some "Unsupported Media Type"
  | 416 => some "Range Not Satisfiable"
  | 417 => some "Expectation Failed"
  | 418 => some "I'm a teapot"
  | 421 => some "Misdirected Request"
  | 422 => some "Unprocessable Entity"
  | 423 => some "Locked"
  | 424 => some "Failed Dependency"
  | 425 => some "Too Early"
  | 426 => some "Upgrade Required"
  | 428 => some "Precondition Required"
  | 429 => some "Too Many Requests"
  | 431 => some "Request Header Fields Too Large"
  | 451 => some "Unavailable For Legal Reasons"
  | 500 => some "Internal Server Error"
  | 501 => some "Not Implemented"
  | 502 => some "Bad Gateway"
  | 503 => some "Service Unavailable"
  | 504 => some "Gateway Timeout"
  | 505 => some "HTTP Version Not Supported"
  | 506 => some "Variant Also Negotiates"
  | 507 => some "Insufficient Storage"
  | 508 => some "Loop Detected"
  | 510 => some "Not Extended"
  | 511 => some "Network Authentication Required"
  | _ => none

end GracefulService.Http
