import GracefulService.Text.Blank

/-!
# Request methods

The nine standard methods of HTTP and the methods that extend them. A method is a token; its case
counts.
-/

namespace GracefulService.Http

/-- A standard method. -/
inductive Verb where
  /-- Fetches. -/
  | get
  /-- Fetches all but the body. -/
  | head
  /-- Submits. -/
  | post
  /-- Stores. -/
  | put
  /-- Removes. -/
  | delete
  /-- Asks what is possible. -/
  | options
  /-- Changes a part. -/
  | patch
  /-- Echoes. -/
  | trace
  /-- Opens a tunnel. -/
  | connect
deriving DecidableEq, Repr, Inhabited

namespace Verb

/-- The name of a standard method. -/
def name : Verb → String
  | get => "GET"
  | head => "HEAD"
  | post => "POST"
  | put => "PUT"
  | delete => "DELETE"
  | options => "OPTIONS"
  | patch => "PATCH"
  | trace => "TRACE"
  | connect => "CONNECT"

/-- All standard methods. -/
def all : List Verb := [get, head, post, put, delete, options, patch, trace, connect]

/-- The standard method with a name. -/
def ofName? (s : String) : Option Verb := all.find? fun verb => verb.name = s

end Verb

/-- The method of a request. -/
inductive Method where
  /-- A standard method. -/
  | standard (verb : Verb)
  /-- Any other token. -/
  | extension (name : String)
deriving DecidableEq, Repr, Inhabited

/-- The characters of tokens. -/
def isTokenChar (c : Char) : Bool :=
  c.isAlphanum || "!#$%&'*+-.^_`|~".toList.contains c

/-- A token has at least one character. -/
def isToken (s : String) : Bool := !s.toList.isEmpty && s.toList.all isTokenChar

/-- The method with a name; a name that is no token names none. -/
def Method.ofName? (s : String) : Option Method :=
  match Verb.ofName? s with
  | some verb => some (.standard verb)
  | none => if isToken s then some (.extension s) else none

/-- A route for `verb` serves a request. Whatever can be fetched can be fetched without its body. -/
def Verb.serves (verb : Verb) (method : Method) : Bool :=
  method = .standard verb || (verb = .get && method = .standard .head)

/-- The methods that a route for `verb` serves, as they are listed to a client. -/
def Verb.allowed : Verb → String
  | get => "GET,HEAD"
  | verb => verb.name

end GracefulService.Http
