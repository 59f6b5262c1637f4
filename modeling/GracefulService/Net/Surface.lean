import GracefulService.Net.Address
import GracefulService.Text.Quoted

/-!
# Surfaces

A service talks to its clients on the primary surface and, when one is configured, to those who watch
over it on the management surface. Each surface is bound to a host and a socket number.
-/

namespace GracefulService

/-- Where a request arrives. -/
inductive Surface where
  /-- The surface for traffic. -/
  | primary
  /-- The surface for those who watch over the service. -/
  | management
deriving DecidableEq, Repr, Inhabited

/-- The name of a surface. -/
def Surface.name : Surface → String
  | primary => "primary"
  | management => "management"

/-- The kind of a surface, as it stands in an error record. -/
def Surface.record : Surface → String
  | primary => "Primary"
  | management => "Management"

/-- Where a surface should be bound. -/
structure Listener where
  /-- A host name or a numerical address. -/
  host : String
  /-- The socket, or zero for any free one. -/
  port : Nat
deriving DecidableEq, Repr, Inhabited

/-- All addresses of the machine, and any free socket. -/
def Listener.anywhere : Listener := ⟨"0.0.0.0", 0⟩

/-- Host and socket with a colon between them. -/
def withPort (host : String) (port : Nat) : String :=
  host ++ ":" ++ String.ofList (Text.decimal port)

/-- Host and socket with the host between brackets. -/
def bracketed (host : String) (port : Nat) : String := withPort ("[" ++ host ++ "]") port

/-- Where to bind, as one text. A host with colons gets brackets unless it has them. -/
def Listener.bindAddress (listener : Listener) : String :=
  if listener.host.toList.contains ':' ∧ listener.host.toList.head? ≠ some '[' then
    bracketed listener.host listener.port
  else withPort listener.host listener.port

/-- Where a surface is bound. -/
structure BoundAddress where
  /-- The numerical address. -/
  host : String
  /-- The socket. -/
  port : Nat
deriving DecidableEq, Repr, Inhabited

namespace BoundAddress

/-- The bound address of a socket address; a scope is not kept. -/
def ofSocket (socket : Net.SocketAddress) : BoundAddress := ⟨socket.address.show, socket.port⟩

/-- A bound address as one text. A host with colons gets brackets. -/
def display (address : BoundAddress) : String :=
  if address.host.toList.contains ':' then bracketed address.host address.port
  else withPort address.host address.port

/-- A bound address with the names of its parts, its socket shown as `port` does it. -/
def record (address : BoundAddress) (port : Nat → String) : String :=
  "BoundAddress \x7b host: " ++ Text.quoted address.host ++ ", port: " ++ port address.port ++ " \x7d"

end BoundAddress

end GracefulService
