import GracefulService.Net.Surface

/-!
# Machines

The machine a service runs on decides whether a socket can be bound. It knows its own addresses, lets no
two programs bind the same socket, keeps the low sockets for itself, and may keep its programs from
talking to each other.
-/

namespace GracefulService

/-- Why a socket could not be bound. -/
inductive SocketFault where
  /-- Another program, or this one, has bound it. -/
  | inUse
  /-- The machine keeps it for itself. -/
  | denied
  /-- The address is not one of this machine. -/
  | foreign
  /-- The host has no address. -/
  | unresolved
deriving DecidableEq, Repr, Inhabited

namespace SocketFault

/-- The words for a host without an address. -/
def unresolvedMessage : String :=
  "failed to lookup address information: Temporary failure in name resolution"

/-- A fault in words. -/
def message : SocketFault → String
  | inUse => "Address already in use (os error 98)"
  | denied => "Permission denied (os error 13)"
  | foreign => "Cannot assign requested address (os error 99)"
  | unresolved => unresolvedMessage

/-- A fault with the names of its parts. -/
def record : SocketFault → String
  | inUse => "Os \x7b code: 98, kind: AddrInUse, message: \"Address already in use\" \x7d"
  | denied => "Os \x7b code: 13, kind: PermissionDenied, message: \"Permission denied\" \x7d"
  | foreign =>
    "Os \x7b code: 99, kind: AddrNotAvailable, message: \"Cannot assign requested address\" \x7d"
  | unresolved =>
    "Custom \x7b kind: Uncategorized, error: " ++ Text.quoted unresolvedMessage ++ " \x7d"

end SocketFault

/-- What comes of binding a socket, given those that the service itself has bound. -/
abbrev Binding := List BoundAddress → Listener → Except SocketFault BoundAddress

/-- A machine. -/
structure Machine where
  /-- The sockets that other programs have bound. -/
  taken : List BoundAddress
  /-- Whether one program can reach another. -/
  connects : Bool
deriving DecidableEq, Repr, Inhabited

namespace Machine

/-- A machine that keeps its programs from talking to each other. -/
def confined (taken : List BoundAddress) : Machine := ⟨taken, false⟩

/-- The first socket that is free for every program. -/
def firstFree : Nat := 1024

/-- The first of the sockets that are given out where any socket will do. -/
def firstEphemeral : Nat := 32768

/-- The address of a host. -/
def resolve? (bindAddress : String) : Option Net.SocketAddress :=
  match Net.SocketAddress.read? bindAddress.toList with
  | some socket => some socket
  | none => do
    let port ← Text.afterStart "localhost:".toList bindAddress.toList
    return ⟨.v4 127 0 0 1, ← Net.port? port⟩

/-- An address of this machine. -/
def isLocal : Net.Address → Bool
  | .v4 a b c d => a = 127 || (a = 0 && b = 0 && c = 0 && d = 0)
  | .v6 groups => groups.all (· = 0)

/-- A host that stands for every address. -/
def isEveryAddress (host : String) : Bool := host = "0.0.0.0" || host = "::"

/-- Two sockets cannot be bound at the same time. -/
def collide (a b : BoundAddress) : Bool :=
  a.port = b.port && (a.host = b.host || isEveryAddress a.host || isEveryAddress b.host)

/-- A socket that is free: the one after all that are in use. -/
def freePort (used : List BoundAddress) : Nat :=
  used.foldl (fun port address => max port (address.port + 1)) firstEphemeral

/-- Binds a socket, given those that the service itself has bound. -/
def bindSocket (machine : Machine) (held : List BoundAddress) (socket : Net.SocketAddress) :
    Except SocketFault BoundAddress :=
  let used := machine.taken ++ held
  if socket.port ≠ 0 ∧ socket.port < firstFree then .error .denied
  else if !isLocal socket.address then .error .foreign
  else if socket.port = 0 then .ok (BoundAddress.ofSocket { socket with port := freePort used })
  else
    let address := BoundAddress.ofSocket socket
    if used.any (collide address) then .error .inUse else .ok address

/-- Binds a surface, given the sockets that the service itself has bound. -/
def bind (machine : Machine) (held : List BoundAddress) (listener : Listener) :
    Except SocketFault BoundAddress :=
  match resolve? listener.bindAddress with
  | none => .error .unresolved
  | some socket => machine.bindSocket held socket

end Machine

end GracefulService
