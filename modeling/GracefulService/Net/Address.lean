import GracefulService.Number.Digits
import GracefulService.Text.Blank

/-!
# Socket addresses

Numerical socket addresses, read from text and shown in their canonical spelling. Version 4 groups
are decimal without leading zeros. Version 6 addresses stand between brackets, may leave out one run of
zero groups and may end in a version 4 address; the canonical spelling leaves out the first longest run
of at least two zero groups and spells mapped version 4 addresses as such.
-/

namespace GracefulService.Net

open Number

/-- A numerical address of a machine. -/
inductive Address where
  /-- Four octets. -/
  | v4 (a b c d : Nat)
  /-- Eight groups of 16 bits. -/
  | v6 (groups : List Nat)
deriving DecidableEq, Repr, Inhabited

/-- An address with the number of a socket on it. -/
structure SocketAddress where
  /-- The machine. -/
  address : Address
  /-- The socket. -/
  port : Nat
deriving DecidableEq, Repr, Inhabited

/-- Numbers of sockets have 16 bits. -/
def portLimit : Nat := Nat.pow 2 16

/-- A decimal octet of at most three digits and without a leading zero. -/
def octet? (cs : List Char) : Option Nat :=
  if 3 < cs.length then none
  else if cs.head? = some '0' ∧ cs.length ≠ 1 then none
  else readBelow? 256 cs

/-- A group of at most four hexadecimal digits. -/
def group? (cs : List Char) : Option Nat :=
  if 4 < cs.length then none else readHex? cs

/-- A version 4 address as octets. -/
def octets? (cs : List Char) : Option (Nat × Nat × Nat × Nat) :=
  match Text.splitAt '.' cs with
  | [a, b, c, d] => do
    return (← octet? a, ← octet? b, ← octet? c, ← octet? d)
  | _ => none

/-- Groups between colons; the last of several may be a version 4 address and counts for two. -/
def groups? : List (List Char) → Option (List Nat)
  | [] => some []
  | [last] =>
    match octets? last with
    | some (a, b, c, d) => some [a * 256 + b, c * 256 + d]
    | none => (group? last).map ([·])
  | part :: parts => do
    let group ← group? part
    let groups ← groups? parts
    return group :: groups

/-- The groups of one side of a left out run; a side may be empty. -/
def side? (cs : List Char) : Option (List Nat) :=
  if cs.isEmpty then some [] else groups? (Text.splitAt ':' cs)

/-- The text before and behind the first double colon. -/
def splitRun : List Char → Option (List Char × List Char)
  | [] => none
  | ':' :: ':' :: rest => some ([], rest)
  | c :: rest => (splitRun rest).map fun (left, right) => (c :: left, right)

/-- A text holds a version 4 address when a point stands in it. -/
def hasPoint (cs : List Char) : Bool := cs.contains '.'

/-- A version 6 address as eight groups. A left out run stands for at least one group and no version 4
address may stand before it. -/
def version6? (cs : List Char) : Option (List Nat) :=
  match splitRun cs with
  | none => do
    let groups ← groups? (Text.splitAt ':' cs)
    if groups.length = 8 then return groups else none
  | some (left, right) => do
    if hasPoint left then none
    let before ← side? left
    let behind ← side? right
    let present := before.length + behind.length
    if present < 8 then return before ++ List.replicate (8 - present) 0 ++ behind else none

/-- The number of a socket, with any leading zeros. -/
def port? (cs : List Char) : Option Nat := readBelow? portLimit cs

/-- The text before the last colon and the text behind it. -/
def splitLast (cs : List Char) : Option (List Char × List Char) :=
  (Text.splitFirst ':' cs.reverse).map fun (right, left) => (left.reverse, right.reverse)

/-- Scopes have 32 bits. -/
def scopeLimit : Nat := Nat.pow 2 32

/-- A version 6 address without the scope it may name. -/
def withoutScope? (cs : List Char) : Option (List Char) :=
  match Text.splitFirst '%' cs with
  | none => some cs
  | some (address, scope) => (readBelow? scopeLimit scope).map fun _ => address

/-- A socket address. -/
def SocketAddress.read? (cs : List Char) : Option SocketAddress := do
  let (host, port) ← splitLast cs
  let port ← port? port
  match host with
  | '[' :: rest =>
    if rest.getLast? ≠ some ']' then none
    let groups ← version6? (← withoutScope? rest.dropLast)
    return ⟨.v6 groups, port⟩
  | _ =>
    let (a, b, c, d) ← octets? host
    return ⟨.v4 a b c d, port⟩

/-- A version 4 address in decimal. -/
def showOctets (a b c d : Nat) : List Char :=
  Text.decimal a ++ '.' :: Text.decimal b ++ '.' :: Text.decimal c ++ '.' :: Text.decimal d

/-- Groups in hexadecimal between colons. -/
def showGroups : List Nat → List Char
  | [] => []
  | [last] => Text.hex last
  | group :: groups => Text.hex group ++ ':' :: showGroups groups

/-- How many zero groups stand at the front. -/
def zeroRun (groups : List Nat) : Nat := (groups.takeWhile (· = 0)).length

/-- Where the first longest run of zero groups begins, and how long it is. -/
def longestRun : List Nat → Nat × Nat
  | [] => (0, 0)
  | group :: groups =>
    let here := zeroRun (group :: groups)
    let (start, length) := longestRun groups
    if length ≤ here then (0, here) else (start + 1, length)

/-- The canonical spelling of an address. -/
def Address.chars : Address → List Char
  | .v4 a b c d => showOctets a b c d
  | .v6 [0, 0, 0, 0, 0, 0xffff, x, y] =>
    "::ffff:".toList ++ showOctets (x / 256) (x % 256) (y / 256) (y % 256)
  | .v6 groups =>
    let (start, length) := longestRun groups
    if length < 2 then showGroups groups
    else showGroups (groups.take start) ++ ':' :: ':' :: showGroups (groups.drop (start + length))

/-- The canonical spelling of an address as a text. -/
def Address.show (address : Address) : String := String.ofList address.chars

end GracefulService.Net
