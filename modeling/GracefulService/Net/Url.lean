import GracefulService.Net.Address
import GracefulService.Text.Octets
import GracefulService.Text.Quoted

/-!
# Locations

Locations of resources, read the forgiving way browsers do and written in one canonical form: names in
small letters, numerical hosts in their usual spelling, the usual socket left out, dots in paths
resolved, and everything that must not stand as it is escaped.
-/

namespace GracefulService.Net

open Number

/-- A location. Names of users are read and forgotten. -/
structure Url where
  /-- How the resource is reached. -/
  scheme : String
  /-- The machine, when one is named. -/
  host : Option String
  /-- The socket, unless it is the usual one of the scheme. -/
  port : Option Nat
  /-- The path as it is written. -/
  path : String
  /-- What follows the question mark. -/
  query : Option String
  /-- What follows the number sign. -/
  fragment : Option String
deriving DecidableEq, Repr, Inhabited

namespace Url

/-- The schemes for which hosts and paths have a meaning, with their usual sockets. -/
def knownSchemes : List (String × Option Nat) :=
  [("http", some 80), ("https", some 443), ("ws", some 80), ("wss", some 443), ("ftp", some 21),
    ("file", none)]

/-- A scheme for which hosts and paths have a meaning. -/
def isKnown (scheme : String) : Bool := (knownSchemes.lookup scheme).isSome

/-- A control character, or one outside ASCII. -/
def isControl (c : Char) : Bool := c.toNat < 0x20 || 0x7E < c.toNat

/-- Characters that are escaped in a fragment. -/
def escapedInFragment (c : Char) : Bool := isControl c || " \"<>`".toList.contains c

/-- Characters that are escaped in a query. -/
def escapedInQuery (known : Bool) (c : Char) : Bool :=
  isControl c || " \"#<>".toList.contains c || (known && c = '\'')

/-- Characters that are escaped in a path. -/
def escapedInPath (c : Char) : Bool :=
  escapedInFragment c || c = '#' || c = '?' || c = '\x7b' || c = '\x7d'

/-- A hexadecimal digit in capitals. -/
def capitalDigit (n : Nat) : Char := (Text.hexDigit n).toUpper

/-- The escape of an octet. -/
def escapeOctet (octet : Nat) : List Char :=
  ['%', capitalDigit (octet / 16), capitalDigit (octet % 16)]

/-- Some characters by their escapes, the others as they stand. -/
def escape (escaped : Char → Bool) (cs : List Char) : List Char :=
  cs.flatMap fun c =>
    if escaped c then (Text.octets (String.singleton c)).flatMap escapeOctet else [c]

/-- The text without the spaces and control characters at its ends, and without line ends and tabs. -/
def clean (cs : List Char) : List Char :=
  let isEdge := fun (c : Char) => decide (c.toNat ≤ 0x20)
  let trimmed := ((cs.dropWhile isEdge).reverse.dropWhile isEdge).reverse
  trimmed.filter fun c => c ≠ '\t' ∧ c ≠ '\n' ∧ c ≠ '\r'

/-- A scheme and what follows its colon. -/
def splitScheme? (cs : List Char) : Option (String × List Char) :=
  let (scheme, rest) := cs.span fun c => c.isAlphanum || c = '+' || c = '-' || c = '.'
  match scheme.head?, rest with
  | some first, ':' :: rest =>
    if first.isAlpha then some (String.ofList (Text.lowerAscii scheme), rest) else none
  | _, _ => none

/-- The octets that percent signs escape in a host, in place. -/
def unescapeHost : List Nat → List Nat
  | 0x25 :: high :: low :: rest =>
    match readHex? [Char.ofNat high, Char.ofNat low] with
    | some octet => octet :: unescapeHost rest
    | none => 0x25 :: unescapeHost (high :: low :: rest)
  | octet :: rest => octet :: unescapeHost rest
  | [] => []

/-- Characters that no name of a host has. -/
def isForbidden (c : Char) : Bool :=
  c.toNat ≤ 0x20 || 0x7F ≤ c.toNat || "#/:<>?@[\\]^|%".toList.contains c

/-- A part of a numerical host, in base eight, ten or sixteen. -/
def hostNumber? (cs : List Char) : Option Nat :=
  match cs with
  | [] => none
  | ['0', 'x'] => some 0
  | '0' :: 'x' :: digits => readHex? digits
  | ['0'] => some 0
  | '0' :: digits => readDigits 8 (fun c => if c = '8' ∨ c = '9' then none else digit? c) 0 digits
  | digits => readDecimal? digits

/-- The parts of a host without an empty last one. -/
def hostParts (cs : List Char) : List (List Char) :=
  let parts := Text.splitAt '.' cs
  if 1 < parts.length ∧ parts.getLast? = some [] then parts.dropLast else parts

/-- A host whose last part is a number has to be a numerical one. -/
def endsInNumber (cs : List Char) : Bool :=
  match (hostParts cs).getLast? with
  | some last => (!last.isEmpty && last.all Char.isDigit) || (hostNumber? last).isSome
  | none => false

/-- The number of a numerical host: all parts but the last are octets, the last one is the rest. -/
def hostValue? : (left : Nat) → List Nat → Option Nat
  | _, [] => none
  | left, [last] => if last < Nat.pow 256 left then some last else none
  | left, part :: parts =>
    match hostValue? (left - 1) parts with
    | some value => if part < 256 then some (part * Nat.pow 256 (left - 1) + value) else none
    | none => none

/-- A numerical host in its usual spelling. -/
def numericalHost? (cs : List Char) : Option String := do
  let numbers ← (hostParts cs).mapM hostNumber?
  if 4 < numbers.length then none
  else
    let value ← hostValue? 4 numbers
    return String.ofList (showOctets (value / Nat.pow 256 3) (value / Nat.pow 256 2 % 256)
      (value / 256 % 256) (value % 256))

/-- A host between brackets. -/
def bracketedHost? (cs : List Char) : Option String := do
  let groups ← version6? cs
  let (start, length) := longestRun groups
  let text := if length < 2 then showGroups groups
    else showGroups (groups.take start) ++ ':' :: ':' :: showGroups (groups.drop (start + length))
  return String.ofList ('[' :: text ++ [']'])

/-- The host of a known scheme. -/
def knownHost? (cs : List Char) : Option String :=
  match cs with
  | [] => none
  | '[' :: rest => if rest.getLast? = some ']' then bracketedHost? rest.dropLast else none
  | _ =>
    let plain := Text.readOctets (unescapeHost (Text.octets (String.ofList cs)))
    let name := Text.lowerAscii plain
    if name.any isForbidden then none
    else if endsInNumber name then numericalHost? name
    else some (String.ofList name)

/-- The host of any other scheme. -/
def otherHost? (cs : List Char) : Option String :=
  match cs with
  | '[' :: rest => if rest.getLast? = some ']' then bracketedHost? rest.dropLast else none
  | _ =>
    if cs.any fun c => c ≠ '%' && c.toNat < 0x7F && isForbidden c then none
    else some (String.ofList (escape isControl cs))

/-- The host and what follows its colon, if there is one outside of brackets. -/
def splitPort : (inside : Bool) → List Char → List Char × Option (List Char)
  | _, [] => ([], none)
  | inside, c :: rest =>
    if c = ':' ∧ inside = false then ([], some rest)
    else
      let inside := if c = '[' then true else if c = ']' then false else inside
      let (host, port) := splitPort inside rest
      (c :: host, port)

/-- The socket, or none for the usual one; the outer `none` means that it is no number of a socket. -/
def readPort? (scheme : String) : Option (List Char) → Option (Option Nat)
  | none => some none
  | some [] => some none
  | some digits => do
    let port ← readBelow? portLimit digits
    return if knownSchemes.lookup scheme = some (some port) then none else some port

/-- Host and socket. -/
def readAuthority? (scheme : String) (cs : List Char) : Option (Option String × Option Nat) := do
  let behindUser := (cs.reverse.takeWhile (· ≠ '@')).reverse
  let (host, port) := splitPort false behindUser
  let host ← if isKnown scheme then knownHost? host else otherHost? host
  let port ← readPort? scheme port
  return (some host, port)

/-- A segment that stays where it is. -/
def isSingleDot (cs : List Char) : Bool :=
  let small := Text.lowerAscii cs
  small = ['.'] || small = "%2e".toList

/-- A segment that goes up. -/
def isDoubleDot (cs : List Char) : Bool :=
  let small := Text.lowerAscii cs
  small = "..".toList || small = ".%2e".toList || small = "%2e.".toList
    || small = "%2e%2e".toList

/-- The segments of a path with its dots resolved, given the segments before them. A dot at the end
leaves an empty segment. -/
def resolveDots (before : List (List Char)) : List (List Char) → List (List Char)
  | [] => before
  | [last] =>
    if isDoubleDot last then before.dropLast ++ [[]]
    else if isSingleDot last then before ++ [[]]
    else before ++ [last]
  | segment :: segments =>
    if isDoubleDot segment then resolveDots before.dropLast segments
    else if isSingleDot segment then resolveDots before segments
    else resolveDots (before ++ [segment]) segments

/-- A path that is empty or starts at the root, in its canonical form. -/
def readPath (known : Bool) (cs : List Char) : String :=
  if cs.isEmpty then if known then "/" else ""
  else
    let segments := resolveDots [] (Text.splitAt '/' (cs.drop 1))
    String.ofList (segments.flatMap fun segment => '/' :: escape escapedInPath segment)

/-- Both kinds of slashes as one. -/
def evenSlashes (cs : List Char) : List Char := cs.map fun c => if c = '\\' then '/' else c

/-- The host and the path of a file. Most files are on no host. -/
def readFileHierarchy? (cs : List Char) : Option (Option String × String) :=
  match cs with
  | '/' :: '/' :: rest => do
    let (authority, path) := rest.span (· ≠ '/')
    if authority.isEmpty then return (none, readPath true path)
    else
      let host ← knownHost? authority
      return (if host = "localhost" then none else some host, readPath true path)
  | '/' :: rest => some (none, readPath true ('/' :: rest))
  | path => some (none, readPath true ('/' :: path))

/-- What follows a scheme, up to the query. -/
def readHierarchy? (scheme : String) (cs : List Char) : Option (Option String × Option Nat × String) :=
  if scheme = "file" then do
    let (host, path) ← readFileHierarchy? (evenSlashes cs)
    return (host, none, path)
  else if isKnown scheme then do
    let (authority, path) := ((evenSlashes cs).dropWhile (· = '/')).span (· ≠ '/')
    let (host, port) ← readAuthority? scheme authority
    return (host, port, readPath true path)
  else match cs with
    | '/' :: '/' :: rest => do
      let (authority, path) := rest.span (· ≠ '/')
      let (host, port) ← readAuthority? scheme authority
      return (host, port, readPath false path)
    | '/' :: rest => some (none, none, readPath false ('/' :: rest))
    | path => some (none, none, String.ofList (escape isControl path))

/-- The text before a mark and, when there is one, the text behind it. -/
def cutAt (mark : Char) (cs : List Char) : List Char × Option (List Char) :=
  match Text.splitFirst mark cs with
  | some (before, behind) => (before, some behind)
  | none => (cs, none)

/-- Reads a location. -/
def read? (text : String) : Option Url := do
  let (scheme, rest) ← splitScheme? (clean text.toList)
  let (rest, fragment) := cutAt '#' rest
  let (hierarchy, query) := cutAt '?' rest
  let (host, port, path) ← readHierarchy? scheme hierarchy
  return ⟨scheme, host, port, path,
    query.map fun cs => String.ofList (escape (escapedInQuery (isKnown scheme)) cs),
    fragment.map fun cs => String.ofList (escape escapedInFragment cs)⟩

/-- What is asked for on the machine. -/
def target (url : Url) : String :=
  url.path ++ (url.query.map ("?" ++ ·)).getD ""

/-- A location in its canonical form. -/
def written (url : Url) : String :=
  let usual := if url.scheme = "file" then "//" else ""
  url.scheme ++ ":" ++ (url.host.map ("//" ++ ·)).getD usual
    ++ (url.port.map fun port => ":" ++ String.ofList (Text.decimal port)).getD ""
    ++ url.target ++ (url.fragment.map ("#" ++ ·)).getD ""

end Url

end GracefulService.Net
