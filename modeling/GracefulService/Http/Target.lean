import GracefulService.Text.Octets

/-!
# Request targets

What a request asks for: a path, absolute or behind a scheme and an authority, with an optional query;
a bare authority; or an asterisk. A fragment is dropped. Nothing is decoded here: a path is compared as
it was written.
-/

namespace GracefulService.Http

/-- A parsed request target. -/
structure Target where
  /-- The path as written; empty where only an authority was given. -/
  path : String
  /-- What follows the first question mark. -/
  query : Option String
deriving DecidableEq, Repr, Inhabited

namespace Target

/-- The greatest number of octets in a target. -/
def lengthLimit : Nat := 65534

/-- Characters that stand for themselves in a path. -/
def isPathChar (c : Char) : Bool :=
  let n := c.toNat
  n = 0x21 || (0x24 ≤ n && n ≤ 0x3B) || n = 0x3D || (0x40 ≤ n && n ≤ 0x5F) || (0x61 ≤ n && n ≤ 0x7A)
    || n = 0x7C || 0x7E ≤ n || c = '"' || c = '\x7b' || c = '\x7d'

/-- Characters that stand for themselves in a query. -/
def isQueryChar (c : Char) : Bool :=
  let n := c.toNat
  n = 0x21 || (0x24 ≤ n && n ≤ 0x3B) || n = 0x3D || 0x3F ≤ n

/-- Characters of a scheme. -/
def isSchemeChar (c : Char) : Bool := c.isAlphanum || c = '+' || c = '-' || c = '.'

/-- Characters of an authority, the percent sign apart. -/
def isAuthorityChar (c : Char) : Bool := c.isAlphanum || "!$&'()*+,-.:;=@[]_~".toList.contains c

/-- A query, up to the fragment. -/
def readQuery (cs : List Char) : Option String :=
  let text := cs.takeWhile (· ≠ '#')
  if text.all isQueryChar then some (String.ofList text) else none

/-- A path with its query. An empty path is the root. -/
def readPath (cs : List Char) : Option Target :=
  let (path, rest) := cs.span fun c => c ≠ '?' && c ≠ '#'
  if !path.all isPathChar then none
  else
    let path := if path.isEmpty then "/" else String.ofList path
    match rest with
    | '?' :: query => (readQuery query).map fun query => ⟨path, some query⟩
    | _ => some ⟨path, none⟩

/-- What has been seen of an authority. -/
structure AuthoritySeen where
  /-- Colons since the last at sign or closing bracket. -/
  colons : Nat
  /-- A bracket was opened. -/
  opened : Bool
  /-- A bracket was closed. -/
  closed : Bool
  /-- A percent sign stands behind the last at sign or closing bracket. -/
  percent : Bool
  /-- The last character was an at sign. -/
  endsInAt : Bool
deriving DecidableEq, Repr

/-- One more character of an authority. An authority holds at most one pair of brackets and at most
eight colons in a row of parts. -/
def AuthoritySeen.next (seen : AuthoritySeen) (c : Char) : Option AuthoritySeen :=
  let seen := { seen with endsInAt := false }
  if c = '%' then some { seen with percent := true }
  else if !isAuthorityChar c then none
  else if c = ':' then if seen.colons < 8 then some { seen with colons := seen.colons + 1 } else none
  else if c = '[' then if seen.percent || seen.opened then none else some { seen with opened := true }
  else if c = ']' then
    if seen.opened && !seen.closed then
      some { seen with closed := true, colons := 0, percent := false }
    else none
  else if c = '@' then some { seen with colons := 0, percent := false, endsInAt := true }
  else some seen

/-- An authority may end here. -/
def AuthoritySeen.isComplete (seen : AuthoritySeen) : Bool :=
  seen.opened = seen.closed && seen.colons ≤ 1 && !seen.endsInAt && !seen.percent

/-- Reads an authority and gives what follows it and whether it was empty. -/
def readAuthority (cs : List Char) : Option (Bool × List Char) :=
  let (authority, rest) := cs.span fun c => c ≠ '/' && c ≠ '?' && c ≠ '#'
  let seen := authority.foldlM AuthoritySeen.next ⟨0, false, false, false, false⟩
  match seen with
  | some seen => if seen.isComplete then some (authority.isEmpty, rest) else none
  | none => none

/-- The longest scheme. -/
def schemeLimit : Nat := 64

/-- What follows a scheme and its two slashes, when the text begins with one; `none` for a scheme that
is too long. -/
def afterScheme (cs : List Char) : Option (Option (List Char)) :=
  let (scheme, rest) := cs.span isSchemeChar
  match rest with
  | ':' :: '/' :: '/' :: rest =>
    if schemeLimit < scheme.length then none else some (some rest)
  | _ => some none

/-- Reads a request target. -/
def read? (s : String) : Option Target :=
  if lengthLimit < s.utf8ByteSize then none
  else match s.toList with
    | [] => none
    | ['*'] => some ⟨"*", none⟩
    | '/' :: rest => readPath ('/' :: rest)
    | cs => do
      match ← afterScheme cs with
      | none =>
        match ← readAuthority cs with
        | (_, []) => return ⟨"", none⟩
        | _ => none
      | some cs =>
        match ← readAuthority cs with
        | (true, _) => none
        | (false, rest) => readPath rest

end Target

end GracefulService.Http
