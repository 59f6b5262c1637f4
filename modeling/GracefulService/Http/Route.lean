import GracefulService.Http.Message
import GracefulService.Text.Blank

/-!
# Routes

Paths with holes, and tables of them. A parameter in braces stands for one nonempty segment or the end
of one, a parameter with an asterisk for a nonempty rest of the path; doubled braces are plain. A table
is built only from paths that are well formed and never claim the same requests, so at most one route
is the most specific for a path, whatever the order of the routes.
-/

namespace GracefulService.Http

/-- A piece of a path with holes. -/
inductive Piece where
  /-- A character that stands for itself. -/
  | plain (c : Char)
  /-- A nonempty run of characters up to the next slash. -/
  | segment
  /-- Everything that is left, at least one character. -/
  | rest
deriving DecidableEq, Repr, Inhabited

/-- Why a table of routes cannot be built. -/
inductive RouteFault where
  /-- A path does not start at the root. -/
  | relative (path : String)
  /-- A segment starts with a mark that older notations used for holes. -/
  | oldNotation (path : String)
  /-- The braces of a path do not make sense. -/
  | malformed (path : String)
  /-- Two routes serve the same path and method. -/
  | overlap (path : String)
  /-- Two paths claim the same requests. -/
  | conflict (path : String)
deriving DecidableEq, Repr, Inhabited

/-- A character of a path and whether it was doubled, which makes a brace plain. -/
abbrev Marked := Char × Bool

/-- The characters of a path; a doubled brace counts once and is plain. -/
def markBraces : List Char → List Marked
  | '\x7b' :: '\x7b' :: cs => ('\x7b', true) :: markBraces cs
  | '\x7d' :: '\x7d' :: cs => ('\x7d', true) :: markBraces cs
  | c :: cs => (c, false) :: markBraces cs
  | [] => []

/-- A brace that opens a hole. -/
def opensHole (m : Marked) : Bool := m = ('\x7b', false)

/-- A brace that closes a hole. -/
def closesHole (m : Marked) : Bool := m = ('\x7d', false)

/-- What follows the name of a hole, behind its first character. -/
def skipName : List Marked → Option (List Marked)
  | [] => none
  | m :: ms =>
    if closesHole m then some ms
    else if m.1 = '*' ∨ m.1 = '/' then none
    else skipName ms

/-- What is left after a name is shorter. -/
theorem skipName_length {ms rest : List Marked} (h : skipName ms = some rest) :
    rest.length < ms.length := by
  induction ms with
  | nil => simp [skipName] at h
  | cons m ms ih =>
    simp only [skipName] at h
    split at h
    · cases h; simp
    · split at h
      · cases h
      · have := ih h; simp; omega

/-- A hole is read behind its opening brace: whether it takes the whole rest, and what follows it. -/
def readHole? : List Marked → Option (Bool × List Marked)
  | [] => none
  | first :: ms =>
    if first.1 = '\x7d' then none
    else if first.1 = '*' then
      match ms with
      | next :: _ => if closesHole next then none else (skipName ms).map fun rest => (true, rest)
      | [] => none
    else (skipName ms).map fun rest => (false, rest)

/-- What is left after a hole is shorter. -/
theorem readHole?_length {ms rest : List Marked} {whole : Bool}
    (h : readHole? ms = some (whole, rest)) : rest.length < ms.length := by
  cases ms with
  | nil => simp [readHole?] at h
  | cons first ms =>
    simp only [readHole?] at h
    split at h
    · cases h
    · split at h
      · cases ms with
        | nil => cases h
        | cons next ms =>
          simp only at h
          split at h
          · cases h
          · obtain ⟨r, hr, he⟩ := Option.map_eq_some_iff.1 h
            cases he
            have := skipName_length hr
            simp at this ⊢
            omega
      · obtain ⟨r, hr, he⟩ := Option.map_eq_some_iff.1 h
        cases he
        have := skipName_length hr
        simp
        omega

/-- The pieces of a path. A hole ends its segment, and one that takes the rest ends the path. -/
def readPieces? (ms : List Marked) : Option (List Piece) :=
  match ms with
  | [] => some []
  | m :: tail =>
    if closesHole m then none
    else if !opensHole m then (readPieces? tail).map (.plain m.1 :: ·)
    else match _h : readHole? tail with
      | none => none
      | some (true, rest) => if rest.isEmpty then some [.rest] else none
      | some (false, rest) =>
        match rest with
        | [] => some [.segment]
        | next :: after =>
          if next.1 = '/' then (readPieces? (next :: after)).map (.segment :: ·) else none
termination_by ms.length
decreasing_by
  · simp
  · have := readHole?_length _h
    simp at this ⊢
    omega

/-- A segment starts with a mark of older notations. -/
def hasOldNotation (path : List Char) : Bool :=
  (Text.splitAt '/' path).any fun segment => segment.head? = some ':' || segment.head? = some '*'

/-- The pieces of the path of a route. -/
def readRoutePath (path : String) : Except RouteFault (List Piece) :=
  if path.toList.head? ≠ some '/' then .error (.relative path)
  else if hasOldNotation path.toList then .error (.oldNotation path)
  else match readPieces? (markBraces path.toList) with
    | some pieces => .ok pieces
    | none => .error (.malformed path)

/-- A path fits its pieces. -/
def fits : List Piece → List Char → Bool
  | [], cs => cs.isEmpty
  | .plain c :: pieces, d :: cs => c = d && fits pieces cs
  | .plain _ :: _, [] => false
  | .segment :: pieces, cs =>
    let (segment, rest) := cs.span (· ≠ '/')
    !segment.isEmpty && fits pieces rest
  | .rest :: _, cs => !cs.isEmpty

/-- How specific a piece is. -/
def Piece.weight : Piece → Nat
  | plain _ => 2
  | segment => 1
  | rest => 0

/-- Where two paths differ first, the first has the more specific piece. -/
def isMoreSpecific : List Piece → List Piece → Bool
  | p :: ps, q :: qs => if p = q then isMoreSpecific ps qs else q.weight < p.weight
  | _, _ => false

/-- Two paths claim the same requests: they have the same pieces, or where they differ first both have
a hole. -/
def clash : List Piece → List Piece → Bool
  | [], [] => true
  | p :: ps, q :: qs => if p = q then clash ps qs else p.weight < 2 && q.weight < 2
  | _, _ => false

/-- What happens to requests for one path. -/
structure Route (α : Type) where
  /-- The path as written. -/
  path : String
  /-- The path with its holes. -/
  pieces : List Piece
  /-- What is done, by method. -/
  actions : List (Verb × α)
deriving Repr

/-- Routes that do not get in each other's way. -/
structure RouteTable (α : Type) where
  /-- The routes, in the order in which they were added. -/
  routes : List (Route α)
deriving Repr

namespace RouteTable

variable {α : Type}

/-- No routes. -/
def empty : RouteTable α := ⟨[]⟩

/-- The routes with one more action on a path that is known. -/
def addAction (path : String) (verb : Verb) (action : α) :
    List (Route α) → Except RouteFault (List (Route α))
  | [] => .ok []
  | route :: routes =>
    if route.path = path then
      if route.actions.any fun known => known.1 = verb then .error (.overlap path)
      else .ok ({ route with actions := route.actions ++ [(verb, action)] } :: routes)
    else (addAction path verb action routes).map (route :: ·)

/-- The table with one more route. -/
def add (table : RouteTable α) (path : String) (verb : Verb) (action : α) :
    Except RouteFault (RouteTable α) := do
  let pieces ← readRoutePath path
  if table.routes.any fun route => route.path = path then
    return ⟨← addAction path verb action table.routes⟩
  else if table.routes.any fun route => clash route.pieces pieces then
    .error (.conflict path)
  else return ⟨table.routes ++ [⟨path, pieces, [(verb, action)]⟩]⟩

/-- The table of some routes. -/
def build (routes : List (String × Verb × α)) : Except RouteFault (RouteTable α) :=
  routes.foldlM (fun table (path, verb, action) => table.add path verb action) empty

/-- The more specific of two routes. -/
def prefer (held : Option (Route α)) (route : Route α) : Option (Route α) :=
  match held with
  | none => some route
  | some held => if isMoreSpecific route.pieces held.pieces then some route else some held

/-- The route for a path. -/
def route? (table : RouteTable α) (path : String) : Option (Route α) :=
  (table.routes.filter fun route => fits route.pieces path.toList).foldl prefer none

end RouteTable

/-- What a table does with a request. -/
inductive Dispatch (α : Type) where
  /-- A route serves path and method. -/
  | served (action : α)
  /-- A route serves the path, with other methods. -/
  | otherMethods (allowed : String)
  /-- No route serves the path. -/
  | unknown
deriving Repr

/-- The methods that a route serves, as they are listed to a client. -/
def Route.allowed {α : Type} (route : Route α) : String :=
  ",".intercalate (route.actions.map fun action => action.1.allowed)

/-- What a route does with a method: its own action comes before the action of a method that serves
it too. -/
def Route.action? {α : Type} (route : Route α) (method : Method) : Option α :=
  let own := route.actions.find? fun action => .standard action.1 = method
  let other := route.actions.find? fun action => action.1.serves method
  (own.or other).map (·.2)

/-- What a table does with a request. -/
def RouteTable.dispatch {α : Type} (table : RouteTable α) (request : Request) : Dispatch α :=
  match table.route? request.target.path with
  | none => .unknown
  | some route =>
    match route.action? request.method with
    | some action => .served action
    | none => .otherMethods route.allowed

end GracefulService.Http
