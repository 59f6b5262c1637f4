import GracefulService.Document

/-!
# Tables under construction

The tables of a TOML text grow in pieces: by headers, by keys with points in them, and by values. How a
table came about decides what may still be added to it, so a table under construction remembers whether
it was only implied by a longer path and whether a key with points made it.
-/

namespace GracefulService.Toml

/-- How a table came about. -/
structure Origin where
  /-- It stands on the way to something else and has not been defined itself. -/
  implied : Bool
  /-- A key with points made it. -/
  dotted : Bool
deriving DecidableEq, Repr, Inhabited

/-- A table that was defined by itself. -/
def Origin.defined : Origin := ⟨false, false⟩

/-- A value or table under construction. -/
inductive Node where
  /-- A finished value. -/
  | value (document : Document)
  /-- A table. -/
  | table (origin : Origin) (fields : List (String × Node))
  /-- Tables in a row; the last one is the one that grows. -/
  | tables (items : List Node)
deriving Inhabited

/-- The fields of a table under construction. -/
abbrev Fields := List (String × Node)

/-- The fields with one of them replaced, or added at the end. -/
def putNode (name : String) (node : Node) : Fields → Fields
  | [] => [(name, node)]
  | (other, old) :: rest =>
    if other = name then (name, node) :: rest else (other, old) :: putNode name node rest

/-- Replaces the last item of a list. -/
def replaceLast {α : Type} (items : List α) (item : α) : List α := items.dropLast ++ [item]

/-- Changes the table at the end of a path, making the tables on the way that are missing. A key with
points does not enter a table that was defined by itself. -/
def descend (dotted : Bool) (change : Origin → Fields → Option Fields) :
    (path : List String) → Origin → Fields → Option Fields
  | [], origin, fields => change origin fields
  | name :: path, _, fields =>
    match fields.lookup name with
    | none => do
      let inner ← descend dotted change path ⟨true, dotted⟩ []
      return putNode name (.table ⟨true, dotted⟩ inner) fields
    | some (.value _) => none
    | some (.table origin inner) =>
      if dotted ∧ origin.implied = false then none
      else do
        let inner ← descend dotted change path origin inner
        return putNode name (.table origin inner) fields
    | some (.tables items) =>
      match items.getLast? with
      | some (.table origin inner) => do
        let inner ← descend dotted change path origin inner
        return putNode name (.tables (replaceLast items (.table origin inner))) fields
      | _ => none

/-- Adds a field that is new. A key with points ends in a table that such keys made, a plain key in one
that they did not make. -/
def addField (plain : Bool) (name : String) (node : Node) (origin : Origin) (fields : Fields) :
    Option Fields :=
  if origin.dotted = plain then none
  else if (fields.lookup name).isSome then none
  else some (fields ++ [(name, node)])

/-- Adds a value under a key. -/
def addValue (origin : Origin) (path : List String) (name : String) (value : Document)
    (fields : Fields) : Option Fields :=
  descend true (addField path.isEmpty name (.value value)) path origin fields

mutual

/-- What was constructed. -/
def Node.finish : Node → Document
  | .value document => document
  | .table _ fields => .table (finishFields fields)
  | .tables items => .sequence (finishItems items)

/-- What was constructed, item by item. -/
def finishItems : List Node → List Document
  | [] => []
  | item :: items => item.finish :: finishItems items

/-- What was constructed, field by field. -/
def finishFields : Fields → List (String × Document)
  | [] => []
  | (name, node) :: fields => (name, node.finish) :: finishFields fields

end

/-- A text that has been read up to some line. -/
structure Draft where
  /-- The tables that are complete. -/
  root : Fields
  /-- The path of the table that grows; empty for the outermost one. -/
  path : List String
  /-- The table that grows is one of several in a row. -/
  inRow : Bool
  /-- The fields of the table that grows. -/
  fields : Fields
deriving Inhabited

namespace Draft

/-- Nothing has been read. -/
def empty : Draft := ⟨[], [], false, []⟩

/-- A path without its last part, and that part. -/
def splitPath (path : List String) : Option (List String × String) :=
  path.getLast?.map fun name => (path.dropLast, name)

/-- Puts one more table to those in a row under a name. -/
def addToRow (name : String) (table : Node) (fields : Fields) : Option Fields :=
  match fields.lookup name with
  | none => some (putNode name (.tables [table]) fields)
  | some (.tables items) => some (putNode name (.tables (items ++ [table])) fields)
  | some _ => none

/-- Puts a table under a name where nothing stands yet. -/
def addTable (name : String) (table : Node) (fields : Fields) : Option Fields :=
  match fields.lookup name with
  | none => some (putNode name table fields)
  | some (.table origin _) => if origin.implied then some (putNode name table fields) else none
  | some _ => none

/-- All tables, with the one that grew put in its place. -/
def close (draft : Draft) : Option Fields :=
  match splitPath draft.path with
  | none => some draft.fields
  | some (path, name) =>
    let table := Node.table .defined draft.fields
    let put := if draft.inRow then addToRow name table else addTable name table
    descend false (fun _ => put) path .defined draft.root

/-- Whether one more table may be put in a row under a name. -/
def mayJoinRow (name : String) (fields : Fields) : Bool :=
  match fields.lookup name with
  | none => true
  | some (.tables _) => true
  | some _ => false

/-- A header of a table in a row. The row is there from its header on. -/
def openRow (draft : Draft) (header : List String) : Option Draft := do
  let root ← draft.close
  let (path, name) ← splitPath header
  let check := fun (_ : Origin) (fields : Fields) =>
    if mayJoinRow name fields then
      some (if (fields.lookup name).isNone then putNode name (.tables []) fields else fields)
    else none
  let root ← descend false check path .defined root
  return ⟨root, header, true, []⟩

/-- The fields of a table that a header may define: one that was only implied keeps what it has. -/
def takeTable (name : String) (fields : Fields) : Option (Fields × Fields) :=
  match fields.lookup name with
  | none => some ([], fields)
  | some (.table origin inner) =>
    if origin.implied ∧ origin.dotted = false then
      some (inner, fields.filter fun field => field.1 ≠ name)
    else none
  | some _ => none

/-- The fields at the end of a path, when there are any. -/
def fieldsAt : (path : List String) → Fields → Fields
  | [], fields => fields
  | name :: path, fields =>
    match fields.lookup name with
    | some (.table _ inner) => fieldsAt path inner
    | some (.tables items) =>
      match items.getLast? with
      | some (.table _ inner) => fieldsAt path inner
      | _ => []
    | _ => []

/-- A header of a table. -/
def openTable (draft : Draft) (header : List String) : Option Draft := do
  let root ← draft.close
  let (path, name) ← splitPath header
  let take := fun (_ : Origin) (fields : Fields) => (takeTable name fields).map (·.2)
  let remaining ← descend false take path .defined root
  let inner := (takeTable name (fieldsAt path root)).map (·.1)
  return ⟨remaining, header, false, inner.getD []⟩

/-- A value under a key. -/
def put (draft : Draft) (key : List String) (value : Document) : Option Draft := do
  let (path, name) ← splitPath key
  let fields ← addValue .defined path name value draft.fields
  return { draft with fields := fields }

end Draft

/-- The table of the pairs of an inline table. -/
def tableOfPairs : List (List String × Document) → Option Fields
  | pairs => pairs.foldlM (fun fields (key, value) => do
      let (path, name) ← Draft.splitPath key
      addValue .defined path name value fields) []

end GracefulService.Toml
