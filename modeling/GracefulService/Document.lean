import GracefulService.Number.Binary

/-!
# Documents

The values that structured text can hold, whichever notation it is written in: scalars, sequences,
and tables from names to values. A table keeps its names in order and holds each name once when it
comes from a reader of this library.
-/

namespace GracefulService

/-- A value of a structured text. -/
inductive Document where
  /-- The absence of a value. -/
  | null
  /-- A truth value. -/
  | boolean (value : Bool)
  /-- A whole number. -/
  | integer (value : Int)
  /-- A number with a fraction or a power of ten, also when its value is whole. -/
  | fraction (value : Number.Binary)
  /-- A text. -/
  | text (value : String)
  /-- A date, a time of day, or both, as it is written. -/
  | moment (written : String)
  /-- Values in order. -/
  | sequence (items : List Document)
  /-- Values by name. -/
  | table (fields : List (String × Document))
deriving Inhabited, Repr, BEq

namespace Document

/-- The fields with one more: a name that is new goes to the end, a known one takes the new value. -/
def putField (name : String) (value : Document) :
    List (String × Document) → List (String × Document)
  | [] => [(name, value)]
  | (other, old) :: rest =>
    if other = name then (name, value) :: rest else (other, old) :: putField name value rest

/-- The value of a field. -/
def field? (name : String) : Document → Option Document
  | .table fields => fields.lookup name
  | _ => none

end Document

end GracefulService
