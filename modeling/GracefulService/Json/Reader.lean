import GracefulService.Json.Number

/-!
# Reading JSON

A whole text as one document. Containers may be nested up to a fixed depth; the names of a table are
kept once each, the last value winning, and stand in ascending order.
-/

namespace GracefulService.Json

/-- How deep containers may be nested, the outermost counted. -/
def depthLimit : Nat := 127

/-- The name of a table entry and the input behind its colon. -/
def readName (cs : List Char) : Except Fault (String × List Char) :=
  match skipGaps cs with
  | '"' :: rest => do
    let (name, rest) ← scanText rest
    match skipGaps rest with
    | ':' :: rest => return (String.ofList name, rest)
    | rest => throw (unexpected rest)
  | rest => .error (unexpected rest)

/-- The fields with one more, in ascending order of the names; a known name takes the new value. -/
def insertField (name : String) (value : Document) :
    List (String × Document) → List (String × Document)
  | [] => [(name, value)]
  | (other, old) :: rest =>
    if name < other then (name, value) :: (other, old) :: rest
    else if other = name then (name, value) :: rest
    else (other, old) :: insertField name value rest

mutual

/-- The value at the front of the input. Every call takes a character away or hands the same input to
a caller that does, so twice the length of the input is fuel enough. -/
def readValue : (fuel depth : Nat) → List Char → Except Fault (Document × List Char)
  | 0, _, _ => .error .malformed
  | fuel + 1, depth, cs =>
    match skipGaps cs with
    | [] => .error .ended
    | c :: rest =>
      if c = '"' then do
        let (text, rest) ← scanText rest
        return (.text (String.ofList text), rest)
      else if c = '[' then
        match depth with
        | 0 => .error .malformed
        | depth + 1 =>
          match skipGaps rest with
          | ']' :: rest => .ok (.sequence [], rest)
          | rest => do
            let (items, rest) ← readItems fuel depth rest
            return (.sequence items, rest)
      else if c = '\x7b' then
        match depth with
        | 0 => .error .malformed
        | depth + 1 =>
          match skipGaps rest with
          | '\x7d' :: rest => .ok (.table [], rest)
          | rest => do
            let (fields, rest) ← readFields fuel depth [] rest
            return (.table fields, rest)
      else if c = 'n' then return (.null, ← expectWord "ull".toList rest)
      else if c = 't' then return (.boolean true, ← expectWord "rue".toList rest)
      else if c = 'f' then return (.boolean false, ← expectWord "alse".toList rest)
      else if c = '-' ∨ c.isDigit then do
        let (numeral, rest) ← scanNumeral (c :: rest)
        match numeral.value with
        | some value => return (value, rest)
        | none => throw .malformed
      else .error .malformed

/-- The items of a sequence that is not empty, up to its closing bracket. -/
def readItems : (fuel depth : Nat) → List Char → Except Fault (List Document × List Char)
  | 0, _, _ => .error .malformed
  | fuel + 1, depth, cs => do
    let (item, rest) ← readValue fuel depth cs
    match skipGaps rest with
    | ',' :: rest => do
      let (items, rest) ← readItems fuel depth rest
      return (item :: items, rest)
    | ']' :: rest => return ([item], rest)
    | rest => throw (unexpected rest)

/-- The fields of a table that is not empty, up to its closing bracket, put to those already read. -/
def readFields : (fuel depth : Nat) → List (String × Document) → List Char →
    Except Fault (List (String × Document) × List Char)
  | 0, _, _, _ => .error .malformed
  | fuel + 1, depth, sofar, cs => do
    let (name, rest) ← readName cs
    let (value, rest) ← readValue fuel depth rest
    let fields := insertField name value sofar
    match skipGaps rest with
    | ',' :: rest => readFields fuel depth fields rest
    | '\x7d' :: rest => return (fields, rest)
    | rest => throw (unexpected rest)

end

/-- Nothing but gaps may follow a whole text. -/
def atEnd (cs : List Char) : Except Fault Unit :=
  if (skipGaps cs).isEmpty then .ok () else .error .malformed

/-- A whole text as a document. -/
def read (s : String) : Except Fault Document := do
  let cs := s.toList
  let (value, rest) ← readValue (2 * cs.length + 2) depthLimit cs
  atEnd rest
  return value

end GracefulService.Json
