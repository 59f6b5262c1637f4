import GracefulService.Toml.Scalar
import GracefulService.Toml.Tree

/-!
# Reading TOML

A text is a sequence of lines: headers that open tables and keys that get values. Values in brackets
may spread over several lines; tables in braces may not.
-/

namespace GracefulService.Toml

mutual

/-- The value at the front of the input. `depth` says how many brackets may still be opened. Every call
takes a character away or hands the same input to a caller that does, so twice the length of the input
is fuel enough. -/
def readValue : (fuel depth : Nat) → List Char → Option (Document × List Char)
  | 0, _, _ => none
  | fuel + 1, depth, cs =>
    match cs with
    | [] => none
    | c :: rest =>
      if c = '"' ∨ c = '\'' then (readAnyText cs).map fun (text, rest) => (.text text, rest)
      else if c = '[' then
        match depth with
        | 0 => none
        | depth + 1 =>
          (readItems fuel depth (skipGaps rest)).map fun (items, rest) => (.sequence items, rest)
      else if c = '\x7b' then
        match depth with
        | 0 => none
        | depth + 1 =>
          match skipSpaces rest with
          | '\x7d' :: rest => some (.table [], rest)
          | rest => do
            let (pairs, rest) ← readPairs fuel depth rest
            let fields ← tableOfPairs pairs
            return (.table (finishFields fields), rest)
      else readScalar cs

/-- The items of an array up to its closing bracket, behind any gaps; a comma may follow the last. -/
def readItems : (fuel depth : Nat) → List Char → Option (List Document × List Char)
  | 0, _, _ => none
  | fuel + 1, depth, cs =>
    match cs with
    | ']' :: rest => some ([], rest)
    | cs => do
      let (item, rest) ← readValue fuel depth cs
      match skipGaps rest with
      | ',' :: rest => do
        let (items, rest) ← readItems fuel depth (skipGaps rest)
        return (item :: items, rest)
      | ']' :: rest => return ([item], rest)
      | _ => none

/-- The pairs of an inline table that is not empty, up to its closing brace. -/
def readPairs : (fuel depth : Nat) → List Char →
    Option (List (List String × Document) × List Char)
  | 0, _, _ => none
  | fuel + 1, depth, cs => do
    let (key, rest) ← readKey cs
    let rest ← after? '=' rest
    let (value, rest) ← readValue fuel depth (skipSpaces rest)
    match skipSpaces rest with
    | ',' :: rest => do
      let (pairs, rest) ← readPairs fuel depth rest
      return ((key, value) :: pairs, rest)
    | '\x7d' :: rest => return ([(key, value)], rest)
    | _ => none

end

/-- A header behind its first bracket: its key and the rest of its line. -/
def readHeader (draft : Draft) : List Char → Option (Draft × List Char)
  | '[' :: cs => do
    let (key, rest) ← readKey cs
    let rest ← after? ']' rest
    let rest ← after? ']' rest
    let rest ← afterLine? rest
    return (← draft.openRow key, rest)
  | cs => do
    let (key, rest) ← readKey cs
    let rest ← after? ']' rest
    let rest ← afterLine? rest
    return (← draft.openTable key, rest)

/-- A key with its value, and the rest of their line. -/
def readSetting (draft : Draft) (cs : List Char) : Option (Draft × List Char) := do
  let (key, rest) ← readKey cs
  let rest ← after? '=' rest
  let rest := skipSpaces rest
  let (value, rest) ← readValue (2 * rest.length + 1) (depthLimit - 1) rest
  let rest ← afterLine? rest
  return (← draft.put key value, rest)

/-- All lines of a text. Every line has at least one character, so the length of the text is fuel
enough. -/
def readLines : (fuel : Nat) → Draft → List Char → Option Draft
  | 0, _, _ => none
  | fuel + 1, draft, cs =>
    match skipSpaces cs with
    | [] => some draft
    | '#' :: rest => do readLines fuel draft (← afterLine? ('#' :: rest))
    | '[' :: rest => do
      let (draft, rest) ← readHeader draft rest
      readLines fuel draft rest
    | rest =>
      match afterLineEnd? rest with
      | some rest => readLines fuel draft rest
      | none => do
        let (draft, rest) ← readSetting draft rest
        readLines fuel draft rest

/-- A text without the mark of its byte order. -/
def withoutMark : List Char → List Char
  | '\ufeff' :: cs => cs
  | cs => cs

/-- A whole text as a document. -/
def read? (s : String) : Option Document := do
  let cs := withoutMark s.toList
  let draft ← readLines (cs.length + 1) .empty cs
  let fields ← draft.close
  return .table (finishFields fields)

end GracefulService.Toml
