import GracefulService.Health.Report
import GracefulService.Json.Reader

/-!
# Decoding health reports

A report read straight from JSON text. The first fault from the left counts, whether the grammar or
the kind of a value is at fault. A report is a table with both fields, in any order and with further
fields that nobody looks at, or a sequence of the status and the reason. A status is its name, or a
table with the name as its only field and nothing as its value.
-/

namespace GracefulService.Report

open Json

/-- The fault of a value that is not of the kind asked for: it has to be sound as far as it is looked
at before it counts as mismatched. -/
def mismatch : List Char → Fault
  | [] => .ended
  | c :: rest =>
    let after (r : Except Fault (List Char)) : Fault :=
      match r with
      | .ok _ => .mismatched
      | .error fault => fault
    if c = '"' then after ((scanText rest).map Prod.snd)
    else if c = '[' ∨ c = '\x7b' then .mismatched
    else if c = 'n' then after (expectWord "ull".toList rest)
    else if c = 't' then after (expectWord "rue".toList rest)
    else if c = 'f' then after (expectWord "alse".toList rest)
    else if c = '-' ∨ c.isDigit then
      match scanNumeral (c :: rest) with
      | .ok (numeral, _) => if numeral.value.isSome then .mismatched else .malformed
      | .error fault => fault
    else .malformed

/-- A text. -/
def decodeText (cs : List Char) : Except Fault (String × List Char) :=
  match skipGaps cs with
  | '"' :: rest => do
    let (text, rest) ← scanText rest
    return (String.ofList text, rest)
  | rest => .error (mismatch rest)

/-- The name of a status. -/
def decodeStatusName (cs : List Char) : Except Fault (Status × List Char) := do
  let (name, rest) ← decodeText cs
  match Status.ofName? name with
  | some status => return (status, rest)
  | none => throw .mismatched

/-- The colon behind a name. -/
def decodeColon (cs : List Char) : Except Fault (List Char) :=
  match skipGaps cs with
  | ':' :: rest => .ok rest
  | rest => .error (unexpected rest)

/-- The absence of a value. -/
def decodeNull (cs : List Char) : Except Fault (List Char) :=
  match skipGaps cs with
  | 'n' :: rest => expectWord "ull".toList rest
  | rest => .error (mismatch rest)

/-- A status: its name, or a table whose only field has that name. -/
def decodeStatus (cs : List Char) : Except Fault (Status × List Char) :=
  match skipGaps cs with
  | '"' :: rest => decodeStatusName ('"' :: rest)
  | '\x7b' :: rest => do
    let (status, rest) ← decodeStatusName rest
    let rest ← decodeColon rest
    let rest ← decodeNull rest
    match skipGaps rest with
    | '\x7d' :: rest => return (status, rest)
    | rest => throw (unexpected rest)
  | rest => .error (unexpected rest)

/-- The next field's name, from behind its opening quote, or the end of the table. -/
def decodeNext (first : Bool) (cs : List Char) : Except Fault (Option (String × List Char) × List Char) :=
  let named (rest : List Char) : Except Fault (Option (String × List Char) × List Char) := do
    let (name, rest) ← scanText rest
    return (some (String.ofList name, rest), rest)
  match skipGaps cs with
  | '\x7d' :: rest => .ok (none, rest)
  | ',' :: rest =>
    if first then .error .malformed
    else match skipGaps rest with
      | '"' :: rest => named rest
      | rest => .error (unexpected rest)
  | '"' :: rest => if first then named rest else .error .malformed
  | rest => .error (unexpected rest)

/-- The fields of a table. Each turn takes at least one character away, so the length of the input is
fuel enough. -/
def decodeFields : Nat → Option Status → Option String → Bool → List Char →
    Except Fault (Report × List Char)
  | 0, _, _, _, _ => .error .malformed
  | fuel + 1, status, reason, first, cs => do
    match ← decodeNext first cs with
    | (none, rest) =>
      match status, reason with
      | some status, some reason => return (⟨status, reason⟩, rest)
      | _, _ => throw .mismatched
    | (some (name, rest), _) =>
      if name = "status" then
        if status.isSome then throw .mismatched
        let (value, rest) ← decodeStatus (← decodeColon rest)
        decodeFields fuel (some value) reason false rest
      else if name = "reason" then
        if reason.isSome then throw .mismatched
        let (value, rest) ← decodeText (← decodeColon rest)
        decodeFields fuel status (some value) false rest
      else
        let rest ← skipValue (← decodeColon rest)
        decodeFields fuel status reason false rest

/-- The status and the reason in a sequence. -/
def decodeItems (cs : List Char) : Except Fault (Report × List Char) := do
  let due (rest : List Char) : Except Fault (List Char) :=
    match rest with
    | [] => .error .ended
    | ']' :: _ => .error .mismatched
    | rest => .ok rest
  let (status, rest) ← decodeStatus (← due (skipGaps cs))
  let rest ← match skipGaps rest with
    | ',' :: rest =>
      match skipGaps rest with
      | [] => Except.error Fault.ended
      | ']' :: _ => .error .malformed
      | rest => .ok rest
    | ']' :: _ => .error .mismatched
    | rest => .error (unexpected rest)
  let (reason, rest) ← decodeText rest
  match skipGaps rest with
  | ']' :: rest => return (⟨status, reason⟩, rest)
  | rest => throw (unexpected rest)

/-- A report from a whole text. -/
def decode (s : String) : Except Fault Report := do
  let cs := skipGaps s.toList
  let (report, rest) ← match cs with
    | '\x7b' :: rest => decodeFields (rest.length + 1) none none true rest
    | '[' :: rest => decodeItems rest
    | rest => .error (mismatch rest)
  atEnd rest
  return report

end GracefulService.Report
