import GracefulService.Number.Digits
import GracefulService.Text.Blank

/-!
# Delays

A delay is written as a whole number with a unit: milliseconds, seconds or minutes.
-/

namespace GracefulService

/-- What a text says about a delay. -/
inductive Delay where
  /-- So many milliseconds. -/
  | lasting (milliseconds : Nat)
  /-- It is not the text of a delay. -/
  | unreadable
  /-- The minutes are more seconds than can be counted. -/
  | overflow
deriving DecidableEq, Repr, Inhabited

namespace Delay

/-- The words for a delay that cannot be counted. -/
def overflowMessage : String := "attempt to multiply with overflow"

/-- So many of a unit. Seconds are counted with 64 bits. -/
def inUnit (n : Nat) (unit : List Char) : Delay :=
  if unit = ['m', 's'] then .lasting n
  else if unit = ['s'] then .lasting (n * 1000)
  else if unit = ['m'] then
    if n * 60 < Number.wordLimit then .lasting (n * 60 * 1000) else .overflow
  else .unreadable

/-- Reads a delay; blank characters may stand around it. -/
def read (text : String) : Delay :=
  let (digits, unit) := (Text.trim text.toList).span Char.isDigit
  if unit.isEmpty then .unreadable
  else match Number.readBelow? Number.wordLimit digits with
    | some n => inUnit n unit
    | none => .unreadable

end Delay

end GracefulService
