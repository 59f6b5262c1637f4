import GracefulService.Text.Quoted

/-!
# Digits

Numbers written by ASCII digits alone: no sign, no separators, any number of leading zeros.
-/

namespace GracefulService.Number

/-- The value of a decimal digit. -/
def digit? (c : Char) : Option Nat :=
  if c.isDigit then some (c.toNat - 0x30) else none

/-- The value of a hexadecimal digit of either case. -/
def hexDigit? (c : Char) : Option Nat :=
  if c.isDigit then some (c.toNat - 0x30)
  else if 'a' ≤ c ∧ c ≤ 'f' then some (c.toNat - 0x57)
  else if 'A' ≤ c ∧ c ≤ 'F' then some (c.toNat - 0x37)
  else none

/-- The value of digits written after a number that is already read. -/
def readDigits (base : Nat) (value? : Char → Option Nat) : Nat → List Char → Option Nat
  | sofar, [] => some sofar
  | sofar, c :: rest =>
    match value? c with
    | some d => readDigits base value? (sofar * base + d) rest
    | none => none

/-- The number that decimal digits spell; there is at least one and nothing else. -/
def readDecimal? : List Char → Option Nat
  | [] => none
  | cs => readDigits 10 digit? 0 cs

/-- The number that hexadecimal digits spell; there is at least one and nothing else. -/
def readHex? : List Char → Option Nat
  | [] => none
  | cs => readDigits 16 hexDigit? 0 cs

/-- A decimal number below `limit`. -/
def readBelow? (limit : Nat) (cs : List Char) : Option Nat :=
  match readDecimal? cs with
  | some n => if n < limit then some n else none
  | none => none

/-- A count of milliseconds has 64 bits. -/
def wordLimit : Nat := Nat.pow 2 64

end GracefulService.Number
