import GracefulService.Number.Binary
import GracefulService.Number.Digits

/-!
# Scientific notation

Decimal numbers with a fraction and a power of ten, read from text and rounded once, from their exact
value, into a floating point format.
-/

namespace GracefulService.Number

/-- The value `significand * 10 ^ exponent`. -/
structure Scientific where
  /-- The sign, kept on zero too. -/
  negative : Bool
  /-- All digits, as one whole number. -/
  significand : Nat
  /-- Where the decimal point stands, counted from behind the last digit. -/
  exponent : Int
deriving DecidableEq, Repr

/-- More powers of ten than any format reaches from one, in either direction. -/
def Scientific.reach : Int := 400

/-- The nearest number of a format. Far beyond the reach of every format the result is an infinity
or zero without computing the power of ten. -/
def Scientific.toBinary (format : Format) (x : Scientific) : Binary :=
  let place : Int := (Text.decimal x.significand).length + x.exponent
  if x.significand = 0 ∨ place < -Scientific.reach then
    .finite x.negative 0 format.leastExponent
  else if Scientific.reach < place then .infinite x.negative
  else if x.exponent < 0 then format.round x.negative x.significand (Nat.pow 10 x.exponent.natAbs)
  else format.round x.negative (x.significand * Nat.pow 10 x.exponent.natAbs) 1

/-- A sign, when there is one, and what follows it. -/
def readSign : List Char → Bool × List Char
  | '-' :: rest => (true, rest)
  | '+' :: rest => (false, rest)
  | cs => (false, cs)

/-- A whole number with an optional sign. -/
def readSigned? (cs : List Char) : Option Int :=
  let (negative, digits) := readSign cs
  (readDecimal? digits).map fun n => if negative then -(n : Int) else n

/-- The mark between the digits and the power of ten. -/
def isExponentMark (c : Char) : Bool := c = 'e' || c = 'E'

/-- Digits with at most one point among or beside them, at least one digit, and an optional power
of ten. -/
def readUnsigned? (negative : Bool) (cs : List Char) : Option Scientific :=
  let (mantissa, tail) := cs.span fun c => !isExponentMark c
  let exponent? := match tail with
    | [] => some 0
    | _ :: digits => readSigned? digits
  let (whole, point) := mantissa.span (· ≠ '.')
  let fraction := point.drop 1
  match readDecimal? (whole ++ fraction), exponent? with
  | some n, some e => some ⟨negative, n, e - fraction.length⟩
  | _, _ => none

/-- The names of what is not a finite number, in any case of letters. -/
def readSpecial? (negative : Bool) (cs : List Char) : Option Binary :=
  let name := cs.map Char.toLower
  if name = "inf".toList ∨ name = "infinity".toList then some (.infinite negative)
  else if name = "nan".toList then some .nan
  else none

/-- A floating point number in any of its spellings: an optional sign, then digits or a name. -/
def readBinary? (format : Format) (cs : List Char) : Option Binary :=
  let (negative, body) := readSign cs
  match readUnsigned? negative body with
  | some x => some (x.toBinary format)
  | none => readSpecial? negative body

end GracefulService.Number
