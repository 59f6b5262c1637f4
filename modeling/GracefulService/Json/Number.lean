import GracefulService.Document
import GracefulService.Json.Scanner
import GracefulService.Number.Shortest

/-!
# Numbers of JSON

A numeral without point and power of ten that fits 64 bits is a whole number; every other numeral is a
floating point number. Its digits are collected into 64 bits, digits that do not fit are dropped, and
the result is scaled by one power of ten, or by several when one table entry does not reach.
-/

namespace GracefulService.Json

open Number

/-- The greatest power of ten that the double format holds. -/
def greatestPower : Nat := 308

/-- Digits behind a number, as long as the result fits 64 bits. The second part counts the digits
that did not fit. -/
def collect : Nat → List Char → Nat × Nat
  | sofar, [] => (sofar, 0)
  | sofar, c :: rest =>
    let next := sofar * 10 + (c.toNat - 0x30)
    if next < wordLimit then collect next rest else (sofar, rest.length + 1)

/-- A power of ten in the double format, exact up to the last digit of the significand. -/
def powerOfTen (k : Nat) : Nat × Nat :=
  match Format.double.round false (Nat.pow 10 k) 1 with
  | .finite _ m x => unscale m 1 (-x)
  | _ => (1, 1)

/-- A double divided by as many greatest powers of ten as its exponent asks for, then scaled by the
power that is left. `none` when the result is beyond the format. -/
def scaleBy : Nat → Binary → Int → Option Binary
  | 0, x, _ => some x
  | fuel + 1, x, exponent =>
    if exponent.natAbs ≤ greatestPower then
      let (num, den) := powerOfTen exponent.natAbs
      if exponent < 0 then some (x.timesQuotient .double den num)
      else
        let y := x.timesQuotient .double num den
        if y.isInfinite then none else some y
    else if x.same (.finite false 0 0) then some x
    else if 0 ≤ exponent then none
    else
      let (num, den) := powerOfTen greatestPower
      scaleBy fuel (x.timesQuotient .double den num) (exponent + greatestPower)

/-- A significand of 64 bits times a power of ten. A significand that is not zero becomes zero after
three divisions at the latest, so four steps reach every end. -/
def assemble (negative : Bool) (significand : Nat) (exponent : Int) : Option Binary :=
  (scaleBy 4 (Format.double.round false significand 1) exponent).map fun x =>
    if negative then x.negate else x

/-- The greatest power of ten that is looked at digit by digit. -/
def powerLimit : Nat := Nat.pow 2 31

/-- The value of a numeral, `none` when it is beyond the double format. -/
def Numeral.value (numeral : Numeral) : Option Document :=
  let (whole, dropped) := collect 0 numeral.whole
  let point : Option (Nat × Int) := numeral.fraction.map fun digits =>
    if dropped = 0 then
      let (significand, unread) := collect whole digits
      (significand, -((digits.length - unread : Nat) : Int))
    else
      let (significand, unread) := collect whole digits
      (significand, dropped - ((digits.length - unread : Nat) : Int))
  match point, numeral.power with
  | none, none =>
    if dropped ≠ 0 then (assemble numeral.negative whole dropped).map .fraction
    else if !numeral.negative then some (.integer whole)
    else if whole = 0 ∨ Nat.pow 2 63 < whole then
      some (.fraction (Format.double.round true whole 1))
    else some (.integer (-(whole : Int)))
  | _, power =>
    let (significand, exponent) := point.getD (whole, dropped)
    match power with
    | none => (assemble numeral.negative significand exponent).map .fraction
    | some (down, digits) =>
      let size := (readDecimal? digits).getD 0
      if powerLimit ≤ size then
        if significand ≠ 0 ∧ !down then none
        else some (.fraction (.finite numeral.negative 0 Format.double.leastExponent))
      else
        let shifted := if down then exponent - size else exponent + size
        (assemble numeral.negative significand shifted).map .fraction

/-- The text of a floating point number: positional while the decimal point stays within sixteen
places to the right and five to the left, otherwise with a power of ten; whole values keep one zero
behind the point. -/
def fractionText : Binary → List Char
  | .finite negative significand exponent =>
    let sign := if negative then ['-'] else []
    if significand = 0 then sign ++ "0.0".toList
    else
      let (digits, power) := (shortest .double significand exponent).bare
      let place : Int := digits.length + power
      sign ++
        if 0 ≤ power ∧ place ≤ 16 then digits ++ List.replicate power.natAbs '0' ++ ".0".toList
        else if 0 < place ∧ place ≤ 16 then
          digits.take place.natAbs ++ '.' :: digits.drop place.natAbs
        else if -5 < place ∧ place ≤ 0 then
          "0.".toList ++ List.replicate place.natAbs '0' ++ digits
        else
          let size := Text.decimal (place - 1).natAbs
          let power := if place - 1 < 0 then '-' :: size else size
          match digits with
          | [digit] => digit :: 'e' :: power
          | digit :: more => digit :: '.' :: more ++ 'e' :: power
          | [] => []
  | _ => "null".toList

end GracefulService.Json
