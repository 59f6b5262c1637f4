import GracefulService.Number.Scientific

/-!
# Shortest decimal text

Among the decimals that round to a given number, the one with the fewest digits, and of those with
equally many the nearest.
-/

namespace GracefulService.Number

/-- The exponent of the leading decimal digit of a positive quotient. -/
def floorLog10 (num den : Nat) : Int :=
  let guess : Int := (Text.decimal num).length - (Text.decimal den).length
  let power := Nat.pow 10 guess.natAbs
  let atLeast := if guess < 0 then den ≤ num * power else den * power ≤ num
  if atLeast then guess else guess - 1

/-- A quotient divided by a power of ten, as another quotient. -/
def unscale10 (num den : Nat) (exponent : Int) : Nat × Nat :=
  let power := Nat.pow 10 exponent.natAbs
  if exponent < 0 then (num * power, den) else (num, den * power)

/-- The decimal with `count` digits that is nearest to a quotient among those that round to
`target`. -/
def readBackWith (format : Format) (target : Binary) (num den count : Nat) : Option Scientific :=
  let exponent := floorLog10 num den - (count - 1)
  let (n, d) := unscale10 num den exponent
  let readsBack (m : Nat) : Bool := (Scientific.mk false m exponent).toBinary format == target
  let below := n / d
  let above := below + 1
  let nearer := roundHalfEven n d
  let farther := if nearer = below then above else below
  if readsBack nearer then some ⟨false, nearer, exponent⟩
  else if readsBack farther then some ⟨false, farther, exponent⟩
  else none

/-- The shortest decimal of a positive finite number. -/
def shortest (format : Format) (significand : Nat) (exponent : Int) : Scientific :=
  let (num, den) := unscale significand 1 (-exponent)
  let target := format.round false num den
  let found := (List.range 17).findSome? fun k => readBackWith format target num den (k + 1)
  found.getD ⟨false, significand, 0⟩

/-- The digits of a shortest decimal without the zeros they end in, and their exponent. -/
def Scientific.bare (x : Scientific) : List Char × Int :=
  let digits := Text.decimal x.significand
  let zeros := (digits.reverse.takeWhile (· = '0')).length
  (digits.take (digits.length - zeros), x.exponent + zeros)

end GracefulService.Number
