/-!
# Binary floating point numbers

Floating point numbers as exact values: a significand times a power of two, an infinity, or no number
at all. Rounding takes a quotient of natural numbers to the nearest number of a format, a tie to the
even significand; comparison is exact. No machine arithmetic is involved.
-/

namespace GracefulService.Number

/-- A floating point format. -/
structure Format where
  /-- How many binary digits a significand has. -/
  precision : Nat
  /-- The exponent of the last digit of the smallest numbers. -/
  leastExponent : Int
  /-- The exponent of the last digit of the greatest numbers. -/
  greatestExponent : Int
deriving DecidableEq, Repr

/-- The format of 32 bits. -/
def Format.single : Format := ⟨24, -149, 104⟩

/-- The format of 64 bits. -/
def Format.double : Format := ⟨53, -1074, 971⟩

/-- A floating point number. -/
inductive Binary where
  /-- No number: different from everything, itself included. -/
  | nan
  /-- Greater, or when `negative` less, than every finite number. -/
  | infinite (negative : Bool)
  /-- The value `significand * 2 ^ exponent`, with the sign kept on zero too. -/
  | finite (negative : Bool) (significand : Nat) (exponent : Int)
deriving DecidableEq, Repr, Inhabited

/-- The whole number nearest to a quotient, a half going to the even neighbour. -/
def roundHalfEven (num den : Nat) : Nat :=
  let quotient := num / den
  let twice := 2 * (num % den)
  if twice < den then quotient
  else if den < twice then quotient + 1
  else quotient + quotient % 2

/-- A quotient divided by a power of two, as another quotient. -/
def unscale (num den : Nat) (exponent : Int) : Nat × Nat :=
  let power := Nat.pow 2 exponent.natAbs
  if exponent < 0 then (num * power, den) else (num, den * power)

/-- The greatest power of two that is at most a positive quotient, by its exponent. -/
def floorLog2 (num den : Nat) : Int :=
  let guess : Int := (num.log2 : Int) - den.log2
  let (n, d) := unscale num den guess
  if d ≤ n then guess else guess - 1

/-- The number of a format nearest to a quotient. -/
def Format.round (format : Format) (negative : Bool) (num den : Nat) : Binary :=
  if num = 0 then .finite negative 0 format.leastExponent
  else
    let exponent := max (floorLog2 num den - (format.precision - 1)) format.leastExponent
    let (n, d) := unscale num den exponent
    let significand := roundHalfEven n d
    let (significand, exponent) :=
      if significand = Nat.pow 2 format.precision then
        (Nat.pow 2 (format.precision - 1), exponent + 1)
      else (significand, exponent)
    if format.greatestExponent < exponent then .infinite negative
    else .finite negative significand exponent

namespace Binary

/-- A finite number as a multiple of two to a smaller exponent. -/
def scaled (negative : Bool) (significand : Nat) (exponent least : Int) : Int :=
  let magnitude : Int := (significand * Nat.pow 2 (exponent - least).natAbs : Nat)
  if negative then -magnitude else magnitude

/-- The order of numbers; what is no number is neither below nor above anything. -/
def less : Binary → Binary → Bool
  | .nan, _ => false
  | _, .nan => false
  | .infinite a, .infinite b => a && !b
  | .infinite a, .finite .. => a
  | .finite .., .infinite b => !b
  | .finite a m x, .finite b n y => scaled a m x (min x y) < scaled b n y (min x y)

/-- Two numbers have the same value; the two zeros do. -/
def same : Binary → Binary → Bool
  | .infinite a, .infinite b => a == b
  | .finite a m x, .finite b n y => scaled a m x (min x y) == scaled b n y (min x y)
  | _, _ => false

/-- At most: below, or of the same value. -/
def atMost (a b : Binary) : Bool := a.less b || a.same b

/-- The number with the other sign. -/
def negate : Binary → Binary
  | .nan => .nan
  | .infinite a => .infinite !a
  | .finite a m x => .finite (!a) m x

/-- The number times a quotient, rounded into the format. -/
def timesQuotient (format : Format) : Binary → Nat → Nat → Binary
  | .nan, _, _ => .nan
  | .infinite a, _, _ => .infinite a
  | .finite a m x, num, den =>
    let (n, d) := unscale (m * num) den (-x)
    format.round a n d

/-- An infinity of either sign. -/
def isInfinite : Binary → Bool
  | .infinite _ => true
  | _ => false

end Binary

end GracefulService.Number
