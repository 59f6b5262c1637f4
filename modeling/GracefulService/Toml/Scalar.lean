import GracefulService.Document
import GracefulService.Number.Scientific
import GracefulService.Toml.Lexeme

/-!
# Scalars of TOML

Truth values, numbers, dates and times. What a value begins like decides what it has to be: digits with
a hyphen behind the fourth are a date, digits with a colon behind the second a time.
-/

namespace GracefulService.Toml

open Number

/-- Digits and nothing else, as a number. -/
def digits? (cs : List Char) : Option Nat := readDecimal? cs

/-- A number of two digits between two bounds. -/
def readTwoDigits (least greatest : Nat) : List Char → Option (Nat × List Char)
  | a :: b :: rest => do
    let n ← digits? [a, b]
    if least ≤ n ∧ n ≤ greatest then some (n, rest) else none
  | _ => none

/-- The input behind a character. -/
def after? (c : Char) : List Char → Option (List Char)
  | d :: rest => if c = d then some rest else none
  | [] => none

/-- A leap year has a 29th of February. -/
def isLeapYear (year : Nat) : Bool := year % 4 = 0 && (year % 100 ≠ 0 || year % 400 = 0)

/-- How many days a month has. -/
def daysIn (year month : Nat) : Nat :=
  if month = 2 then if isLeapYear year then 29 else 28
  else if month = 4 ∨ month = 6 ∨ month = 9 ∨ month = 11 then 30
  else 31

/-- The input behind month and day, given the year before them. -/
def afterMonthAndDay? (year : Nat) (cs : List Char) : Option (List Char) := do
  let (month, cs) ← readTwoDigits 1 12 cs
  let cs ← after? '-' cs
  let (day, cs) ← readTwoDigits 1 31 cs
  if day ≤ daysIn year month then some cs else none

/-- A year and the input behind the hyphen that follows it. -/
def readYear : List Char → Option (Nat × List Char)
  | a :: b :: c :: d :: '-' :: rest => (digits? [a, b, c, d]).map fun year => (year, rest)
  | _ => none

/-- The input behind a fraction of a second. -/
def skipSecondFraction : List Char → List Char
  | '.' :: d :: rest => if d.isDigit then rest.dropWhile Char.isDigit else '.' :: d :: rest
  | cs => cs

/-- The input behind an hour and its colon; a text that does not begin so is no time. -/
def afterHour? (cs : List Char) : Option (List Char) := do
  let (_, cs) ← readTwoDigits 0 23 cs
  after? ':' cs

/-- The input behind minutes and seconds. -/
def afterMinutes? (cs : List Char) : Option (List Char) := do
  let (_, cs) ← readTwoDigits 0 59 cs
  let cs ← after? ':' cs
  let (_, cs) ← readTwoDigits 0 60 cs
  return skipSecondFraction cs

/-- The input behind an offset from universal time, when there is one; `none` for a broken one. -/
def afterOffset? : List Char → Option (List Char)
  | [] => some []
  | c :: rest =>
    if c = 'Z' ∨ c = 'z' then some rest
    else if c = '+' ∨ c = '-' then do
      let (_, rest) ← readTwoDigits 0 23 rest
      let rest ← after? ':' rest
      let (_, rest) ← readTwoDigits 0 59 rest
      return rest
    else some (c :: rest)

/-- The input behind the time of a date, when there is one; `none` for a broken one. -/
def afterDateTime? : List Char → Option (List Char)
  | [] => some []
  | c :: rest =>
    if c = 'T' ∨ c = 't' ∨ c = ' ' then
      match afterHour? rest with
      | some rest => do afterOffset? (← afterMinutes? rest)
      | none => some (c :: rest)
    else some (c :: rest)

/-- The input behind a date or time; the outer `none` means that the text begins with neither. -/
def afterMoment? (cs : List Char) : Option (Option (List Char)) :=
  match readYear cs with
  | some (year, rest) => some ((afterMonthAndDay? year rest).bind afterDateTime?)
  | none => (afterHour? cs).map afterMinutes?

/-- Digits of a class with single underscores between them, as one run. -/
def takeDigits (isDigit : Char → Bool) : List Char → Option (List Char × List Char)
  | [] => some ([], [])
  | '_' :: d :: rest => if isDigit d then consChar d (takeDigits isDigit rest) else none
  | c :: rest =>
    if isDigit c then consChar c (takeDigits isDigit rest)
    else if c = '_' then none
    else some ([], c :: rest)

/-- A run of at least one digit, the first of which is no underscore. -/
def takeRun (isDigit : Char → Bool) : List Char → Option (List Char × List Char)
  | [] => none
  | c :: rest => if isDigit c then consChar c (takeDigits isDigit rest) else none

/-- A whole number in base ten without its sign: zero, or digits of which the first is not zero. -/
def takeWhole : List Char → Option (List Char × List Char)
  | '0' :: rest => some (['0'], rest)
  | cs => takeRun Char.isDigit cs

/-- A power of ten, behind its mark. -/
def takePower (cs : List Char) : Option ((Bool × List Char) × List Char) := do
  let (negative, rest) := readSign cs
  let (digits, rest) ← takeRun Char.isDigit rest
  return ((negative, digits), rest)

/-- A power of ten when there is one, and zero otherwise; `none` for a broken one. -/
def takeOptionalPower : List Char → Option (Int × List Char)
  | c :: rest =>
    if isExponentMark c then do
      let ((negative, digits), rest) ← takePower rest
      let n ← digits? digits
      return (if negative then -(n : Int) else n, rest)
    else some (0, c :: rest)
  | [] => some (0, [])

/-- Whole numbers have 64 bits, one of them for the sign. -/
def integerLimit : Nat := Nat.pow 2 63

/-- A whole number that is small enough. -/
def integer? (negative : Bool) (n : Nat) : Option Document :=
  if negative then if n ≤ integerLimit then some (.integer (-(n : Int))) else none
  else if n < integerLimit then some (.integer n) else none

/-- A number with a fraction or a power of ten. Too great a one is refused, unless it is negative. -/
def fraction? (x : Scientific) : Option Document :=
  let value := x.toBinary .double
  if value = .infinite false then none else some (.fraction value)

/-- A number in base ten. -/
def readDecimalNumber (negative : Bool) (cs : List Char) : Option (Document × List Char) := do
  let (whole, rest) ← takeWhole cs
  match rest with
  | '.' :: tail => do
    let (fraction, rest) ← takeRun Char.isDigit tail
    let (power, rest) ← takeOptionalPower rest
    let n ← digits? (whole ++ fraction)
    return (← fraction? ⟨negative, n, power - fraction.length⟩, rest)
  | c :: _ =>
    if isExponentMark c then do
      let (power, rest) ← takeOptionalPower rest
      return (← fraction? ⟨negative, ← digits? whole, power⟩, rest)
    else return (← integer? negative (← digits? whole), rest)
  | [] => return (← integer? negative (← digits? whole), rest)

/-- The value of a digit in one of the bases that a number may name. -/
def digitBelow (base : Nat) (c : Char) : Bool :=
  match hexDigit? c with
  | some d => d < base
  | none => false

/-- A whole number in another base, behind its mark. -/
def readBased (base : Nat) (cs : List Char) : Option (Document × List Char) := do
  let (digits, rest) ← takeRun (digitBelow base) cs
  let n ← readDigits base hexDigit? 0 digits
  return (← integer? false n, rest)

/-- A number without a sign. -/
def readUnsignedNumber : List Char → Option (Document × List Char)
  | '0' :: 'x' :: rest => readBased 16 rest
  | '0' :: 'o' :: rest => readBased 8 rest
  | '0' :: 'b' :: rest => readBased 2 rest
  | cs => readDecimalNumber false cs

/-- The names of what is not a finite number. -/
def readSpecial (negative : Bool) : List Char → Option (Document × List Char)
  | 'i' :: 'n' :: 'f' :: rest => some (.fraction (.infinite negative), rest)
  | 'n' :: 'a' :: 'n' :: rest => some (.fraction .nan, rest)
  | _ => none

/-- A number behind its sign. -/
def readSignedNumber (negative : Bool) (cs : List Char) : Option (Document × List Char) :=
  match readSpecial negative cs with
  | some taken => some taken
  | none => readDecimalNumber negative cs

/-- The text that was taken from the front of `before` to leave `rest`. -/
def takenText (before rest : List Char) : String :=
  String.ofList (before.take (before.length - rest.length))

/-- A number, a date or a time. -/
def readNumeric (cs : List Char) : Option (Document × List Char) :=
  match afterMoment? cs with
  | some (some rest) => some (.moment (takenText cs rest), rest)
  | some none => none
  | none =>
    match cs with
    | '+' :: rest => readSignedNumber false rest
    | '-' :: rest => readSignedNumber true rest
    | cs => readUnsignedNumber cs

/-- A scalar that is no text. -/
def readScalar : List Char → Option (Document × List Char)
  | 't' :: 'r' :: 'u' :: 'e' :: rest => some (.boolean true, rest)
  | 'f' :: 'a' :: 'l' :: 's' :: 'e' :: rest => some (.boolean false, rest)
  | c :: rest =>
    if c.isDigit ∨ c = '+' ∨ c = '-' then readNumeric (c :: rest) else readSpecial false (c :: rest)
  | [] => none

end GracefulService.Toml
