import GracefulService.Json.Fault
import GracefulService.Number.Digits
import GracefulService.Text.Blank

/-!
# Scanning JSON

The lexical parts of JSON: blanks, words, the characters of a text, the digits of a number. Each
scanner takes what it recognises from the front of the input, and a fault names the first place where
the grammar is left. A value that nobody wants can be passed over however deep it is.
-/

namespace GracefulService.Json

/-- The four characters that may stand between tokens. -/
def isGap (c : Char) : Bool := c = ' ' || c = '\t' || c = '\n' || c = '\r'

/-- The input from the next token on. -/
def skipGaps (cs : List Char) : List Char := cs.dropWhile isGap

/-- The fault of an input where another token was due. -/
def unexpected : List Char → Fault
  | [] => .ended
  | _ :: _ => .malformed

/-- A word that has to follow, character by character. -/
def expectWord : List Char → List Char → Except Fault (List Char)
  | [], cs => .ok cs
  | _ :: _, [] => .error .ended
  | w :: word, c :: cs => if w = c then expectWord word cs else .error .malformed

/-- The character that a one letter escape stands for. -/
def shortEscape? (c : Char) : Option Char :=
  if c = '"' then some '"'
  else if c = '\\' then some '\\'
  else if c = '/' then some '/'
  else if c = 'b' then some '\x08'
  else if c = 'f' then some '\x0c'
  else if c = 'n' then some '\n'
  else if c = 'r' then some '\r'
  else if c = 't' then some '\t'
  else none

/-- The number of octets that are left, as far as four matter. -/
def octetsLeft (cs : List Char) : Nat := ((cs.take 4).map Char.utf8Size).foldr Nat.add 0

/-- The four hexadecimal digits of an escape. -/
def hexQuad? (a b c d : Char) : Option Nat := Number.readHex? [a, b, c, d]

/-- The fault of an escape with fewer than four characters after it. -/
def quadFault (cs : List Char) : Fault := if octetsLeft cs < 4 then .ended else .malformed

/-- A code unit that opens a pair. -/
def isLeading (n : Nat) : Bool := 0xD800 ≤ n && n ≤ 0xDBFF

/-- A code unit that closes a pair. -/
def isTrailing (n : Nat) : Bool := 0xDC00 ≤ n && n ≤ 0xDFFF

/-- The character of a pair of code units. -/
def pairChar (leading trailing : Nat) : Char :=
  Char.ofNat (0x10000 + (leading - 0xD800) * 0x400 + (trailing - 0xDC00))

/-- One more character in front of a scanned text. -/
def consChar (c : Char) : Scan (List Char) → Scan (List Char)
  | .ok (cs, rest) => .ok (c :: cs, rest)
  | .error fault => .error fault

/-- The characters of a text, from behind its opening quote to its closing quote. A code unit of a
pair is an error when its partner does not follow. -/
def scanText : List Char → Scan (List Char)
  | [] => .error .ended
  | c :: rest =>
    if c = '"' then .ok ([], rest)
    else if c = '\\' then
      match rest with
      | [] => .error .ended
      | e :: rest =>
        match shortEscape? e with
        | some x => consChar x (scanText rest)
        | none =>
          if e ≠ 'u' then .error .malformed
          else match rest with
            | h₁ :: h₂ :: h₃ :: h₄ :: rest =>
              match hexQuad? h₁ h₂ h₃ h₄ with
              | none => .error .malformed
              | some n =>
                if isTrailing n then .error .malformed
                else if !isLeading n then consChar (Char.ofNat n) (scanText rest)
                else match rest with
                  | [] => .error .ended
                  | ['\\'] => .error .ended
                  | b :: u :: rest =>
                    if b ≠ '\\' ∨ u ≠ 'u' then .error .malformed
                    else match rest with
                      | t₁ :: t₂ :: t₃ :: t₄ :: rest =>
                        match hexQuad? t₁ t₂ t₃ t₄ with
                        | none => .error .malformed
                        | some m =>
                          if isTrailing m then consChar (pairChar n m) (scanText rest)
                          else .error .malformed
                      | rest => .error (quadFault rest)
                  | _ :: _ => .error .malformed
            | rest => .error (quadFault rest)
    else if c.toNat < 0x20 then .error .malformed
    else consChar c (scanText rest)

/-- The input behind a text nobody wants; code units need no partners here. -/
def skipText : List Char → Except Fault (List Char)
  | [] => .error .ended
  | c :: rest =>
    if c = '"' then .ok rest
    else if c = '\\' then
      match rest with
      | [] => .error .ended
      | e :: rest =>
        if (shortEscape? e).isSome then skipText rest
        else if e ≠ 'u' then .error .malformed
        else match rest with
          | h₁ :: h₂ :: h₃ :: h₄ :: rest =>
            match hexQuad? h₁ h₂ h₃ h₄ with
            | none => .error .malformed
            | some _ => skipText rest
          | rest => .error (quadFault rest)
    else if c.toNat < 0x20 then .error .malformed
    else skipText rest

/-- The parts of a number as they are written. -/
structure Numeral where
  /-- Whether a minus stands in front. -/
  negative : Bool
  /-- The digits before the point. -/
  whole : List Char
  /-- The digits behind the point, when there is one. -/
  fraction : Option (List Char)
  /-- The sign and the digits of the power of ten, when there is one. -/
  power : Option (Bool × List Char)
deriving DecidableEq, Repr

/-- The digits at the front of the input. -/
def scanDigits (cs : List Char) : List Char × List Char := cs.span Char.isDigit

/-- The digits before the point: one zero, or digits that do not begin with zero. -/
def scanWhole (cs : List Char) : Scan (List Char) :=
  match scanDigits cs with
  | ([], rest) => .error (unexpected rest)
  | ('0' :: _ :: _, _) => .error .malformed
  | (digits, rest) => .ok (digits, rest)

/-- The point and the digits behind it, when a point follows. -/
def scanFraction : List Char → Scan (Option (List Char))
  | '.' :: rest =>
    match scanDigits rest with
    | ([], rest) => .error (unexpected rest)
    | (digits, rest) => .ok (some digits, rest)
  | cs => .ok (none, cs)

/-- The sign of a power of ten, when there is one. -/
def scanPowerSign : List Char → Bool × List Char
  | '-' :: rest => (true, rest)
  | '+' :: rest => (false, rest)
  | cs => (false, cs)

/-- The power of ten, when its mark follows. -/
def scanPower : List Char → Scan (Option (Bool × List Char))
  | [] => .ok (none, [])
  | c :: rest =>
    if c = 'e' ∨ c = 'E' then
      let (negative, rest) := scanPowerSign rest
      match scanDigits rest with
      | ([], rest) => .error (unexpected rest)
      | (digits, rest) => .ok (some (negative, digits), rest)
    else .ok (none, c :: rest)

/-- A number. -/
def scanNumeral (cs : List Char) : Except Fault (Numeral × List Char) := do
  let (negative, cs) := match cs with
    | '-' :: rest => (true, rest)
    | _ => (false, cs)
  let (whole, cs) ← scanWhole cs
  let (fraction, cs) ← scanFraction cs
  let (power, cs) ← scanPower cs
  return (⟨negative, whole, fraction, power⟩, cs)

/-- Passing over a number breaks the grammar even where the input ends too early. -/
def skipNumeral (cs : List Char) : Except Fault (List Char) :=
  match scanNumeral cs with
  | .ok (_, rest) => .ok rest
  | .error _ => .error .malformed

/-- The two kinds of containers. -/
inductive Bracket where
  /-- A sequence. -/
  | square
  /-- A table. -/
  | curly
deriving DecidableEq, Repr

/-- The character that closes a container. -/
def Bracket.closer : Bracket → Char
  | .square => ']'
  | .curly => '\x7d'

/-- Where a walk over an unwanted value stands. -/
inductive Place where
  /-- A value is due. -/
  | value
  /-- A container has just been opened. -/
  | opened
  /-- A value has just ended. -/
  | closed
deriving DecidableEq, Repr

/-- The name of a table entry and the colon behind it. -/
def skipName (cs : List Char) : Except Fault (List Char) :=
  match skipGaps cs with
  | '"' :: rest => do
    match skipGaps (← skipText rest) with
    | ':' :: rest => return rest
    | rest => throw (unexpected rest)
  | rest => .error (unexpected rest)

/-- Before the next entry of a container its name is passed over when it has one. -/
def skipLabel (bracket : Bracket) (cs : List Char) : Except Fault (List Char) :=
  match bracket with
  | .square => .ok cs
  | .curly => skipName cs

/-- A walk over an unwanted value with the containers around it. Every step but the last takes at
least one character away or leaves `opened`, so twice the length of the input is fuel enough. -/
def skipFrom : Nat → Place → List Bracket → List Char → Except Fault (List Char)
  | 0, _, _, _ => .error .malformed
  | fuel + 1, .value, stack, cs =>
    match skipGaps cs with
    | [] => .error .ended
    | c :: rest =>
      if c = '[' then skipFrom fuel .opened (.square :: stack) rest
      else if c = '\x7b' then skipFrom fuel .opened (.curly :: stack) rest
      else do
        let rest ←
          if c = '"' then skipText rest
          else if c = 'n' then expectWord "ull".toList rest
          else if c = 't' then expectWord "rue".toList rest
          else if c = 'f' then expectWord "alse".toList rest
          else if c = '-' ∨ c.isDigit then skipNumeral (c :: rest)
          else throw .malformed
        skipFrom fuel .closed stack rest
  | _ + 1, .opened, [], _ => .error .malformed
  | fuel + 1, .opened, bracket :: stack, cs =>
    match skipGaps cs with
    | [] => .error .ended
    | c :: rest =>
      if c = bracket.closer then skipFrom fuel .closed stack rest
      else do
        let rest ← skipLabel bracket (c :: rest)
        skipFrom fuel .value (bracket :: stack) rest
  | _ + 1, .closed, [], cs => .ok cs
  | fuel + 1, .closed, bracket :: stack, cs =>
    match skipGaps cs with
    | [] => .error .ended
    | c :: rest =>
      if c = bracket.closer then skipFrom fuel .closed stack rest
      else if c = ',' then do
        let rest ← skipLabel bracket rest
        skipFrom fuel .value (bracket :: stack) rest
      else .error .malformed

/-- The input behind a value nobody wants. -/
def skipValue (cs : List Char) : Except Fault (List Char) :=
  skipFrom (2 * cs.length + 2) .value [] cs

end GracefulService.Json
