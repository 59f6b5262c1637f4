import GracefulService.Text.Extending
import GracefulService.Text.Invisible

/-!
# Quoted text

A quoted text stands between double quotes and shows on one line exactly which characters it has:
quotes, backslashes, line ends, tabs and zero characters are escaped by a letter, and every character
that is invisible or extends the grapheme before it is written by its code point.
-/

namespace GracefulService.Text

/-- A hexadecimal digit below 16, in small letters. -/
def hexDigit (n : Nat) : Char :=
  if n < 10 then Char.ofNat (0x30 + n) else Char.ofNat (0x57 + n)

/-- The hexadecimal digits of a number, in small letters and without leading zeros. -/
def hex (n : Nat) : List Char :=
  if n < 16 then [hexDigit n] else hex (n / 16) ++ [hexDigit (n % 16)]
termination_by n
decreasing_by exact Nat.div_lt_self (by omega) (by decide)

/-- The digits of a number in base ten. -/
def decimal (n : Nat) : List Char :=
  if n < 10 then [hexDigit n] else decimal (n / 10) ++ [hexDigit (n % 10)]
termination_by n
decreasing_by exact Nat.div_lt_self (by omega) (by decide)

/-- A character outside ASCII is shown as itself when it is visible and extends no grapheme. -/
def isShown (c : Char) : Bool :=
  if c.toNat < 0x7F then decide (0x20 ≤ c.toNat)
  else !inSpans invisible c && !inSpans extending c

/-- One character as it stands between the quotes. -/
def quoteChar (c : Char) : List Char :=
  if c = '"' then ['\\', '"']
  else if c = '\\' then ['\\', '\\']
  else if c = '\n' then ['\\', 'n']
  else if c = '\r' then ['\\', 'r']
  else if c = '\t' then ['\\', 't']
  else if c.toNat = 0 then ['\\', '0']
  else if isShown c then [c]
  else ['\\', 'u', '\x7b'] ++ hex c.toNat ++ ['\x7d']

/-- The characters of a text between the quotes. -/
def quoteChars (cs : List Char) : List Char := cs.flatMap quoteChar

/-- A text between double quotes, escaped so that it shows on one line. -/
def quoted (s : String) : String := String.ofList ('"' :: quoteChars s.toList ++ ['"'])

end GracefulService.Text
