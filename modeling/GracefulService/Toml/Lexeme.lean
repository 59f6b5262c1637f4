import GracefulService.Number.Digits

/-!
# Lexemes of TOML

Gaps, comments, line ends, strings and keys. A reader takes its lexeme from the front of the input and
gives what is left, or refuses the input.
-/

namespace GracefulService.Toml

/-- Spaces and tabs. -/
def isSpace (c : Char) : Bool := c = ' ' || c = '\t'

/-- The input behind spaces and tabs. -/
def skipSpaces (cs : List Char) : List Char := cs.dropWhile isSpace

/-- Characters that may stand in comments and texts: all but controls, with tabs. -/
def isTextChar (c : Char) : Bool := c = '\t' || (0x20 ≤ c.toNat && c.toNat ≠ 0x7F)

/-- The input behind a line end. -/
def afterLineEnd? : List Char → Option (List Char)
  | '\n' :: rest => some rest
  | '\r' :: '\n' :: rest => some rest
  | _ => none

/-- The input behind a comment, which reaches up to the line end. -/
def skipComment : List Char → List Char
  | '#' :: rest => rest.dropWhile isTextChar
  | cs => cs

/-- The input behind the rest of a line: a gap, a comment, and the line end or the end of the input. -/
def afterLine? (cs : List Char) : Option (List Char) :=
  match skipComment (skipSpaces cs) with
  | [] => some []
  | rest => afterLineEnd? rest

/-- The input behind gaps, comments and line ends, as they may stand between the items of an array. A
comment that no line end follows stays. -/
def skipLines : (fuel : Nat) → List Char → List Char
  | 0, cs => cs
  | fuel + 1, cs =>
    match skipSpaces cs with
    | '#' :: rest =>
      match afterLineEnd? (rest.dropWhile isTextChar) with
      | some rest => skipLines fuel rest
      | none => '#' :: rest
    | rest =>
      match afterLineEnd? rest with
      | some rest => skipLines fuel rest
      | none => rest

/-- The input behind all gaps, comments and line ends. -/
def skipGaps (cs : List Char) : List Char := skipLines (cs.length + 1) cs

/-- The character with a code point. -/
def scalar? (n : Nat) : Option Char :=
  if n.isValidChar then some (Char.ofNat n) else none

/-- The character that an escape stands for, behind the backslash. -/
def readEscape : List Char → Option (Char × List Char)
  | 'b' :: rest => some ('\x08', rest)
  | 'f' :: rest => some ('\x0c', rest)
  | 'n' :: rest => some ('\n', rest)
  | 'r' :: rest => some ('\r', rest)
  | 't' :: rest => some ('\t', rest)
  | '"' :: rest => some ('"', rest)
  | '\\' :: rest => some ('\\', rest)
  | 'u' :: a :: b :: c :: d :: rest => do
    let c ← scalar? (← Number.readHex? [a, b, c, d])
    return (c, rest)
  | 'U' :: a :: b :: c :: d :: e :: f :: g :: h :: rest => do
    let c ← scalar? (← Number.readHex? [a, b, c, d, e, f, g, h])
    return (c, rest)
  | _ => none

/-- A character in front of a text. -/
def consChar (c : Char) : Option (List Char × List Char) → Option (List Char × List Char)
  | some (cs, rest) => some (c :: cs, rest)
  | none => none

/-- A text between double quotes, behind the first one. -/
def readBasic : (fuel : Nat) → List Char → Option (List Char × List Char)
  | 0, _ => none
  | _ + 1, [] => none
  | fuel + 1, c :: rest =>
    if c = '"' then some ([], rest)
    else if c = '\\' then do
      let (c, rest) ← readEscape rest
      consChar c (readBasic fuel rest)
    else if isTextChar c then consChar c (readBasic fuel rest)
    else none

/-- A text between single quotes, behind the first one. -/
def readLiteral : List Char → Option (List Char × List Char)
  | [] => none
  | c :: rest =>
    if c = '\'' then some ([], rest)
    else if isTextChar c then consChar c (readLiteral rest)
    else none

/-- The input behind spaces, tabs and line ends. -/
def skipBlankLines : List Char → List Char
  | '\r' :: '\n' :: rest => skipBlankLines rest
  | c :: rest => if isSpace c ∨ c = '\n' then skipBlankLines rest else c :: rest
  | [] => []

/-- The input behind the gap that a backslash at the end of a line swallows. -/
def afterFoldedLine? (cs : List Char) : Option (List Char) :=
  (afterLineEnd? (skipSpaces cs)).map skipBlankLines

/-- Quotes in a text of several lines: three or more end it, and up to two in front of those belong to
the text. Gives the quotes of the text and, when it ends here, the input behind it. -/
def readQuotes (quote : Char) (cs : List Char) : Option (List Char × Option (List Char)) :=
  let count := (cs.takeWhile (· = quote)).length
  if count < 3 then some (List.replicate count quote, none)
  else if count ≤ 5 then some (List.replicate (count - 3) quote, some (cs.drop count))
  else none

/-- Characters in front of a text. -/
def prependChars (cs : List Char) : Option (List Char × List Char) → Option (List Char × List Char)
  | some (more, rest) => some (cs ++ more, rest)
  | none => none

/-- A text of several lines between three double quotes, behind the first ones. -/
def readBasicLines : (fuel : Nat) → List Char → Option (List Char × List Char)
  | 0, _ => none
  | _ + 1, [] => none
  | fuel + 1, c :: rest =>
    if c = '"' then
      match readQuotes '"' (c :: rest) with
      | some (quotes, some rest) => some (quotes, rest)
      | some (quotes, none) =>
        prependChars quotes (readBasicLines fuel ((c :: rest).drop quotes.length))
      | none => none
    else if c = '\\' then
      match afterFoldedLine? rest with
      | some rest => readBasicLines fuel rest
      | none => do
        let (c, rest) ← readEscape rest
        consChar c (readBasicLines fuel rest)
    else match afterLineEnd? (c :: rest) with
      | some rest => consChar '\n' (readBasicLines fuel rest)
      | none => if isTextChar c then consChar c (readBasicLines fuel rest) else none

/-- A text of several lines between three single quotes, behind the first ones. -/
def readLiteralLines : (fuel : Nat) → List Char → Option (List Char × List Char)
  | 0, _ => none
  | _ + 1, [] => none
  | fuel + 1, c :: rest =>
    if c = '\'' then
      match readQuotes '\'' (c :: rest) with
      | some (quotes, some rest) => some (quotes, rest)
      | some (quotes, none) =>
        prependChars quotes (readLiteralLines fuel ((c :: rest).drop quotes.length))
      | none => none
    else match afterLineEnd? (c :: rest) with
      | some rest => consChar '\n' (readLiteralLines fuel rest)
      | none => if isTextChar c then consChar c (readLiteralLines fuel rest) else none

/-- The input without a line end at its front. -/
def withoutLineEnd (cs : List Char) : List Char := (afterLineEnd? cs).getD cs

/-- A text on one line, in either kind of quotes. -/
def readText : List Char → Option (String × List Char)
  | '"' :: rest => (readBasic (rest.length + 1) rest).map fun (cs, rest) => (String.ofList cs, rest)
  | '\'' :: rest => (readLiteral rest).map fun (cs, rest) => (String.ofList cs, rest)
  | _ => none

/-- A text in any of the four kinds of quotes. A line end behind three quotes does not belong to it. -/
def readAnyText : List Char → Option (String × List Char)
  | '"' :: '"' :: '"' :: rest =>
    (readBasicLines (rest.length + 1) (withoutLineEnd rest)).map fun (cs, rest) =>
      (String.ofList cs, rest)
  | '\'' :: '\'' :: '\'' :: rest =>
    (readLiteralLines (rest.length + 1) (withoutLineEnd rest)).map fun (cs, rest) =>
      (String.ofList cs, rest)
  | cs => readText cs

/-- Characters of a key without quotes. -/
def isKeyChar (c : Char) : Bool := c.isAlphanum || c = '-' || c = '_'

/-- One part of a key. -/
def readKeyPart (cs : List Char) : Option (String × List Char) :=
  match cs with
  | '"' :: _ => readText cs
  | '\'' :: _ => readText cs
  | _ =>
    let (name, rest) := cs.span isKeyChar
    if name.isEmpty then none else some (String.ofList name, rest)

/-- A key of parts between points, with the gaps around them. There are fewer parts than `fuel`. -/
def readKeyParts : (fuel : Nat) → List Char → Option (List String × List Char)
  | 0, _ => none
  | fuel + 1, cs => do
    let (part, rest) ← readKeyPart (skipSpaces cs)
    match skipSpaces rest with
    | '.' :: rest => do
      let (parts, rest) ← readKeyParts fuel rest
      return (part :: parts, rest)
    | rest => return ([part], rest)

/-- A value may be nested, and a key may have parts, less often than this. -/
def depthLimit : Nat := 80

/-- A key. -/
def readKey (cs : List Char) : Option (List String × List Char) := readKeyParts (depthLimit - 1) cs

end GracefulService.Toml
