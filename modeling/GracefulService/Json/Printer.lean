import GracefulService.Json.Number

/-!
# Printing JSON

Documents as JSON, on one line without gaps or over several lines with two spaces for each level.
Texts escape quotes, backslashes and control characters and keep every other character.
-/

namespace GracefulService.Json

/-- Two hexadecimal digits of a code point below 256. -/
def hexPair (n : Nat) : List Char := [Text.hexDigit (n / 16), Text.hexDigit (n % 16)]

/-- One character as it stands between the quotes. -/
def escapeChar (c : Char) : List Char :=
  if c = '"' then ['\\', '"']
  else if c = '\\' then ['\\', '\\']
  else if c = '\x08' then ['\\', 'b']
  else if c = '\x0c' then ['\\', 'f']
  else if c = '\n' then ['\\', 'n']
  else if c = '\r' then ['\\', 'r']
  else if c = '\t' then ['\\', 't']
  else if c.toNat < 0x20 then ['\\', 'u', '0', '0'] ++ hexPair c.toNat
  else [c]

/-- A text between its quotes. -/
def textChars (s : String) : List Char := '"' :: s.toList.flatMap escapeChar ++ ['"']

/-- A whole number. -/
def integerChars : Int → List Char
  | .ofNat n => Text.decimal n
  | .negSucc n => '-' :: Text.decimal (n + 1)

/-- Parts with a separator between neighbours. -/
def joinWith (separator : List Char) : List (List Char) → List Char
  | [] => []
  | [part] => part
  | part :: parts => part ++ separator ++ joinWith separator parts

mutual

/-- A document on one line without gaps. -/
def compactChars : Document → List Char
  | .null => "null".toList
  | .boolean true => "true".toList
  | .boolean false => "false".toList
  | .integer n => integerChars n
  | .fraction x => fractionText x
  | .text s => textChars s
  | .moment s => textChars s
  | .sequence items => '[' :: joinWith [','] (compactItems items) ++ [']']
  | .table fields => '\x7b' :: joinWith [','] (compactFields fields) ++ ['\x7d']

/-- The items of a sequence, each on its own. -/
def compactItems : List Document → List (List Char)
  | [] => []
  | item :: items => compactChars item :: compactItems items

/-- The fields of a table, each on its own. -/
def compactFields : List (String × Document) → List (List Char)
  | [] => []
  | (name, value) :: fields =>
    (textChars name ++ ':' :: compactChars value) :: compactFields fields

end

/-- A document on one line. -/
def compact (d : Document) : String := String.ofList (compactChars d)

/-- A new line with the indentation of a level. -/
def lineBreak (level : Nat) : List Char := '\n' :: List.replicate (2 * level) ' '

/-- A container over several lines; an empty one stays together. -/
def block (opener closer : Char) (level : Nat) : List (List Char) → List Char
  | [] => [opener, closer]
  | parts =>
    opener :: lineBreak (level + 1) ++ joinWith (',' :: lineBreak (level + 1)) parts
      ++ lineBreak level ++ [closer]

mutual

/-- A document over several lines, its first line at a level. -/
def prettyChars (level : Nat) : Document → List Char
  | .null => "null".toList
  | .boolean true => "true".toList
  | .boolean false => "false".toList
  | .integer n => integerChars n
  | .fraction x => fractionText x
  | .text s => textChars s
  | .moment s => textChars s
  | .sequence items => block '[' ']' level (prettyItems (level + 1) items)
  | .table fields => block '\x7b' '\x7d' level (prettyFields (level + 1) fields)

/-- The items of a sequence, each at the level inside it. -/
def prettyItems (level : Nat) : List Document → List (List Char)
  | [] => []
  | item :: items => prettyChars level item :: prettyItems level items

/-- The fields of a table, each at the level inside it. -/
def prettyFields (level : Nat) : List (String × Document) → List (List Char)
  | [] => []
  | (name, value) :: fields =>
    (textChars name ++ ':' :: ' ' :: prettyChars level value) :: prettyFields level fields

end

/-- A document over several lines. -/
def pretty (d : Document) : String := String.ofList (prettyChars 0 d)

end GracefulService.Json
