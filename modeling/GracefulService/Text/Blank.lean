import GracefulService.Text.Span

/-!
# Blank characters

The Unicode property White_Space, and the trimming of blank characters from the ends of a text.
-/

namespace GracefulService.Text

/-- The spans of the property White_Space. -/
def blanks : List Span := [
  ⟨0x9, 0xD⟩, ⟨0x20, 0x20⟩, ⟨0x85, 0x85⟩, ⟨0xA0, 0xA0⟩, ⟨0x1680, 0x1680⟩, ⟨0x2000, 0x200A⟩,
  ⟨0x2028, 0x2029⟩, ⟨0x202F, 0x202F⟩, ⟨0x205F, 0x205F⟩, ⟨0x3000, 0x3000⟩]

/-- A blank character has the property White_Space. -/
def isBlank (c : Char) : Bool := inSpans blanks c

/-- The text without the blank characters it begins with. -/
def trimStart (cs : List Char) : List Char := cs.dropWhile isBlank

/-- The text without the blank characters it ends with. -/
def trimEnd (cs : List Char) : List Char := (cs.reverse.dropWhile isBlank).reverse

/-- The text without the blank characters at its two ends. -/
def trim (cs : List Char) : List Char := trimEnd (trimStart cs)

/-- The ASCII letters of a text become small; every other character stays. -/
def lowerAscii (cs : List Char) : List Char := cs.map Char.toLower

/-- The pieces of a text between the places where `separator` stands; there is always one. -/
def splitAt (separator : Char) : List Char → List (List Char)
  | [] => [[]]
  | c :: rest =>
    if c = separator then [] :: splitAt separator rest
    else match splitAt separator rest with
      | [] => [[c]]
      | piece :: pieces => (c :: piece) :: pieces

/-- The text before the first `separator` and the text after it, when there is one. -/
def splitFirst (separator : Char) : List Char → Option (List Char × List Char)
  | [] => none
  | c :: rest =>
    if c = separator then some ([], rest)
    else (splitFirst separator rest).map fun (left, right) => (c :: left, right)

/-- What follows `start` in a text that begins with it. -/
def afterStart : List Char → List Char → Option (List Char)
  | [], cs => some cs
  | _ :: _, [] => none
  | s :: start, c :: cs => if s = c then afterStart start cs else none

end GracefulService.Text
