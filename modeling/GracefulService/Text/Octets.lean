import GracefulService.Text.Span

/-!
# Octets of a text

UTF-8 read from octets that may be broken. Every maximal run that begins a character and cannot be
completed becomes one replacement character, so reading never fails and keeps every sound character.
-/

namespace GracefulService.Text

/-- The character that stands for octets that are no character. -/
def replacement : Char := '\ufffd'

/-- For a leading octet of several: how many octets follow the second one, and where the second one
must lie. The second octet alone rules out overlong forms, surrogates and too large code points. -/
def secondOctet (lead : Nat) : Option (Nat × Span) :=
  if lead < 0xC2 then none
  else if lead < 0xE0 then some (0, ⟨0x80, 0xBF⟩)
  else if lead = 0xE0 then some (1, ⟨0xA0, 0xBF⟩)
  else if lead = 0xED then some (1, ⟨0x80, 0x9F⟩)
  else if lead < 0xF0 then some (1, ⟨0x80, 0xBF⟩)
  else if lead = 0xF0 then some (2, ⟨0x90, 0xBF⟩)
  else if lead < 0xF4 then some (2, ⟨0x80, 0xBF⟩)
  else if lead = 0xF4 then some (2, ⟨0x80, 0x8F⟩)
  else none

/-- An octet that continues a character. -/
def continues (octet : Nat) : Bool := Span.holds ⟨0x80, 0xBF⟩ octet

/-- The text that the octets spell, with a replacement character for each broken run. -/
def readOctets : List Nat → List Char
  | [] => []
  | a :: rest =>
    if a < 0x80 then Char.ofNat a :: readOctets rest
    else match secondOctet a with
      | none => replacement :: readOctets rest
      | some (more, span) =>
        match rest with
        | [] => [replacement]
        | b :: rest₂ =>
          if !span.holds b then replacement :: readOctets (b :: rest₂)
          else if more = 0 then Char.ofNat ((a - 0xC0) * 64 + (b - 0x80)) :: readOctets rest₂
          else match rest₂ with
            | [] => [replacement]
            | c :: rest₃ =>
              if !continues c then replacement :: readOctets (c :: rest₃)
              else if more = 1 then
                Char.ofNat ((a - 0xE0) * 4096 + (b - 0x80) * 64 + (c - 0x80)) :: readOctets rest₃
              else match rest₃ with
                | [] => [replacement]
                | d :: rest₄ =>
                  if !continues d then replacement :: readOctets (d :: rest₄)
                  else Char.ofNat ((a - 0xF0) * 262144 + (b - 0x80) * 4096 + (c - 0x80) * 64
                    + (d - 0x80)) :: readOctets rest₄

/-- The octets of a text in UTF-8. -/
def octets (s : String) : List Nat := s.toUTF8.toList.map UInt8.toNat

end GracefulService.Text
