import GracefulService.Number.Scientific
import GracefulService.Text.Blank

/-!
# Choosing a body format

The body of a report follows the ranges a client says it accepts. Each of the two formats takes the
quality of the most specific range that names it, the best one of several, and plain text is sent only
where its quality is strictly greater.
-/

namespace GracefulService.Http

open Number

/-- How a report is written. -/
inductive BodyFormat where
  /-- The reason alone. -/
  | text
  /-- Status and reason. -/
  | json
deriving DecidableEq, Repr, Inhabited

/-- The quality of a format, from ranges of one specificity. -/
structure Preference where
  /-- How specific the ranges are: two for a type, one for a family, zero for everything. -/
  rank : Nat
  /-- The best quality among them. -/
  quality : Binary
deriving DecidableEq, Repr, Inhabited

/-- One range of a list. -/
structure AcceptRange where
  /-- The media type in small letters. -/
  media : List Char
  /-- How welcome it is. -/
  quality : Binary
deriving DecidableEq, Repr, Inhabited

namespace AcceptRange

/-- One in single precision. -/
def one : Binary := Format.single.round false 1 1

/-- The quality that a parameter gives, when it gives one. -/
def weight? (parameter : List Char) : Option Binary :=
  match Text.afterStart ['q', '='] (Text.trim parameter) with
  | some value => readBinary? .single (Text.trim value)
  | none => none

/-- Reads one range. The first parameter that gives a quality counts; without one it is one. -/
def read (cs : List Char) : AcceptRange :=
  match Text.splitAt ';' cs with
  | [] => ⟨[], one⟩
  | media :: parameters =>
    ⟨Text.lowerAscii (Text.trim media), (parameters.findSome? weight?).getD one⟩

/-- How specifically a range names plain text. -/
def textRank? (range : AcceptRange) : Option Nat :=
  if range.media = "text/plain".toList then some 2
  else if range.media = "text/*".toList then some 1
  else if range.media = "*/*".toList then some 0
  else none

/-- How specifically a range names JSON. -/
def jsonRank? (range : AcceptRange) : Option Nat :=
  if range.media = "application/json".toList then some 2
  else if range.media = "application/*".toList then some 1
  else if range.media = "*/*".toList then some 0
  else none

end AcceptRange

/-- A preference after one more range: a more specific one stays, and so does a better one of the same
specificity. -/
def Preference.refine (current : Option Preference) (rank : Option Nat) (quality : Binary) :
    Option Preference :=
  match rank, current with
  | none, _ => current
  | some rank, none => some ⟨rank, quality⟩
  | some rank, some held =>
    if rank < held.rank ∨ (held.rank = rank ∧ quality.atMost held.quality = true) then some held
    else some ⟨rank, quality⟩

/-- The preferences for plain text and for JSON after one more range. -/
def refineBoth (held : Option Preference × Option Preference) (range : AcceptRange) :
    Option Preference × Option Preference :=
  (Preference.refine held.1 range.textRank? range.quality,
    Preference.refine held.2 range.jsonRank? range.quality)

/-- Zero in single precision. -/
def zeroQuality : Binary := Format.single.round false 0 1

/-- The quality of a format; one that no range names has none. -/
def Preference.qualityOf (preference : Option Preference) : Binary :=
  (preference.map Preference.quality).getD zeroQuality

/-- The ranges of a list. -/
def acceptRanges (accept : String) : List AcceptRange :=
  (Text.splitAt ',' accept.toList).map AcceptRange.read

/-- The format for a client that accepts the given ranges, or says nothing about it. -/
def BodyFormat.negotiate (accept : Option String) : BodyFormat :=
  match accept with
  | none => .json
  | some accept =>
    let held := (acceptRanges accept).foldl refineBoth (none, none)
    if (Preference.qualityOf held.2).less (Preference.qualityOf held.1) then .text else .json

end GracefulService.Http
