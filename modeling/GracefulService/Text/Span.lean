/-!
# Spans of code points

A character class given as a list of closed spans. Membership looks at one span after the other, so
a class is decided by its list alone.
-/

namespace GracefulService.Text

/-- The code points from `first` to `last`, both included. -/
structure Span where
  /-- The least code point. -/
  first : Nat
  /-- The greatest code point. -/
  last : Nat
deriving DecidableEq, Repr

/-- A code point lies in a span when it is between the two ends. -/
def Span.holds (span : Span) (point : Nat) : Bool :=
  decide (span.first ≤ point) && decide (point ≤ span.last)

/-- A character lies in a class when one of its spans holds it. -/
def inSpans (spans : List Span) (c : Char) : Bool :=
  spans.any fun span => span.holds c.toNat

end GracefulService.Text
