/-!
# Faults of a JSON text

Why a text is not the JSON that was asked for.
-/

namespace GracefulService.Json

/-- The kinds of fault, told apart by what the writer of the text would have to mend. -/
inductive Fault where
  /-- The text breaks the grammar. -/
  | malformed
  /-- The text is a value, but not one of the kind asked for. -/
  | mismatched
  /-- The text ends before the value does. -/
  | ended
deriving DecidableEq, Repr, Inhabited

/-- Reading takes some characters away and leaves the rest. -/
abbrev Scan (α : Type) := Except Fault (α × List Char)

end GracefulService.Json
