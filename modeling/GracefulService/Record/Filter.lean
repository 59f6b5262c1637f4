import GracefulService.Record.Event
import GracefulService.Text.Blank

/-!
# Log filters

How much of the log is written. A filter is a list of rules between commas: how much a part of the service
may say, with an equals sign between the part and the level; how much everybody may say; or a part that
may say everything. The most specific rule for a part counts, and of two for the same part the later one.
Rules that cannot be read are skipped; where none is left only errors are written.
-/

namespace GracefulService

/-- How much some parts of a service may say. -/
structure FilterRule where
  /-- How the names of the parts begin. -/
  target : List Char
  /-- How much they may say. -/
  verbosity : Nat
deriving DecidableEq, Repr, Inhabited

namespace FilterRule

/-- The levels by their names in small letters and by their digits. -/
def levels : List (List Char × Nat) := [
  ("off".toList, 0), ("error".toList, 1), ("warn".toList, 2), ("info".toList, 3),
  ("debug".toList, 4), ("trace".toList, 5),
  (['0'], 0), (['1'], 1), (['2'], 2), (['3'], 3), (['4'], 4), (['5'], 5)]

/-- Everything is said. -/
def everything : Nat := Level.trace.verbosity

/-- How much a word lets be said. -/
def verbosityOf? (cs : List Char) : Option Nat := levels.lookup (Text.lowerAscii cs)

/-- Names of parts have letters, digits, and some marks. -/
def isName (cs : List Char) : Bool :=
  !cs.isEmpty && cs.all fun c => c.isAlphanum || "_-:".toList.contains c

/-- Reads one rule. -/
def read? (cs : List Char) : Option FilterRule :=
  match Text.splitFirst '=' cs with
  | some (target, level) =>
    let verbosity := if level.isEmpty then some everything else verbosityOf? level
    if isName target then verbosity.map (⟨target, ·⟩) else none
  | none =>
    match verbosityOf? cs with
    | some verbosity => some ⟨[], verbosity⟩
    | none => if isName cs then some ⟨cs, everything⟩ else none

/-- A rule is about a part. -/
def isAbout (target : List Char) (rule : FilterRule) : Bool :=
  (Text.afterStart rule.target target).isSome

end FilterRule

/-- How much of the log is written. -/
structure LogFilter where
  /-- The rules in order. -/
  rules : List FilterRule
deriving DecidableEq, Repr, Inhabited

namespace LogFilter

/-- Reads a filter. -/
def read (text : String) : LogFilter :=
  let rules := (Text.splitAt ',' text.toList).filterMap FilterRule.read?
  ⟨if rules.isEmpty then [⟨[], Level.error.verbosity⟩] else rules⟩

/-- The rule that counts, given the one that counted so far. -/
def prefer (held : Option FilterRule) (rule : FilterRule) : Option FilterRule :=
  match held with
  | some held => if rule.target.length < held.target.length then some held else some rule
  | none => some rule

/-- How much a part may say. -/
def verbosityFor (filter : LogFilter) (reporter : Reporter) : Nat :=
  let rules := filter.rules.filter (FilterRule.isAbout reporter.target.toList)
  ((rules.foldl prefer none).map FilterRule.verbosity).getD 0

/-- An event is written. -/
def lets (filter : LogFilter) (event : Event) : Bool :=
  event.level.verbosity ≤ filter.verbosityFor event.reporter

/-- The filter for the service, from the configured level. -/
def ofLevel (level : String) : LogFilter :=
  read (Reporter.program.target ++ "=" ++ level)

end LogFilter

/-- The lines of a log: the events that are written, for programs or for people. -/
def logLines (filter : LogFilter) (structured : Bool) (events : List Event) : List String :=
  (events.filter filter.lets).map fun event =>
    if structured then event.structuredLine else event.plainLine

end GracefulService
