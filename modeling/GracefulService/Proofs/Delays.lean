import GracefulService.Proofs.Cutting
import GracefulService.Proofs.Numerals
import GracefulService.Serve.Delay

/-!
# How delays are written

A delay is one decimal digit or more, with the name of a measure right behind them and nothing but blank characters
around. Digits may denote any number of 64 bits, and such a number of a measure is read as exactly so many
milliseconds; only minutes whose seconds do not fit 64 bits cannot be counted. Everything else is
unreadable. The text is cut where its first character that is no digit begins, which is never inside a
character.
-/

namespace GracefulService

namespace Delay

open Number

/-! ## The grammar -/

/-- What delays are measured in. -/
inductive Measure where
  /-- Thousandths of a second. -/
  | milliseconds
  /-- Seconds. -/
  | seconds
  /-- Sixty seconds each. -/
  | minutes
deriving DecidableEq, Repr

namespace Measure

/-- How a measure is written. -/
def name : Measure → List Char
  | milliseconds => ['m', 's']
  | seconds => ['s']
  | minutes => ['m']

/-- How many milliseconds a measure has. -/
def length : Measure → Nat
  | milliseconds => 1
  | seconds => 1000
  | minutes => 60 * 1000

end Measure

/-- A text says so many of a measure. -/
structure Says (text : String) (n : Nat) (measure : Measure) : Prop where
  spelled : ∃ before digits after, text.toList = before ++ (digits ++ measure.name ++ after)
    ∧ ((∀ c ∈ before, Text.isBlank c = true) ∧ ∀ c ∈ after, Text.isBlank c = true)
    ∧ digits ≠ [] ∧ (∀ c ∈ digits, c.isDigit = true) ∧ denoted digits = n

/-- A text says so many minutes that their seconds cannot be counted, although the minutes can. -/
def Overlong (text : String) : Prop := ∃ n, Says text n .minutes ∧ n < wordLimit ∧ wordLimit ≤ n * 60

/-- No digit is a blank. -/
theorem isBlank_of_isDigit {c : Char} (h : c.isDigit = true) : Text.isBlank c = false := by
  have hrange := Char.isDigit_iff_toNat.1 h
  simp only [Char.reduceToNat] at hrange
  simp [Text.isBlank, Text.inSpans, Text.blanks, Text.Span.holds]
  omega

/-- What is left of a text when it is trimmed decides what it says. -/
theorem says_iff {text : String} {n : Nat} {measure : Measure} :
    Says text n measure ↔ ∃ digits, Text.trim text.toList = digits ++ measure.name
      ∧ digits ≠ [] ∧ (∀ c ∈ digits, c.isDigit = true) ∧ denoted digits = n := by
  have htrim : ∀ digits : List Char, digits ≠ [] → (∀ c ∈ digits, c.isDigit = true) →
      (Text.trim text.toList = digits ++ measure.name
        ↔ ∃ before after, text.toList = before ++ (digits ++ measure.name ++ after)
          ∧ (∀ c ∈ before, Text.isBlank c = true) ∧ ∀ c ∈ after, Text.isBlank c = true) := by
    intro digits hsome hdigits
    refine Text.trim_eq_iff ?_ ?_
    · intro c hc
      obtain ⟨digit, rest, rfl⟩ := List.exists_cons_of_ne_nil hsome
      cases hc
      exact isBlank_of_isDigit (hdigits _ List.mem_cons_self)
    · intro c hc
      cases measure <;> simp [Measure.name] at hc <;> subst hc <;> decide
  constructor
  · rintro ⟨before, digits, after, htext, hblank, hsome, hdigits, hn⟩
    exact ⟨digits, (htrim digits hsome hdigits).2 ⟨before, after, htext, hblank⟩, hsome, hdigits, hn⟩
  · rintro ⟨digits, hkept, hsome, hdigits, hn⟩
    obtain ⟨before, after, htext, hblank⟩ := (htrim digits hsome hdigits).1 hkept
    exact ⟨before, digits, after, htext, hblank, hsome, hdigits, hn⟩

/-! ## Reading -/

/-- A number of a measure, as far as it can be counted. -/
theorem inUnit_name (n : Nat) (measure : Measure) : inUnit n measure.name
    = if measure = .minutes ∧ wordLimit ≤ n * 60 then .overflow else .lasting (n * measure.length) := by
  cases measure with
  | milliseconds => simp [inUnit, Measure.name, Measure.length]
  | seconds => simp [inUnit, Measure.name, Measure.length]
  | minutes =>
    by_cases hfits : n * 60 < wordLimit
    · simp [inUnit, Measure.name, Measure.length, hfits, Nat.not_le.2 hfits, Nat.mul_assoc]
    · simp [inUnit, Measure.name, hfits, Nat.le_of_not_lt hfits]

/-- Nothing but the name of a measure is a unit. -/
theorem exists_measure {n : Nat} {unit : List Char} (h : inUnit n unit ≠ .unreadable) :
    ∃ measure : Measure, measure.name = unit := by
  unfold inUnit at h
  split at h
  · exact ⟨.milliseconds, Eq.symm ‹_›⟩
  split at h
  · exact ⟨.seconds, Eq.symm ‹_›⟩
  split at h
  · exact ⟨.minutes, Eq.symm ‹_›⟩
  · exact absurd rfl h

/-- What says a number of 64 bits of some measure is read so. -/
theorem read_eq_inUnit {text : String} {n : Nat} {measure : Measure} (hsaid : Says text n measure)
    (hfits : n < wordLimit) : read text = inUnit n measure.name := by
  obtain ⟨digits, htrim, hsome, hdigits, hn⟩ := says_iff.1 hsaid
  have hstop : measure.name.takeWhile Char.isDigit = [] ∧ measure.name.dropWhile Char.isDigit = measure.name
      ∧ measure.name.isEmpty = false := by
    cases measure <;> decide
  have hspan : (digits ++ measure.name).span Char.isDigit = (digits, measure.name) := by
    rw [List.span_eq_takeWhile_dropWhile, List.takeWhile_append_of_pos hdigits,
      List.dropWhile_append_of_pos hdigits, hstop.1, hstop.2.1, List.append_nil]
  have hnumber : readBelow? wordLimit digits = some n := by
    simp [readBelow?, readDecimal?_eq_some_iff.2 ⟨hsome, hdigits, hn⟩, hfits]
  simp only [read, htrim, hspan, hstop.2.2, hnumber, Bool.false_eq_true, if_false]

/-- What is readable says a number of 64 bits of some measure. -/
theorem says_of_readable {text : String} (h : read text ≠ .unreadable) :
    ∃ n measure, Says text n measure ∧ n < wordLimit := by
  have hparts : (Text.trim text.toList).span Char.isDigit = ((Text.trim text.toList).takeWhile Char.isDigit,
      (Text.trim text.toList).dropWhile Char.isDigit) := List.span_eq_takeWhile_dropWhile ..
  simp only [read, hparts] at h
  split at h
  · exact absurd rfl h
  split at h
  · rename_i n hnumber
    obtain ⟨measure, hname⟩ := exists_measure h
    have hdecimal : readDecimal? ((Text.trim text.toList).takeWhile Char.isDigit) = some n := by
      unfold readBelow? at hnumber
      grind
    refine ⟨n, measure, says_iff.2 ⟨_, ?_, readDecimal?_eq_some_iff.1 hdecimal⟩, lt_of_readBelow? hnumber⟩
    rw [hname, List.takeWhile_append_dropWhile]
  · exact absurd rfl h

/-- What some digits and the text behind them say about a delay. -/
def ofParts (digits unit : List Char) : Delay :=
  match readBelow? wordLimit digits with
  | some n => inUnit n unit
  | none => .unreadable

/-- Reads a delay where it stands: the first character that is no digit is looked for octet by octet, and the
text is cut at the octet at which that character begins. Nothing is read where there is no cut. -/
def readInPlace? (text : String) : Option Delay :=
  match Text.findOctet? (fun c => !c.isDigit) (Text.trim text.toList) with
  | none => some .unreadable
  | some place => (Text.cutAt? place (Text.trim text.toList)).map fun (digits, unit) => ofParts digits unit

/-- Something is always read in place, and it is the delay. -/
theorem readInPlace?_eq (text : String) : readInPlace? text = some (read text) := by
  have hdigits : (fun c : Char => !!c.isDigit) = Char.isDigit := funext fun c => Bool.not_not c.isDigit
  unfold readInPlace? read
  cases hplace : Text.findOctet? (fun c => !c.isDigit) (Text.trim text.toList) with
  | none =>
    have hend := Text.span_of_findOctet?_none hplace
    rw [hdigits] at hend
    simp only [hend, List.isEmpty_nil, if_true]
  | some place =>
    obtain ⟨hcut, hbehind⟩ := Text.cutAt?_findOctet? hplace
    rw [hdigits] at hcut hbehind
    simp only [hcut, Option.map_some, List.isEmpty_eq_false_iff.2 hbehind, Bool.false_eq_true, if_false]
    rfl

/-- A text is a delay of so many milliseconds exactly when it says a number of 64 bits of some measure that is so
long, and can be counted. A text that says no such number is unreadable, and no other one is. The text is always
cut where a character begins. -/
theorem read_by_grammar (text : String) :
    readInPlace? text = some (read text)
      ∧ (∀ milliseconds, read text = .lasting milliseconds ↔ read text ≠ .overflow ∧ ∃ n measure,
        Says text n measure ∧ n < wordLimit ∧ milliseconds = n * measure.length)
      ∧ (read text = .unreadable ↔ ¬ ∃ n measure, Says text n measure ∧ n < wordLimit) := by
  refine ⟨readInPlace?_eq text, fun milliseconds => ⟨fun hread => ?_, ?_⟩, fun hread => ?_, fun hnot => ?_⟩
  · have hreadable : read text ≠ .unreadable := by simp [hread]
    obtain ⟨n, measure, hsaid, hfits⟩ := says_of_readable hreadable
    have hunit := (read_eq_inUnit hsaid hfits).symm.trans hread
    rw [inUnit_name] at hunit
    split at hunit
    · cases hunit
    · exact ⟨by rw [hread]; simp, n, measure, hsaid, hfits, (Delay.lasting.inj hunit).symm⟩
  · rintro ⟨hreturns, n, measure, hsaid, hfits, rfl⟩
    rw [read_eq_inUnit hsaid hfits, inUnit_name] at hreturns ⊢
    rw [if_neg fun hlong => hreturns (if_pos hlong)]
  · rintro ⟨n, measure, hsaid, hfits⟩
    rw [read_eq_inUnit hsaid hfits, inUnit_name] at hread
    split at hread <;> cases hread
  · by_contra hreadable
    exact hnot (says_of_readable hreadable)

/-- Leading zeros and blank characters of any kind change nothing. -/
example : read "\u3000 007m\n" = .lasting 420000 := by decide

/-- Of all texts, those that say too many minutes cannot be counted. -/
theorem read_eq_overflow_iff (text : String) : read text = .overflow ↔ Overlong text := by
  constructor
  · intro hread
    have hreadable : read text ≠ .unreadable := by simp [hread]
    obtain ⟨n, measure, hsaid, hfits⟩ := says_of_readable hreadable
    have hunit := (read_eq_inUnit hsaid hfits).symm.trans hread
    rw [inUnit_name] at hunit
    split at hunit
    · rename_i hlong
      obtain ⟨rfl, hlong⟩ := hlong
      exact ⟨n, hsaid, hfits, hlong⟩
    · cases hunit
  · rintro ⟨n, hsaid, hfits, hlong⟩
    rw [read_eq_inUnit hsaid hfits, inUnit_name, if_pos ⟨rfl, hlong⟩]

end Delay

end GracefulService
