import GracefulService.Number.Digits
import Mathlib.Data.Nat.Digits.Defs
import Mathlib.Tactic.Ring
import Mathlib.Tactic.SplitIfs

/-!
# Numbers and their digits

A number is written by its digits, without a zero in front of others, and read back as it was written. What
is read need not be written so: any number of zeros may stand in front. The number that digits denote is
given by the places at which they stand.
-/

namespace GracefulService

namespace Text

/-- A text spells a number in a base: by digits in small letters, of which the first is not zero where others
follow. -/
inductive Spelled (base : Nat) : Nat → List Char → Prop where
  | digit {d : Nat} (hd : d < base) : Spelled base d [hexDigit d]
  | more {n d : Nat} {cs : List Char} (hspelled : Spelled base n cs) (hpositive : 0 < n) (hd : d < base) :
      Spelled base (n * base + d) (cs ++ [hexDigit d])

/-- The digits of a number in base ten spell it. -/
theorem spelled_decimal (n : Nat) : Spelled 10 n (decimal n) := by
  induction n using Nat.strongRecOn with
  | ind n ih =>
    rw [decimal]
    split
    next hsmall => exact .digit hsmall
    next hlarge =>
      have htens := (ih (n / 10) (by omega)).more (by omega) (Nat.mod_lt n (by decide))
      rwa [Nat.div_add_mod'] at htens

/-- The digits of a number in base sixteen spell it. -/
theorem spelled_hex (n : Nat) : Spelled 16 n (hex n) := by
  induction n using Nat.strongRecOn with
  | ind n ih =>
    rw [hex]
    split
    next hsmall => exact .digit hsmall
    next hlarge =>
      have hsixteens := (ih (n / 16) (by omega)).more (by omega) (Nat.mod_lt n (by decide))
      rwa [Nat.div_add_mod'] at hsixteens

namespace Spelled

variable {base n : Nat} {cs : List Char}

/-- A number is spelled with at least one digit. -/
theorem ne_nil (h : Spelled base n cs) : cs ≠ [] := by
  cases h <;> simp

/-- Nothing stands in a spelling but digits of the base. -/
theorem digits (h : Spelled base n cs) : ∀ c ∈ cs, ∃ d < base, c = hexDigit d := by
  induction h with
  | digit hd => simpa using ⟨_, hd, rfl⟩
  | more _ _ hd ih =>
    intro c hc
    rcases List.mem_append.1 hc with hc | hc
    · exact ih c hc
    · exact ⟨_, hd, List.mem_singleton.1 hc⟩

/-- Where the first digit is zero, so is the number, and nothing follows. -/
theorem head_zero (hbase : base ≤ 16) (h : Spelled base n cs) (hzero : cs.head? = some '0') :
    n = 0 ∧ cs.length = 1 := by
  have hdigit : ∀ d < 16, hexDigit d = '0' → d = 0 := by decide
  induction h with
  | digit hd => exact ⟨hdigit _ (by omega) (by simpa using hzero), rfl⟩
  | more hspelled hpositive _ ih =>
    rw [List.head?_append, Option.or_of_isSome (by simpa using hspelled.ne_nil)] at hzero
    have := (ih hzero).1
    omega

/-- A spelling has as many digits as the number needs. -/
theorem length_le (h : Spelled base n cs) : ∀ {places : Nat}, n < base ^ (places + 1) → cs.length ≤ places + 1 := by
  induction h with
  | digit => exact fun _ => by simp
  | @more n d cs hspelled hpositive hd ih =>
    intro places hbound
    cases places with
    | zero =>
      have hsmall : 1 * base ≤ n * base := Nat.mul_le_mul_right base hpositive
      rw [pow_one] at hbound
      omega
    | succ places =>
      have hless : n < base ^ (places + 1) := by
        by_contra hmore
        have hlarge := Nat.mul_le_mul_right base (Nat.le_of_not_lt hmore)
        rw [← pow_succ] at hlarge
        omega
      have hlength := ih hless
      simp only [List.length_append, List.length_singleton]
      omega

end Spelled

/-- The digits of a number in base sixteen are digits or letters. -/
theorem isAlphanum_of_mem_hex (n : Nat) : ∀ c ∈ hex n, c.isAlphanum = true := by
  have hdigit : ∀ d < 16, (hexDigit d).isAlphanum = true := by decide
  intro c hc
  obtain ⟨d, hd, rfl⟩ := (spelled_hex n).digits c hc
  exact hdigit d hd

/-- No mark is among them. -/
theorem not_mem_hex {mark : Char} (hmark : mark.isAlphanum = false) (n : Nat) : mark ∉ hex n :=
  fun hmem => Bool.false_ne_true (hmark.symm.trans (isAlphanum_of_mem_hex n mark hmem))

/-- A digit below ten is a decimal digit that spells itself. -/
theorem hexDigit_below_ten : ∀ d < 10, (hexDigit d).isDigit = true ∧ (hexDigit d).toNat - 0x30 = d := by
  decide

/-- The digits of a number are decimal digits. -/
theorem isDigit_of_mem_decimal (n : Nat) : ∀ c ∈ decimal n, c.isDigit = true := by
  intro c hc
  obtain ⟨d, hd, rfl⟩ := (spelled_decimal n).digits c hc
  exact (hexDigit_below_ten d hd).1

/-- No other character is among them. -/
theorem not_mem_decimal {mark : Char} (hmark : mark.isDigit = false) (n : Nat) : mark ∉ decimal n :=
  fun hmem => Bool.false_ne_true (hmark.symm.trans (isDigit_of_mem_decimal n mark hmem))

/-- A number has a first digit, and only zero begins with the digit zero. -/
theorem exists_decimal_eq_cons (n : Nat) : ∃ c rest, decimal n = c :: rest ∧ (c = '0' → n = 0) := by
  have hspelled := spelled_decimal n
  obtain ⟨c, rest, hdecimal⟩ := List.exists_cons_of_ne_nil hspelled.ne_nil
  refine ⟨c, rest, hdecimal, ?_⟩
  rintro rfl
  exact (hspelled.head_zero (by decide) (by rw [hdecimal]; rfl)).1

end Text

namespace Number

open Text

variable {base : Nat} {value? : Char → Option Nat}

/-- Digits are read after those in front of them. -/
theorem readDigits_append (sofar : Nat) (front back : List Char) :
    readDigits base value? sofar (front ++ back)
      = (readDigits base value? sofar front).bind fun n => readDigits base value? n back := by
  induction front generalizing sofar with
  | nil => rfl
  | cons c front ih =>
    rw [List.cons_append, readDigits, readDigits]
    cases value? c with
    | none => rfl
    | some d => exact ih _

/-- A spelling is read back as the number that it spells. -/
theorem readDigits_spelled (hvalue : ∀ d < base, value? (hexDigit d) = some d) {n : Nat} {cs : List Char}
    (h : Spelled base n cs) : readDigits base value? 0 cs = some n := by
  induction h with
  | digit hd => simp [readDigits, hvalue _ hd]
  | more _ _ hd ih => simp [readDigits_append, ih, readDigits, hvalue _ hd]

/-- A number is read back from its decimal digits. -/
theorem readDecimal?_decimal (n : Nat) : readDecimal? (decimal n) = some n := by
  have hvalue : ∀ d < 10, digit? (hexDigit d) = some d := by decide
  have hread := readDigits_spelled hvalue (spelled_decimal n)
  have hsome := (spelled_decimal n).ne_nil
  cases hdecimal : decimal n with
  | nil => exact absurd hdecimal hsome
  | cons c rest =>
    rw [hdecimal] at hread
    exact hread

/-- A number below a limit is read back where that limit is set. -/
theorem readBelow?_decimal {n limit : Nat} (hbound : n < limit) : readBelow? limit (decimal n) = some n := by
  simp [readBelow?, readDecimal?_decimal, hbound]

/-- A number is read back from its hexadecimal digits. -/
theorem readHex?_hex (n : Nat) : readHex? (hex n) = some n := by
  have hvalue : ∀ d < 16, hexDigit? (hexDigit d) = some d := by decide
  have hread := readDigits_spelled hvalue (spelled_hex n)
  have hsome := (spelled_hex n).ne_nil
  cases hhex : hex n with
  | nil => exact absurd hhex hsome
  | cons c rest =>
    rw [hhex] at hread
    exact hread

/-- What is read below a limit lies below it. -/
theorem lt_of_readBelow? {n limit : Nat} {cs : List Char} (h : readBelow? limit cs = some n) : n < limit := by
  unfold readBelow? at h
  split at h
  · split at h
    · cases h
      assumption
    · cases h
  · cases h

/-- What some digits are read as has no more places than they have. -/
theorem readDigits_lt (hvalue : ∀ c d, value? c = some d → d < base) {sofar n : Nat} {cs : List Char}
    (h : readDigits base value? sofar cs = some n) : n < (sofar + 1) * base ^ cs.length := by
  induction cs generalizing sofar with
  | nil =>
    cases h
    simp
  | cons c cs ih =>
    rw [readDigits] at h
    split at h
    next d hd =>
      have hplaces : (sofar * base + d + 1) * base ^ cs.length ≤ (sofar + 1) * base * base ^ cs.length :=
        Nat.mul_le_mul_right _ (by have := hvalue c d hd; rw [Nat.succ_mul]; omega)
      calc n < (sofar * base + d + 1) * base ^ cs.length := ih h
        _ ≤ (sofar + 1) * base * base ^ cs.length := hplaces
        _ = (sofar + 1) * base ^ (c :: cs).length := by rw [List.length_cons, pow_succ]; ring
    next => cases h

/-- A hexadecimal digit stands for less than sixteen. -/
theorem hexDigit?_lt {c : Char} {d : Nat} (h : hexDigit? c = some d) : d < 16 := by
  have hle (a : Char) : (c ≤ a ↔ c.toNat ≤ a.toNat) ∧ (a ≤ c ↔ a.toNat ≤ c.toNat) := ⟨Iff.rfl, Iff.rfl⟩
  simp only [hexDigit?, Char.isDigit_iff_toNat, hle, Char.reduceToNat] at h
  split_ifs at h <;> cases h <;> omega

/-- The number that decimal digits denote, each by the place at which it stands. -/
def denoted (digits : List Char) : Nat :=
  Nat.ofDigits 10 (digits.reverse.map fun c => c.toNat - '0'.toNat)

/-- The first digit counts as often as its place says. -/
theorem denoted_cons (c : Char) (digits : List Char) :
    denoted (c :: digits) = (c.toNat - '0'.toNat) * 10 ^ digits.length + denoted digits := by
  simp [denoted, Nat.ofDigits_append]
  ring

/-- Digits read after a number are put at the places behind it. -/
theorem readDigits_eq_some_iff {sofar n : Nat} {cs : List Char} :
    readDigits 10 digit? sofar cs = some n
      ↔ (∀ c ∈ cs, c.isDigit = true) ∧ sofar * 10 ^ cs.length + denoted cs = n := by
  induction cs generalizing sofar with
  | nil => simp [readDigits, denoted]
  | cons c cs ih =>
    rw [readDigits]
    cases hdigit : c.isDigit with
    | false => simp [digit?, hdigit]
    | true =>
      have hplaces : (sofar * 10 + (c.toNat - '0'.toNat)) * 10 ^ cs.length + denoted cs
          = sofar * 10 ^ (c :: cs).length + denoted (c :: cs) := by
        rw [denoted_cons, List.length_cons, pow_succ]
        ring
      have hvalue : digit? c = some (c.toNat - '0'.toNat) := by simp [digit?, hdigit]
      simp only [hvalue, ih, hplaces, List.forall_mem_cons, hdigit, true_and]

/-- What is read as a decimal number is one digit or more, and the number that they denote. -/
theorem readDecimal?_eq_some_iff {n : Nat} {cs : List Char} :
    readDecimal? cs = some n ↔ cs ≠ [] ∧ (∀ c ∈ cs, c.isDigit = true) ∧ denoted cs = n := by
  cases cs with
  | nil => simp [readDecimal?]
  | cons c cs => simp [readDecimal?, readDigits_eq_some_iff]

end Number

end GracefulService
