import GracefulService.Number.Binary
import Mathlib.Algebra.Order.Field.Rat
import Mathlib.Algebra.Order.Field.Power
import Mathlib.Order.WithBotTop
import Mathlib.Tactic.Ring

/-!
# The value of a binary number

A binary number that is a number at all has a value: a rational number, or one of the two infinities.
The comparison of significands after scaling is the order of these values, so whatever is computed from
comparisons depends on the values alone. The value of what is no number is left out; its comparisons
all fail.
-/

namespace GracefulService.Number

/-- The rational numbers with an infinity at either end. -/
abbrev Magnitude : Type := WithBot (WithTop ℚ)

namespace Binary

/-- The value of a finite number. -/
def rational (negative : Bool) (significand : Nat) (exponent : Int) : ℚ :=
  (if negative then -(significand : ℚ) else significand) * 2 ^ exponent

/-- The value of a binary number; what is no number has none. -/
def value? : Binary → Option Magnitude
  | .nan => none
  | .infinite true => some ⊥
  | .infinite false => some ((⊤ : WithTop ℚ) : Magnitude)
  | .finite negative significand exponent =>
    some ((rational negative significand exponent : WithTop ℚ) : Magnitude)

/-- Only what is no number has no value. -/
theorem exists_value_of_ne_nan {a : Binary} (hnumber : a ≠ .nan) : ∃ x, a.value? = some x := by
  cases a with
  | nan => exact absurd rfl hnumber
  | infinite negative => cases negative <;> exact ⟨_, rfl⟩
  | finite => exact ⟨_, rfl⟩

/-- A scaled significand is the value, in units of the power of two it is scaled to. -/
theorem rational_eq_scaled (negative : Bool) (significand : Nat) {exponent least : Int}
    (hleast : least ≤ exponent) :
    rational negative significand exponent = scaled negative significand exponent least * 2 ^ least := by
  have hpower : (2 : ℚ) ^ exponent = 2 ^ (exponent - least).natAbs * 2 ^ least := by
    have hnatAbs : (((exponent - least).natAbs : Nat) : Int) = exponent - least := by omega
    rw [← zpow_natCast, hnatAbs, ← zpow_add₀ two_ne_zero, sub_add_cancel]
  cases negative <;> simp [rational, scaled, hpower] <;> ring

/-- Scaled to the same power of two, significands are ordered as the values are. -/
theorem scaled_lt_scaled_iff (a b : Bool) (m n : Nat) (x y : Int) :
    scaled a m x (min x y) < scaled b n y (min x y) ↔ rational a m x < rational b n y := by
  rw [rational_eq_scaled a m (min_le_left x y), rational_eq_scaled b n (min_le_right x y),
    mul_lt_mul_iff_left₀ (zpow_pos two_pos _), Int.cast_lt]

/-- Scaled to the same power of two, significands are equal exactly when the values are. -/
theorem scaled_eq_scaled_iff (a b : Bool) (m n : Nat) (x y : Int) :
    scaled a m x (min x y) = scaled b n y (min x y) ↔ rational a m x = rational b n y := by
  rw [rational_eq_scaled a m (min_le_left x y), rational_eq_scaled b n (min_le_right x y),
    mul_left_inj' (zpow_pos two_pos _).ne', Int.cast_inj]

/-- The comparison of two numbers is the order of their values. -/
theorem less_iff {a b : Binary} {x y : Magnitude} (ha : a.value? = some x) (hb : b.value? = some y) :
    a.less b = true ↔ x < y := by
  cases a with
  | nan => cases ha
  | infinite c =>
    cases b with
    | nan => cases hb
    | infinite d => cases c <;> cases d <;> cases ha <;> cases hb <;> simp [less]
    | finite d n y => cases hb; cases c <;> cases ha <;> simp [less]
  | finite c m x =>
    cases ha
    cases b with
    | nan => cases hb
    | infinite d =>
      have hbelow : ((rational c m x : WithTop ℚ) : Magnitude) < ((⊤ : WithTop ℚ) : Magnitude) :=
        WithBot.coe_lt_coe.2 (WithTop.coe_lt_top _)
      cases d <;> cases hb
      · simpa [less] using hbelow
      · simp [less]
    | finite d n y =>
      cases hb
      simp [less, scaled_lt_scaled_iff]

/-- A comparison that succeeds is one of two values. -/
theorem less_eq_true_iff {a b : Binary} :
    a.less b = true ↔ ∃ x y, a.value? = some x ∧ b.value? = some y ∧ x < y := by
  constructor
  · intro hless
    have ha : a ≠ .nan := by
      rintro rfl
      simp [less] at hless
    have hb : b ≠ .nan := by
      rintro rfl
      cases a <;> simp [less] at hless
    obtain ⟨x, hx⟩ := exists_value_of_ne_nan ha
    obtain ⟨y, hy⟩ := exists_value_of_ne_nan hb
    exact ⟨x, y, hx, hy, (less_iff hx hy).1 hless⟩
  · rintro ⟨x, y, hx, hy, hlt⟩
    exact (less_iff hx hy).2 hlt

/-- Two numbers are the same exactly when their values are. -/
theorem same_iff {a b : Binary} {x y : Magnitude} (ha : a.value? = some x) (hb : b.value? = some y) :
    a.same b = true ↔ x = y := by
  cases a with
  | nan => cases ha
  | infinite c =>
    cases b with
    | nan => cases hb
    | infinite d => cases c <;> cases d <;> cases ha <;> cases hb <;> simp [same]
    | finite d n y => cases hb; cases c <;> cases ha <;> simp [same]
  | finite c m x =>
    cases ha
    cases b with
    | nan => cases hb
    | infinite d => cases d <;> cases hb <;> simp [same]
    | finite d n y =>
      cases hb
      simp [same, scaled_eq_scaled_iff]

/-- At most, read off the values. -/
theorem atMost_iff {a b : Binary} {x y : Magnitude} (ha : a.value? = some x) (hb : b.value? = some y) :
    a.atMost b = true ↔ x ≤ y := by
  rw [atMost, Bool.or_eq_true, less_iff ha hb, same_iff ha hb, le_iff_lt_or_eq]

/-- A number is at most itself. -/
theorem atMost_refl {a : Binary} (ha : a ≠ .nan) : a.atMost a = true := by
  obtain ⟨x, hx⟩ := exists_value_of_ne_nan ha
  exact (atMost_iff hx hx).2 le_rfl

/-- Of two numbers, one is at most the other. -/
theorem atMost_of_not_atMost {a b : Binary} (ha : a ≠ .nan) (hb : b ≠ .nan) (hnot : ¬ a.atMost b = true) :
    b.atMost a = true := by
  obtain ⟨x, hx⟩ := exists_value_of_ne_nan ha
  obtain ⟨y, hy⟩ := exists_value_of_ne_nan hb
  rw [atMost_iff hx hy, not_le] at hnot
  exact (atMost_iff hy hx).2 hnot.le

/-- At most is transitive. -/
theorem atMost_trans {a b c : Binary} (ha : a ≠ .nan) (hb : b ≠ .nan) (hc : c ≠ .nan)
    (hab : a.atMost b = true) (hbc : b.atMost c = true) : a.atMost c = true := by
  obtain ⟨x, hx⟩ := exists_value_of_ne_nan ha
  obtain ⟨y, hy⟩ := exists_value_of_ne_nan hb
  obtain ⟨z, hz⟩ := exists_value_of_ne_nan hc
  rw [atMost_iff hx hy] at hab
  rw [atMost_iff hy hz] at hbc
  exact (atMost_iff hx hz).2 (hab.trans hbc)

end Binary

end GracefulService.Number
