import GracefulService.Number.Scientific
import GracefulService.Text.Blank
import Mathlib.Data.List.TakeDrop

/-!
# Letters of either case

Only the 26 capital letters change when letters are made small, so what does not tell each of them from
its small letter does not tell any text from the same text in small letters. Neither blanks nor digits,
signs, points and exponent marks do, and so a number is read alike in letters of either case.
-/

namespace GracefulService

namespace Text

/-- What does not tell a capital letter from its small one does not tell the small letter of any character
from that character. -/
theorem apply_toLower {α : Type} {f : Char → α}
    (hcapitals : ∀ n < 26, f (Char.ofNat (97 + n)) = f (Char.ofNat (65 + n))) (c : Char) : f c.toLower = f c := by
  by_cases hcapital : c.val ≥ 'A'.val ∧ c.val ≤ 'Z'.val
  · obtain ⟨n, hn, rfl⟩ : ∃ n < 26, c = Char.ofNat (65 + n) := by
      have hleast : 65 ≤ c.toNat := hcapital.1
      have hgreatest : c.toNat ≤ 90 := hcapital.2
      refine ⟨c.toNat - 65, by omega, ?_⟩
      rw [Nat.add_sub_cancel' hleast, Char.ofNat_toNat]
    have hsmall : ∀ n < 26, (Char.ofNat (65 + n)).toLower = Char.ofNat (97 + n) := by decide
    rw [hsmall n hn]
    exact hcapitals n hn
  · have hkept : c.toLower = c := dif_neg hcapital
    rw [hkept]

/-- A character that is no letter is the small letter of itself only. -/
theorem toLower_eq_iff {mark : Char}
    (hmark : ∀ n < 26, Char.ofNat (97 + n) ≠ mark ∧ Char.ofNat (65 + n) ≠ mark) {c : Char} :
    c.toLower = mark ↔ c = mark := by
  have hsame := apply_toLower (f := fun c => decide (c = mark)) (fun n hn => by simp [hmark n hn]) c
  simpa using hsame

/-- It makes no difference whether letters are lowered before blanks are taken off the front. -/
theorem trimStart_lowerAscii (cs : List Char) : trimStart (lowerAscii cs) = lowerAscii (trimStart cs) := by
  have hblank : isBlank ∘ Char.toLower = isBlank := funext fun c => apply_toLower (by decide) c
  rw [trimStart, lowerAscii, List.dropWhile_map, hblank]
  rfl

/-- It makes no difference whether letters are lowered before blanks are taken off the end. -/
theorem trimEnd_lowerAscii (cs : List Char) : trimEnd (lowerAscii cs) = lowerAscii (trimEnd cs) := by
  have hreverse : (lowerAscii cs).reverse = lowerAscii cs.reverse := List.map_reverse.symm
  have hdrop := trimStart_lowerAscii cs.reverse
  rw [trimStart, trimStart] at hdrop
  rw [trimEnd, hreverse, hdrop, trimEnd]
  exact List.map_reverse.symm

/-- Blanks are trimmed alike in letters of either case. -/
theorem trim_lowerAscii (cs : List Char) : trim (lowerAscii cs) = lowerAscii (trim cs) := by
  rw [trim, trimStart_lowerAscii, trimEnd_lowerAscii]
  rfl

/-- A separator that is no letter stands in the same places. -/
theorem splitAt_lowerAscii {separator : Char}
    (hmark : ∀ n < 26, Char.ofNat (97 + n) ≠ separator ∧ Char.ofNat (65 + n) ≠ separator) (cs : List Char) :
    splitAt separator (lowerAscii cs) = (splitAt separator cs).map lowerAscii := by
  induction cs with
  | nil => rfl
  | cons c rest ih =>
    have hcons : lowerAscii (c :: rest) = c.toLower :: lowerAscii rest := rfl
    rw [hcons, splitAt, splitAt, ih]
    by_cases hseparator : c = separator
    · rw [if_pos ((toLower_eq_iff hmark).2 hseparator), if_pos hseparator]
      rfl
    · rw [if_neg fun heq => hseparator ((toLower_eq_iff hmark).1 heq), if_neg hseparator]
      cases splitAt separator rest <;> rfl

/-- What does not tell capital letters from small ones ends a span in the same place. -/
theorem span_lowerAscii {p : Char → Bool}
    (hcapitals : ∀ n < 26, p (Char.ofNat (97 + n)) = p (Char.ofNat (65 + n))) (cs : List Char) :
    (lowerAscii cs).span p = (lowerAscii (cs.span p).1, lowerAscii (cs.span p).2) := by
  have hp : p ∘ Char.toLower = p := funext fun c => apply_toLower hcapitals c
  rw [List.span_eq_takeWhile_dropWhile, List.span_eq_takeWhile_dropWhile, lowerAscii, List.takeWhile_map,
    List.dropWhile_map, hp]
  rfl

end Text

namespace Number

open Text

variable (cs : List Char)

/-- Digits are digits in letters of either case. -/
theorem readDigits_lowerAscii (sofar : Nat) :
    readDigits 10 digit? sofar (lowerAscii cs) = readDigits 10 digit? sofar cs := by
  induction cs generalizing sofar with
  | nil => rfl
  | cons c rest ih =>
    have hcons : lowerAscii (c :: rest) = c.toLower :: lowerAscii rest := rfl
    have hdigit : digit? c.toLower = digit? c := apply_toLower (by decide) c
    rw [hcons, readDigits, readDigits, hdigit]
    cases digit? c with
    | none => rfl
    | some d => exact ih _

/-- A number reads the same when letters are lowered. -/
theorem readDecimal?_lowerAscii : readDecimal? (lowerAscii cs) = readDecimal? cs := by
  cases cs with
  | nil => rfl
  | cons c rest => exact readDigits_lowerAscii (c :: rest) 0

/-- A sign is read alike, and what follows it stays in small letters. -/
theorem readSign_lowerAscii : readSign (lowerAscii cs) = ((readSign cs).1, lowerAscii (readSign cs).2) := by
  cases cs with
  | nil => rfl
  | cons c rest =>
    have hcons : lowerAscii (c :: rest) = c.toLower :: lowerAscii rest := rfl
    have hread (c : Char) (rest : List Char) : readSign (c :: rest) =
        if c = '-' then (true, rest) else if c = '+' then (false, rest) else (false, c :: rest) := by
      unfold readSign
      split <;> simp_all
    have hminus : c.toLower = '-' ↔ c = '-' := toLower_eq_iff (by decide)
    have hplus : c.toLower = '+' ↔ c = '+' := toLower_eq_iff (by decide)
    rw [hcons, hread, hread]
    simp only [hminus, hplus]
    split
    · rfl
    split <;> rfl

/-- A number with a sign reads the same when letters are lowered. -/
theorem readSigned?_lowerAscii : readSigned? (lowerAscii cs) = readSigned? cs := by
  simp only [readSigned?, readSign_lowerAscii, readDecimal?_lowerAscii]

/-- Digits, point and exponent are read alike in letters of either case. -/
theorem readUnsigned?_lowerAscii (negative : Bool) :
    readUnsigned? negative (lowerAscii cs) = readUnsigned? negative cs := by
  have hmark := span_lowerAscii (p := fun c => !isExponentMark c) (by decide)
  have hpoint := span_lowerAscii (p := fun c => decide (c ≠ '.')) (by decide)
  have happend (xs ys : List Char) : lowerAscii xs ++ lowerAscii ys = lowerAscii (xs ++ ys) := List.map_append.symm
  have hdrop (xs : List Char) : (lowerAscii xs).drop 1 = lowerAscii (xs.drop 1) := List.map_drop.symm
  have hlength (xs : List Char) : (lowerAscii xs).length = xs.length := List.length_map _
  simp only [readUnsigned?, hmark, hpoint, hdrop, happend, hlength, readDecimal?_lowerAscii]
  cases (cs.span fun c => !isExponentMark c).2 with
  | nil => rfl
  | cons mark digits =>
    have hcons : lowerAscii (mark :: digits) = mark.toLower :: lowerAscii digits := rfl
    simp only [hcons, readSigned?_lowerAscii]

/-- The names of what is not finite are read alike in letters of either case. -/
theorem readSpecial?_lowerAscii (negative : Bool) :
    readSpecial? negative (lowerAscii cs) = readSpecial? negative cs := by
  have hname : (lowerAscii cs).map Char.toLower = cs.map Char.toLower := by
    rw [lowerAscii, List.map_map]
    exact List.map_congr_left fun c _ => apply_toLower (by decide) c
  simp only [readSpecial?, hname]

/-- A number is read alike in letters of either case. -/
theorem readBinary?_lowerAscii (format : Format) : readBinary? format (lowerAscii cs) = readBinary? format cs := by
  simp only [readBinary?, readSign_lowerAscii, readUnsigned?_lowerAscii, readSpecial?_lowerAscii]

end Number

end GracefulService
