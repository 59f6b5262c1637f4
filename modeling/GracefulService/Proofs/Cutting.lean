import GracefulService.Text.Blank
import Mathlib.Data.List.TakeDrop
import Mathlib.Data.List.TakeWhile

/-!
# Cutting texts

Texts are cut at separators, at what they start with, and at the blank characters around them. What the cuts
leave is said here without the functions that make them. A text can also be cut at a place that is counted in
octets; places at which characters begin can always be cut at.
-/

namespace GracefulService.Text

/-! ## Separators -/

/-- The pieces of a text are those between its separators. -/
theorem splitAt_eq_splitOn (separator : Char) (cs : List Char) :
    splitAt separator cs = cs.splitOn separator := by
  induction cs with
  | nil => rfl
  | cons c rest ih =>
    rw [splitAt, List.splitOn_cons_eq_if_modifyHead, ih]
    by_cases hseparator : c = separator
    · simp [hseparator]
    · cases hpieces : rest.splitOn separator with
      | nil => exact absurd hpieces (List.splitOn_ne_nil _ _)
      | cons piece pieces => simp [hseparator]

/-- A piece holds characters of the text, and never the separator. -/
theorem of_mem_splitAt {separator : Char} {cs piece : List Char} (hpiece : piece ∈ splitAt separator cs) :
    ∀ c ∈ piece, c ∈ cs ∧ c ≠ separator := by
  induction cs generalizing piece with
  | nil => simp_all [splitAt]
  | cons first rest ih =>
    have hfurther : ∀ piece ∈ splitAt separator rest, ∀ c ∈ piece, c ∈ first :: rest ∧ c ≠ separator :=
      fun piece hpiece c hc => ⟨List.mem_cons_of_mem _ (ih hpiece c hc).1, (ih hpiece c hc).2⟩
    rw [splitAt] at hpiece
    by_cases hseparator : first = separator
    · rw [if_pos hseparator] at hpiece
      rcases List.mem_cons.1 hpiece with rfl | hpiece
      · simp
      · exact hfurther piece hpiece
    · rw [if_neg hseparator] at hpiece
      cases hpieces : splitAt separator rest with
      | nil =>
        rw [hpieces, List.mem_singleton] at hpiece
        simp [hpiece, hseparator]
      | cons next others =>
        rw [hpieces] at hpiece
        rcases List.mem_cons.1 hpiece with rfl | hpiece
        · have hnext := hfurther next (by rw [hpieces]; exact List.mem_cons_self ..)
          simpa [hseparator] using hnext
        · exact hfurther piece (by rw [hpieces]; exact List.mem_cons_of_mem _ hpiece)

/-- What follows a start is what a text that begins with it goes on with. -/
theorem afterStart_eq_some_iff {start cs rest : List Char} :
    afterStart start cs = some rest ↔ cs = start ++ rest := by
  induction start generalizing cs with
  | nil => simp [afterStart, eq_comm]
  | cons s start ih =>
    cases cs with
    | nil => simp [afterStart]
    | cons c cs =>
      by_cases hfirst : s = c
      · simp [afterStart, hfirst, ih]
      · simp [afterStart, hfirst, Ne.symm hfirst]

/-- What was joined is split again. -/
theorem splitAt_intercalate {separator : Char} {pieces : List (List Char)}
    (hapart : ∀ piece ∈ pieces, separator ∉ piece) (hsome : pieces ≠ []) :
    splitAt separator ([separator].intercalate pieces) = pieces := by
  rw [splitAt_eq_splitOn]
  exact List.splitOn_intercalate separator hapart hsome

/-- A text without separators is one piece. -/
theorem splitAt_of_not_mem {separator : Char} {cs : List Char} (h : separator ∉ cs) : splitAt separator cs = [cs] := by
  have hjoined : [separator].intercalate [cs] = cs := by simp [List.intercalate]
  rw [← hjoined, splitAt_intercalate (by simpa using h) (List.cons_ne_nil _ _), hjoined]

/-- A text is split at the first separator. -/
theorem splitFirst_append {separator : Char} {front : List Char} (hfront : separator ∉ front) (back : List Char) :
    splitFirst separator (front ++ separator :: back) = some (front, back) := by
  induction front with
  | nil => simp [splitFirst]
  | cons c front ih =>
    rw [List.mem_cons, not_or] at hfront
    simp [splitFirst, Ne.symm hfront.1, ih hfront.2]

/-- A text without separators is not split. -/
theorem splitFirst_of_not_mem {separator : Char} {cs : List Char} (h : separator ∉ cs) :
    splitFirst separator cs = none := by
  induction cs with
  | nil => rfl
  | cons c cs ih =>
    rw [List.mem_cons, not_or] at h
    simp [splitFirst, Ne.symm h.1, ih h.2]

/-! ## Blank characters -/

/-- A character stays at the front of a trimmed end, unless it is a blank and nothing follows. -/
theorem trimEnd_cons (c : Char) (cs : List Char) :
    trimEnd (c :: cs) = if trimEnd cs = [] ∧ isBlank c = true then [] else c :: trimEnd cs := by
  simp only [trimEnd, List.reverse_cons, List.dropWhile_append, List.reverse_eq_nil_iff]
  cases hrest : cs.reverse.dropWhile isBlank with
  | nil => cases hblank : isBlank c <;> simp [hblank]
  | cons d ds => simp

/-- It does not matter which end is trimmed first. -/
theorem trim_eq_trimStart_trimEnd (cs : List Char) : trim cs = trimStart (trimEnd cs) := by
  induction cs with
  | nil => rfl
  | cons c cs ih =>
    rw [trimEnd_cons]
    cases hblank : isBlank c with
    | false =>
      have hkept : trimStart (c :: cs) = c :: cs := by simp [trimStart, hblank]
      rw [trim, hkept, trimEnd_cons]
      simp [trimStart, hblank]
    | true =>
      have hdropped : trimStart (c :: cs) = trimStart cs := by simp [trimStart, hblank]
      rw [trim, hdropped]
      rw [trim] at ih
      rw [ih]
      by_cases hnil : trimEnd cs = []
      · simp [hnil, trimStart]
      · simp [hnil, trimStart, hblank]

/-- A blank in front is trimmed. -/
theorem trim_blank_cons {blank : Char} (hblank : isBlank blank = true) (cs : List Char) :
    trim (blank :: cs) = trim cs := by
  simp [trim, trimStart, hblank]

/-- What is trimmed depends on what is left when the end is. -/
theorem trim_congr {cs ds : List Char} (hend : trimEnd cs = trimEnd ds) : trim cs = trim ds := by
  rw [trim_eq_trimStart_trimEnd, trim_eq_trimStart_trimEnd, hend]

/-- Blanks in front are trimmed. -/
theorem trimStart_append {before : List Char} (hblank : ∀ c ∈ before, isBlank c = true) (cs : List Char) :
    trimStart (before ++ cs) = trimStart cs :=
  List.dropWhile_append_of_pos hblank

/-- Blanks at the end are trimmed. -/
theorem trimEnd_append {after : List Char} (hblank : ∀ c ∈ after, isBlank c = true) (cs : List Char) :
    trimEnd (cs ++ after) = trimEnd cs := by
  have hreversed : ∀ c ∈ after.reverse, isBlank c = true := by simpa using hblank
  rw [trimEnd, List.reverse_append, List.dropWhile_append_of_pos hreversed, trimEnd]

/-- Trimming takes nothing but blanks away, at the two ends. -/
theorem exists_trim (cs : List Char) : ∃ before after, cs = before ++ (trim cs ++ after)
    ∧ (∀ c ∈ before, isBlank c = true) ∧ ∀ c ∈ after, isBlank c = true := by
  refine ⟨cs.takeWhile isBlank, ((trimStart cs).reverse.takeWhile isBlank).reverse, ?_, ?_, ?_⟩
  · have hend : trim cs ++ ((trimStart cs).reverse.takeWhile isBlank).reverse = trimStart cs := by
      rw [trim, trimEnd, ← List.reverse_append, List.takeWhile_append_dropWhile, List.reverse_reverse]
    rw [hend]
    exact List.takeWhile_append_dropWhile.symm
  · exact fun c hc => List.mem_takeWhile_imp hc
  · exact fun c hc => List.mem_takeWhile_imp (List.mem_reverse.1 hc)

/-- What begins and ends with no blank is what is left of a text exactly when nothing but blanks stand around
it. -/
theorem trim_eq_iff {cs core : List Char} (hfirst : ∀ c ∈ core.head?, isBlank c = false)
    (hlast : ∀ c ∈ core.getLast?, isBlank c = false) :
    trim cs = core ↔ ∃ before after, cs = before ++ (core ++ after)
      ∧ (∀ c ∈ before, isBlank c = true) ∧ ∀ c ∈ after, isBlank c = true := by
  constructor
  · rintro rfl
    exact exists_trim cs
  · rintro ⟨before, after, rfl, hbefore, hafter⟩
    have hstart : trimStart core = core := by
      cases core with
      | nil => rfl
      | cons c core => simp [trimStart, hfirst c rfl]
    have hend : trimEnd core = core := by
      rw [← List.head?_reverse] at hlast
      rw [trimEnd, List.reverse_eq_iff]
      cases hreversed : core.reverse with
      | nil => rfl
      | cons c rest => simp [hlast c (by rw [hreversed]; rfl)]
    rw [trim_eq_trimStart_trimEnd, ← List.append_assoc, trimEnd_append hafter, ← trim_eq_trimStart_trimEnd,
      trim, trimStart_append hbefore, hstart, hend]

/-! ## Octets -/

/-- The place, counted in octets, at which the first character of some kind begins. -/
def findOctet? (kind : Char → Bool) : List Char → Option Nat
  | [] => none
  | c :: cs => if kind c then some 0 else (findOctet? kind cs).map (c.utf8Size + ·)

/-- What stands before a place that is counted in octets, and what stands behind it. There is no cut inside a
character, and none behind the end. -/
def cutAt? : Nat → List Char → Option (List Char × List Char)
  | 0, cs => some ([], cs)
  | _ + 1, [] => none
  | place + 1, c :: cs =>
    if place + 1 < c.utf8Size then none
    else (cutAt? (place + 1 - c.utf8Size) cs).map fun (front, back) => (c :: front, back)

/-- Where a character begins a text can be cut. -/
theorem cutAt?_utf8Size (c : Char) (place : Nat) (cs : List Char) :
    cutAt? (c.utf8Size + place) (c :: cs) = (cutAt? place cs).map fun (front, back) => (c :: front, back) := by
  obtain ⟨before, hbefore⟩ : ∃ before, c.utf8Size + place = before + 1 :=
    ⟨c.utf8Size + place - 1, by have := c.utf8Size_pos; omega⟩
  rw [hbefore, cutAt?, ← hbefore, if_neg (by omega), Nat.add_sub_cancel_left]

/-- Where the first character of some kind begins the text is cut before that character. -/
theorem cutAt?_findOctet? {kind : Char → Bool} {cs : List Char} {place : Nat}
    (h : findOctet? kind cs = some place) :
    cutAt? place cs = some (cs.span fun c => !kind c) ∧ (cs.span fun c => !kind c).2 ≠ [] := by
  rw [List.span_eq_takeWhile_dropWhile]
  induction cs generalizing place with
  | nil => cases h
  | cons c cs ih =>
    rw [findOctet?] at h
    cases hkind : kind c with
    | true =>
      rw [hkind] at h
      cases h
      simp [cutAt?, hkind]
    | false =>
      rw [hkind] at h
      obtain ⟨later, hlater, rfl⟩ := Option.map_eq_some_iff.1 h
      rw [cutAt?_utf8Size, (ih hlater).1]
      simpa [hkind] using (ih hlater).2

/-- Where no character of some kind is found there is none. -/
theorem span_of_findOctet?_none {kind : Char → Bool} {cs : List Char} (h : findOctet? kind cs = none) :
    (cs.span fun c => !kind c).2 = [] := by
  rw [List.span_eq_takeWhile_dropWhile]
  induction cs with
  | nil => rfl
  | cons c cs ih =>
    rw [findOctet?] at h
    cases hkind : kind c with
    | true =>
      rw [hkind] at h
      cases h
    | false =>
      rw [hkind] at h
      simpa [hkind] using ih (Option.map_eq_none_iff.1 h)

end GracefulService.Text
