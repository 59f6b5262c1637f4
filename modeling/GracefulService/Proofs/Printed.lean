import GracefulService.Json.Printer
import GracefulService.Json.Reader
import GracefulService.Proofs.Numerals
import GracefulService.Proofs.Wire
import Mathlib.Data.List.TakeDrop

/-!
# Printed documents are read back

A document printed on one line is read back as it was, whatever follows it, up to the order of names: the
reader sorts them. This is shown for null, truth values, whole numbers that fit 64 bits without a sign,
and texts, and for the tables of values that are read back themselves; floating point numbers, whose
reading rounds, are left out. The amount of fuel that the reader has is twice the length of its input,
so the statements ask for twice the length of what is printed.
-/

namespace GracefulService

namespace Json

open Number Text

/-- Digits that fit are collected before the digits behind them. -/
theorem collect_append {sofar n : Nat} {front : List Char} (hfront : collect sofar front = (n, 0))
    (behind : List Char) : collect sofar (front ++ behind) = collect n behind := by
  induction front generalizing sofar with
  | nil =>
    cases hfront
    rfl
  | cons c front ih =>
    rw [collect] at hfront
    rw [List.cons_append, collect]
    by_cases hnext : sofar * 10 + (c.toNat - 0x30) < wordLimit
    · rw [if_pos hnext] at hfront ⊢
      exact ih hfront
    · rw [if_neg hnext] at hfront
      cases hfront

/-- The digits of a number that fits 64 bits are collected to the number. -/
theorem collect_decimal (n : Nat) (hfits : n < wordLimit) : collect 0 (decimal n) = (n, 0) := by
  induction n using Nat.strongRecOn with
  | ind n ih =>
    rw [decimal]
    split
    next hsmall =>
      have hspells := (hexDigit_below_ten n hsmall).2
      rw [collect, hspells, Nat.zero_mul, Nat.zero_add, if_pos hfits, collect]
    next hlarge =>
      have hspells := (hexDigit_below_ten (n % 10) (Nat.mod_lt _ (by decide))).2
      have hvalue : n / 10 * 10 + n % 10 = n := by omega
      rw [collect_append (ih (n / 10) (by omega) (by omega)), collect, hspells, hvalue, if_pos hfits, collect]

/-! ## Values one by one -/

/-- What may stand behind a value: nothing, or what separates it from the next or ends the container. -/
def Closes (rest : List Char) : Prop :=
  rest = [] ∨ ∃ c others, rest = c :: others ∧ (c = ',' ∨ c = ']' ∨ c = '\x7d')

/-- A document that is printed is read back as the other one, whatever follows, where `levels` containers
may still be opened. -/
def ReadsBack (levels : Nat) (document result : Document) : Prop :=
  ∀ fuel depth rest, 2 * (compactChars document).length ≤ fuel → levels ≤ depth → Closes rest →
    readValue fuel depth (compactChars document ++ rest) = .ok (result, rest)

/-- Where more containers may be opened, no less is read back. -/
theorem ReadsBack.mono {levels more : Nat} {document result : Document}
    (h : ReadsBack levels document result) (hmore : levels ≤ more) : ReadsBack more document result :=
  fun fuel depth rest hfuel hdepth hrest => h fuel depth rest hfuel (Nat.le_trans hmore hdepth) hrest

/-- A character that is no gap stays at the front. -/
theorem skipGaps_cons {c : Char} (hgap : isGap c = false) (rest : List Char) :
    skipGaps (c :: rest) = c :: rest := by
  rw [skipGaps, List.dropWhile_cons, hgap]
  rfl

/-- Null is read back. -/
theorem readsBack_null : ReadsBack 0 .null .null := by
  intro fuel depth rest hfuel _ _
  have hword : (compactChars .null) = ['n', 'u', 'l', 'l'] := by rw [compactChars]; rfl
  rw [hword] at hfuel ⊢
  obtain ⟨fuel, rfl⟩ : ∃ less, fuel = less + 1 := ⟨fuel - 1, by simp at hfuel; omega⟩
  rw [readValue]
  rfl

/-- Truth values are read back. -/
theorem readsBack_boolean (value : Bool) : ReadsBack 0 (.boolean value) (.boolean value) := by
  intro fuel depth rest hfuel _ _
  cases value with
  | true =>
    have hword : (compactChars (.boolean true)) = ['t', 'r', 'u', 'e'] := by rw [compactChars]; rfl
    rw [hword] at hfuel ⊢
    obtain ⟨fuel, rfl⟩ : ∃ less, fuel = less + 1 := ⟨fuel - 1, by simp at hfuel; omega⟩
    rw [readValue]
    rfl
  | false =>
    have hword : (compactChars (.boolean false)) = ['f', 'a', 'l', 's', 'e'] := by rw [compactChars]; rfl
    rw [hword] at hfuel ⊢
    obtain ⟨fuel, rfl⟩ : ∃ less, fuel = less + 1 := ⟨fuel - 1, by simp at hfuel; omega⟩
    rw [readValue]
    rfl

/-- Texts are read back. -/
theorem readsBack_text (value : String) : ReadsBack 0 (.text value) (.text value) := by
  intro fuel depth rest hfuel _ _
  have hword : (compactChars (.text value)) = textChars value := by rw [compactChars]
  rw [hword] at hfuel ⊢
  obtain ⟨fuel, rfl⟩ : ∃ less, fuel = less + 1 := ⟨fuel - 1, by simp [textChars] at hfuel; omega⟩
  rw [textChars_append, readValue, skipGaps_cons (by decide)]
  simp only [↓reduceIte, scanText_escaped]
  show Except.ok (Document.text (String.ofList value.toList), rest) = _
  rw [String.ofList_toList]

/-- Behind digits that a value ends with, the scanner goes on where the value ends. -/
theorem scanDigits_append {digits rest : List Char} (hdigits : ∀ c ∈ digits, c.isDigit = true)
    (hrest : Closes rest) : scanDigits (digits ++ rest) = (digits, rest) := by
  have hstop : rest.takeWhile Char.isDigit = [] ∧ rest.dropWhile Char.isDigit = rest := by
    rcases hrest with rfl | ⟨c, others, rfl, rfl | rfl | rfl⟩
    · exact ⟨rfl, rfl⟩
    all_goals exact ⟨rfl, rfl⟩
  rw [scanDigits, List.span_eq_takeWhile_dropWhile, List.takeWhile_append_of_pos hdigits,
    List.dropWhile_append_of_pos hdigits, hstop.1, hstop.2, List.append_nil]

/-- The digits of a number are scanned as a numeral that has nothing but them. -/
theorem scanNumeral_decimal (n : Nat) {rest : List Char} (hrest : Closes rest) :
    scanNumeral (decimal n ++ rest) = .ok (⟨false, decimal n, none, none⟩, rest) := by
  obtain ⟨c, others, hdecimal, hzero⟩ := exists_decimal_eq_cons n
  have hdigit : c.isDigit = true := isDigit_of_mem_decimal n c (by simp [hdecimal])
  have hminus : c ≠ '-' := by
    rintro rfl
    exact absurd hdigit (by decide)
  have hwhole : scanWhole (decimal n ++ rest) = .ok (decimal n, rest) := by
    rw [scanWhole, scanDigits_append (isDigit_of_mem_decimal n) hrest]
    split
    next heq => simp_all
    next next more _ heq =>
      -- a number that begins with zero is zero, and that is one digit
      have hfront : decimal n = '0' :: next :: more := (Prod.mk.inj heq).1
      have hn : n = 0 := hzero (List.cons.inj (hdecimal.symm.trans hfront)).1
      have hone : decimal 0 = ['0'] := by
        rw [decimal]
        rfl
      rw [hn, hone] at hfront
      cases hfront
    next heq => simp_all
  have hfraction : scanFraction rest = .ok (none, rest) := by
    rcases hrest with rfl | ⟨c, others, rfl, rfl | rfl | rfl⟩ <;> rfl
  have hpower : scanPower rest = .ok (none, rest) := by
    rcases hrest with rfl | ⟨c, others, rfl, rfl | rfl | rfl⟩ <;> rfl
  rw [hdecimal, List.cons_append] at hwhole ⊢
  simp only [scanNumeral]
  split
  next heq => exact absurd (List.cons.inj heq).1 hminus
  next => simp only [bind, Except.bind, hwhole, hfraction, hpower]; rfl

/-- Whole numbers that fit 64 bits are read back. -/
theorem readsBack_integer {n : Nat} (hfits : n < wordLimit) :
    ReadsBack 0 (.integer n) (.integer n) := by
  intro fuel depth rest hfuel _ hrest
  have hword : compactChars (.integer n) = decimal n := by rw [compactChars]; rfl
  rw [hword] at hfuel ⊢
  obtain ⟨c, others, hdecimal, -⟩ := exists_decimal_eq_cons n
  have hdigit : c.isDigit = true := isDigit_of_mem_decimal n c (by simp [hdecimal])
  have hne : ∀ other, other.isDigit = false → c ≠ other := by
    rintro other hother rfl
    rw [hother] at hdigit
    cases hdigit
  have hgap : isGap c = false := by
    simp [isGap, hne ' ' (by decide), hne '\t' (by decide), hne '\n' (by decide), hne '\r' (by decide)]
  have hvalue : (Numeral.mk false (decimal n) none none).value = some (.integer n) := by
    simp [Numeral.value, collect_decimal n hfits]
  have hnumeral := scanNumeral_decimal n hrest
  rw [hdecimal] at hvalue
  rw [hdecimal, List.cons_append] at hnumeral ⊢
  obtain ⟨fuel, rfl⟩ : ∃ less, fuel = less + 1 := ⟨fuel - 1, by simp [hdecimal] at hfuel; omega⟩
  rw [readValue, skipGaps_cons hgap]
  simp only [hne '"' (by decide), hne '[' (by decide), hne '\x7b' (by decide), hne 'n' (by decide),
    hne 't' (by decide), hne 'f' (by decide), hdigit, or_true, ↓reduceIte, hnumeral]
  simp only [bind, Except.bind, hvalue]
  rfl

/-! ## Tables -/

/-- Fields put to those that are there, one after the other. -/
def inserted (sofar fields : List (String × Document)) : List (String × Document) :=
  fields.foldl (fun sofar field => insertField field.1 field.2 sofar) sofar

/-- A new name is put somewhere among the others. -/
theorem insertField_perm {name : String} (value : Document) {fields : List (String × Document)}
    (hnew : name ∉ fields.map Prod.fst) : (insertField name value fields).Perm ((name, value) :: fields) := by
  induction fields with
  | nil => exact .refl _
  | cons field fields ih =>
    obtain ⟨other, old⟩ := field
    rw [List.map_cons, List.mem_cons, not_or] at hnew
    rw [insertField]
    split
    next => exact .refl _
    next =>
      rw [if_neg (Ne.symm hnew.1)]
      exact ((ih hnew.2).cons _).trans (.swap _ _ _)

/-- Where each name stands once, putting the fields together changes nothing but their order. -/
theorem inserted_perm {fields sofar : List (String × Document)}
    (hnodup : ((sofar ++ fields).map Prod.fst).Nodup) : (sofar ++ fields).Perm (inserted sofar fields) := by
  induction fields generalizing sofar with
  | nil =>
    rw [List.append_nil]
    exact .refl _
  | cons field fields ih =>
    have hmiddle : (sofar ++ field :: fields).Perm ((field :: sofar) ++ fields) := List.perm_middle
    have hnodup' : (((field :: sofar) ++ fields).map Prod.fst).Nodup := (hmiddle.map _).nodup_iff.1 hnodup
    have hnew : field.1 ∉ sofar.map Prod.fst := by
      rw [List.cons_append, List.map_cons, List.nodup_cons, List.map_append, List.mem_append] at hnodup'
      exact fun hmem => hnodup'.1 (.inl hmem)
    have hfront := insertField_perm field.2 hnew
    have hnext : (((insertField field.1 field.2 sofar) ++ fields).map Prod.fst).Nodup :=
      ((hfront.append_right fields).map _).nodup_iff.2 hnodup'
    exact (hmiddle.trans (hfront.symm.append_right fields)).trans (ih hnext)

/-- The name of a field is read up to the value. -/
theorem readName_textChars (name : String) (rest : List Char) :
    readName (textChars name ++ ':' :: rest) = .ok (name, rest) := by
  rw [textChars_append, readName, skipGaps_cons (by decide)]
  simp only [bind, Except.bind, scanText_escaped, skipGaps_cons (show isGap ':' = false by decide)]
  show Except.ok (String.ofList name.toList, rest) = _
  rw [String.ofList_toList]

/-- Fields are read back as those that belong to them. -/
def FieldsReadBack (levels : Nat) : List (String × Document) → List (String × Document) → Prop :=
  List.Forall₂ fun field result => result.1 = field.1 ∧ ReadsBack levels field.2 result.2

/-- One field is read up to what stands behind its value. -/
theorem readFields_field {levels fuel depth : Nat} {value result : Document} (name : String)
    (hvalue : ReadsBack levels value result) (sofar : List (String × Document)) {behind : List Char}
    (hfuel : 2 * (compactChars value).length ≤ fuel) (hdepth : levels ≤ depth) (hbehind : Closes behind) :
    readFields (fuel + 1) depth sofar (textChars name ++ ':' :: (compactChars value ++ behind)) =
      match skipGaps behind with
      | ',' :: rest => readFields fuel depth (insertField name result sofar) rest
      | '\x7d' :: rest => .ok (insertField name result sofar, rest)
      | rest => .error (unexpected rest) := by
  rw [readFields]
  simp only [readName_textChars, bind, Except.bind, hvalue fuel depth behind hfuel hdepth hbehind]
  rfl

/-- Parts that are joined stand with the separator behind the first of them. -/
theorem joinWith_cons_cons (separator part next : List Char) (parts : List (List Char)) :
    joinWith separator (part :: next :: parts) = part ++ separator ++ joinWith separator (next :: parts) := by
  rw [joinWith]
  simp

/-- Fields that are read back one by one are read back together. -/
theorem readFields_compactFields {levels : Nat} {fields results : List (String × Document)}
    (hfields : FieldsReadBack levels fields results) (hsome : fields ≠ []) :
    ∀ fuel depth sofar rest, 2 * (joinWith [','] (compactFields fields)).length ≤ fuel → levels ≤ depth →
      readFields fuel depth sofar (joinWith [','] (compactFields fields) ++ '\x7d' :: rest) =
        .ok (inserted sofar results, rest) := by
  induction hfields with
  | nil => exact absurd rfl hsome
  | @cons field result fields results hfield hfields ih =>
    intro fuel depth sofar rest hfuel hdepth
    obtain ⟨hname, hvalue⟩ := hfield
    obtain ⟨name, value⟩ := field
    obtain ⟨name', value'⟩ := result
    cases hname
    replace hvalue : ReadsBack levels value value' := hvalue
    cases hfields with
    | nil =>
      rw [compactFields, compactFields, joinWith] at hfuel ⊢
      simp only [List.length_append, List.length_cons] at hfuel
      obtain ⟨fuel, rfl⟩ : ∃ less, fuel = less + 1 := ⟨fuel - 1, by omega⟩
      rw [List.append_assoc, List.cons_append, readFields_field name hvalue sofar (by omega) hdepth
        (.inr ⟨'\x7d', rest, rfl, .inr (.inr rfl)⟩), skipGaps_cons (by decide)]
      rfl
    | @cons next nextResult others otherResults hnext hothers =>
      rw [compactFields] at hfuel ⊢
      obtain ⟨part, parts, hparts⟩ : ∃ part parts, compactFields (next :: others) = part :: parts := by
        rw [compactFields]
        exact ⟨_, _, rfl⟩
      rw [hparts] at hfuel ⊢ ih
      rw [joinWith_cons_cons] at hfuel ⊢
      simp only [List.length_append, List.length_cons] at hfuel
      obtain ⟨fuel, rfl⟩ : ∃ less, fuel = less + 1 := ⟨fuel - 1, by omega⟩
      have hmore := ih (List.cons_ne_nil _ _) fuel depth (insertField name value' sofar) rest (by omega) hdepth
      have hshape : textChars name ++ ':' :: compactChars value ++ [','] ++ joinWith [','] (part :: parts) ++
          '\x7d' :: rest = textChars name ++ ':' ::
            (compactChars value ++ ',' :: (joinWith [','] (part :: parts) ++ '\x7d' :: rest)) := by
        simp
      rw [hshape, readFields_field name hvalue sofar (by omega) hdepth (.inr ⟨',', _, rfl, .inl rfl⟩),
        skipGaps_cons (by decide)]
      exact hmore

/-- Joined fields begin with the quote of the first name. -/
theorem exists_joinWith_eq_cons (field : String × Document) (fields : List (String × Document)) :
    ∃ chars, joinWith [','] (compactFields (field :: fields)) = '"' :: chars := by
  obtain ⟨name, value⟩ := field
  rw [compactFields]
  cases hparts : compactFields fields with
  | nil =>
    rw [joinWith, textChars]
    exact ⟨_, rfl⟩
  | cons part parts =>
    rw [joinWith_cons_cons, textChars]
    exact ⟨_, rfl⟩

/-- A table of values that are read back is read back. -/
theorem readsBack_table {levels : Nat} {fields results : List (String × Document)}
    (hfields : FieldsReadBack levels fields results) :
    ReadsBack (levels + 1) (.table fields) (.table (inserted [] results)) := by
  intro fuel depth rest hfuel hdepth _
  have hword : compactChars (.table fields) = '\x7b' :: joinWith [','] (compactFields fields) ++ ['\x7d'] := by
    rw [compactChars]
  rw [hword] at hfuel ⊢
  simp only [List.length_append, List.length_cons] at hfuel
  obtain ⟨fuel, rfl⟩ : ∃ less, fuel = less + 1 := ⟨fuel - 1, by omega⟩
  obtain ⟨depth, rfl⟩ : ∃ less, depth = less + 1 := ⟨depth - 1, by omega⟩
  cases hfields with
  | nil =>
    rw [readValue]
    rfl
  | @cons field result others otherResults hfield hothers =>
    obtain ⟨chars, hchars⟩ := exists_joinWith_eq_cons field others
    have hread := readFields_compactFields (.cons hfield hothers) (List.cons_ne_nil _ _) fuel depth [] rest
      (by omega) (by omega)
    rw [hchars] at hread ⊢
    have hshape : '\x7b' :: '"' :: chars ++ ['\x7d'] ++ rest = '\x7b' :: '"' :: (chars ++ '\x7d' :: rest) := by
      simp
    rw [List.cons_append] at hread
    rw [hshape, readValue, skipGaps_cons (by decide)]
    simp only [Char.reduceEq, ↓reduceIte, skipGaps_cons (show isGap '"' = false by decide)]
    show (readFields fuel depth [] ('"' :: (chars ++ '\x7d' :: rest))).bind
      (fun read => .ok (Document.table read.1, read.2)) = _
    rw [hread]
    rfl

/-- A printed document that is read back is what its text holds. -/
theorem read_compact {levels : Nat} {document result : Document} (h : ReadsBack levels document result)
    (hlevels : levels ≤ depthLimit) : read (compact document) = .ok result := by
  have hvalue := h (2 * (compactChars document).length + 2) depthLimit [] (by omega) hlevels (.inl rfl)
  rw [List.append_nil] at hvalue
  simp only [read, compact, String.toList_ofList, bind, Except.bind, hvalue]
  rfl

end Json

end GracefulService
