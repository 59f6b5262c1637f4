import GracefulService.Proofs.Letters
import GracefulService.Proofs.Negotiation
import Mathlib.Data.List.Forall2
import Mathlib.Logic.Relation

/-!
# Spellings of accepted ranges

The same ranges can be spelled with letters of either case and with blanks around the marks between them.
Every part between two marks is trimmed, media types are compared in small letters, and numbers are read
in letters of either case, so the spelling does not matter for any of these. It does matter for the name
of a quality, which is looked for in a small letter only: a parameter whose name is a capital letter gives
no quality. As long as the same parameters give qualities, the same format is chosen.
-/

namespace GracefulService.Http

open Number

/-- The characters between ranges and between their parts. -/
def IsMark (c : Char) : Prop := c = ',' ∨ c = ';'

/-- Blanks can be put between two texts: at either end of the whole, and on either side of a mark. -/
inductive CanPart : List Char → List Char → Prop
  /-- In front of everything. -/
  | front (behind : List Char) : CanPart [] behind
  /-- Behind everything. -/
  | back (before : List Char) : CanPart before []
  /-- Behind a mark. -/
  | behindMark (before behind : List Char) (mark : Char) (hmark : IsMark mark) :
      CanPart (before ++ [mark]) behind
  /-- In front of a mark. -/
  | beforeMark (before behind : List Char) (mark : Char) (hmark : IsMark mark) :
      CanPart before (mark :: behind)

/-- One change of spelling. -/
inductive Respells : List Char → List Char → Prop
  /-- A letter takes the other case. -/
  | letter (before behind : List Char) (c d : Char) (hsame : c.toLower = d.toLower) :
      Respells (before ++ c :: behind) (before ++ d :: behind)
  /-- A space or a tab is put beside a mark or at an end. -/
  | blank (before behind : List Char) (blank : Char) (hblank : blank = ' ' ∨ blank = '\t')
      (hplace : CanPart before behind) : Respells (before ++ behind) (before ++ blank :: behind)

/-- Any number of changes of spelling, one after the other. -/
def Respelled : List Char → List Char → Prop := Relation.ReflTransGen Respells

namespace RangeText

/-- A parameter gives a quality. -/
def Gives (parameter : List Char) : Prop := ∃ quality, Weighs parameter quality

/-- The name of a parameter is a capital Q. -/
def IsCapital (parameter : List Char) : Prop := ∃ value, Text.trim parameter = 'Q' :: '=' :: value

end RangeText

/-- In two lists of ranges the same parameters give qualities. -/
def GiveAlike (ranges others : List RangeText) : Prop :=
  List.Forall₂ (fun range other =>
    List.Forall₂ (fun p q => RangeText.Gives p ↔ RangeText.Gives q) range.parameters other.parameters)
    ranges others

/-! ## The parts of a text -/

/-- What stands between the semicolons, between the commas of a text. -/
def partsOf (cs : List Char) : List (List (List Char)) := (Text.splitAt ',' cs).map (Text.splitAt ';')

/-- A text has a first part. -/
theorem exists_partsOf (cs : List Char) : ∃ part parts ranges, partsOf cs = (part :: parts) :: ranges := by
  have hpieces (separator : Char) (cs : List Char) : Text.splitAt separator cs ≠ [] :=
    Text.splitAt_eq_splitOn separator cs ▸ List.splitOn_ne_nil _ _
  obtain ⟨piece, pieces, hcommas⟩ := List.exists_cons_of_ne_nil (hpieces ',' cs)
  obtain ⟨part, parts, hsemicolons⟩ := List.exists_cons_of_ne_nil (hpieces ';' piece)
  exact ⟨part, parts, pieces.map (Text.splitAt ';'), by rw [partsOf, hcommas, List.map_cons, hsemicolons]⟩

variable {cs ds : List Char} {part : List Char} {parts : List (List Char)} {ranges : List (List (List Char))}

/-- A comma starts a range, a semicolon a part, and everything else goes on with the first part. -/
theorem partsOf_cons (h : partsOf cs = (part :: parts) :: ranges) (c : Char) :
    partsOf (c :: cs) =
      if c = ',' then [[]] :: (part :: parts) :: ranges
      else if c = ';' then ([] :: part :: parts) :: ranges
      else ((c :: part) :: parts) :: ranges := by
  rw [partsOf] at h
  obtain ⟨piece, pieces, hcommas, hsemicolons, hranges⟩ := List.map_eq_cons_iff.1 h
  rw [partsOf, Text.splitAt, hcommas]
  split_ifs with hcomma hsemicolon
  · rw [List.map_cons, List.map_cons, hsemicolons, hranges]
    rfl
  · rw [List.map_cons, Text.splitAt, if_pos hsemicolon, hsemicolons, hranges]
  · rw [List.map_cons, Text.splitAt, if_neg hsemicolon, hsemicolons, hranges]

/-- The parts of a text, trimmed. -/
def trimmedParts (cs : List Char) : List (List (List Char)) := (partsOf cs).map (List.map Text.trim)

/-- The parts of a text, trimmed as far as they can be when more may come in front: of the first part only
the end. -/
def looseParts (cs : List Char) : List Char × List (List Char) × List (List (List Char)) :=
  match partsOf cs with
  | (part :: parts) :: ranges => (Text.trimEnd part, parts.map Text.trim, ranges.map (List.map Text.trim))
  | _ => ([], [], [])

/-- The loose parts of a text are its parts without the blanks around them. -/
theorem looseParts_eq (h : partsOf cs = (part :: parts) :: ranges) :
    looseParts cs = (Text.trimEnd part, parts.map Text.trim, ranges.map (List.map Text.trim)) := by
  rw [looseParts, h]

/-- Texts that are the same as far as they can be trimmed loosely have the same trimmed parts. -/
theorem trimmedParts_of_looseParts (h : looseParts cs = looseParts ds) : trimmedParts cs = trimmedParts ds := by
  obtain ⟨part, parts, ranges, hcs⟩ := exists_partsOf cs
  obtain ⟨part', parts', ranges', hds⟩ := exists_partsOf ds
  rw [looseParts_eq hcs, looseParts_eq hds] at h
  obtain ⟨hpart, hparts, hranges⟩ : Text.trimEnd part = Text.trimEnd part'
      ∧ parts.map Text.trim = parts'.map Text.trim
      ∧ ranges.map (List.map Text.trim) = ranges'.map (List.map Text.trim) := by simpa using h
  rw [trimmedParts, trimmedParts, hcs, hds, List.map_cons, List.map_cons, List.map_cons, List.map_cons,
    Text.trim_congr hpart, hparts, hranges]

/-- They stay the same when the same character comes in front. -/
theorem looseParts_cons (h : looseParts cs = looseParts ds) (c : Char) :
    looseParts (c :: cs) = looseParts (c :: ds) := by
  obtain ⟨part, parts, ranges, hcs⟩ := exists_partsOf cs
  obtain ⟨part', parts', ranges', hds⟩ := exists_partsOf ds
  have hccs := partsOf_cons hcs c
  have hcds := partsOf_cons hds c
  rw [looseParts_eq hcs, looseParts_eq hds] at h
  obtain ⟨hpart, hparts, hranges⟩ : Text.trimEnd part = Text.trimEnd part'
      ∧ parts.map Text.trim = parts'.map Text.trim
      ∧ ranges.map (List.map Text.trim) = ranges'.map (List.map Text.trim) := by simpa using h
  split_ifs at hccs hcds with hcomma hsemicolon
  · rw [looseParts_eq hccs, looseParts_eq hcds]
    simp [Text.trim_congr hpart, hparts, hranges]
  · rw [looseParts_eq hccs, looseParts_eq hcds]
    simp [Text.trim_congr hpart, hparts, hranges]
  · rw [looseParts_eq hccs, looseParts_eq hcds, Text.trimEnd_cons, Text.trimEnd_cons, hpart, hparts, hranges]

/-- They stay the same behind the same text. -/
theorem looseParts_append (before : List Char) (h : looseParts cs = looseParts ds) :
    looseParts (before ++ cs) = looseParts (before ++ ds) := by
  induction before with
  | nil => exact h
  | cons c before ih => exact looseParts_cons ih c

/-! ## Changes of spelling -/

variable {blank mark : Char}

/-- A space or a tab is a blank and no mark. -/
theorem blank_facts (hblank : blank = ' ' ∨ blank = '\t') :
    Text.isBlank blank = true ∧ blank ≠ ',' ∧ blank ≠ ';' := by
  rcases hblank with rfl | rfl <;> decide

/-- Behind a mark comes an empty first part. -/
theorem partsOf_mark (hmark : IsMark mark) (cs : List Char) :
    ∃ parts ranges, partsOf (mark :: cs) = ([] :: parts) :: ranges := by
  obtain ⟨part, parts, ranges, hcs⟩ := exists_partsOf cs
  have hcons := partsOf_cons hcs mark
  rcases hmark with rfl | rfl
  · exact ⟨[], (part :: parts) :: ranges, hcons⟩
  · exact ⟨part :: parts, ranges, hcons⟩

/-- A blank in front does not change what is trimmed. -/
theorem trimmedParts_blank_cons (hblank : blank = ' ' ∨ blank = '\t') (cs : List Char) :
    trimmedParts (blank :: cs) = trimmedParts cs := by
  obtain ⟨hblank, hcomma, hsemicolon⟩ := blank_facts hblank
  obtain ⟨part, parts, ranges, hcs⟩ := exists_partsOf cs
  have hcons := partsOf_cons hcs blank
  rw [if_neg hcomma, if_neg hsemicolon] at hcons
  simp [trimmedParts, hcs, hcons, Text.trim_blank_cons hblank]

/-- A blank in front of an empty first part is trimmed with it. -/
theorem looseParts_blank_cons (hblank : blank = ' ' ∨ blank = '\t')
    (h : partsOf cs = ([] :: parts) :: ranges) : looseParts (blank :: cs) = looseParts cs := by
  obtain ⟨hblank, hcomma, hsemicolon⟩ := blank_facts hblank
  have hcons := partsOf_cons h blank
  rw [if_neg hcomma, if_neg hsemicolon] at hcons
  rw [looseParts_eq hcons, looseParts_eq h, Text.trimEnd_cons]
  simp [Text.trimEnd, hblank]

/-- A blank behind a mark is trimmed with what follows. -/
theorem looseParts_mark_cons (hblank : blank = ' ' ∨ blank = '\t') (hmark : IsMark mark) (cs : List Char) :
    looseParts (mark :: blank :: cs) = looseParts (mark :: cs) := by
  have htrimmed := trimmedParts_blank_cons hblank cs
  obtain ⟨part, parts, ranges, hcs⟩ := exists_partsOf cs
  obtain ⟨part', parts', ranges', hbcs⟩ := exists_partsOf (blank :: cs)
  rw [trimmedParts, trimmedParts, hcs, hbcs] at htrimmed
  obtain ⟨⟨hpart, hparts⟩, hranges⟩ : (Text.trim part' = Text.trim part
      ∧ parts'.map Text.trim = parts.map Text.trim)
      ∧ ranges'.map (List.map Text.trim) = ranges.map (List.map Text.trim) := by simpa using htrimmed
  have hmcs := partsOf_cons hcs mark
  have hmbcs := partsOf_cons hbcs mark
  rcases hmark with rfl | rfl
  · rw [looseParts_eq hmcs, looseParts_eq hmbcs]
    simp [hpart, hparts, hranges]
  · rw [looseParts_eq hmcs, looseParts_eq hmbcs]
    simp [hpart, hparts, hranges]

/-- Parts are trimmed alike in letters of either case. -/
theorem trimmedParts_lowerAscii (cs : List Char) :
    trimmedParts (Text.lowerAscii cs) = (trimmedParts cs).map (List.map Text.lowerAscii) := by
  have htrim : Text.trim ∘ Text.lowerAscii = Text.lowerAscii ∘ Text.trim := funext Text.trim_lowerAscii
  have hcommas : Text.splitAt ',' (Text.lowerAscii cs) = (Text.splitAt ',' cs).map Text.lowerAscii :=
    Text.splitAt_lowerAscii (by decide) cs
  have hsemicolons (cs : List Char) :
      Text.splitAt ';' (Text.lowerAscii cs) = (Text.splitAt ';' cs).map Text.lowerAscii :=
    Text.splitAt_lowerAscii (by decide) cs
  simp only [trimmedParts, partsOf, hcommas, List.map_map]
  refine List.map_congr_left fun piece _ => ?_
  simp only [Function.comp_apply, hsemicolons, List.map_map, htrim]

/-- A change of spelling keeps the trimmed parts in small letters. -/
theorem Respells.same_parts (h : Respells cs ds) :
    (trimmedParts cs).map (List.map Text.lowerAscii) = (trimmedParts ds).map (List.map Text.lowerAscii) := by
  cases h with
  | letter before behind c d hsame =>
    have hlower : Text.lowerAscii (before ++ c :: behind) = Text.lowerAscii (before ++ d :: behind) := by
      simp [Text.lowerAscii, hsame]
    rw [← trimmedParts_lowerAscii, hlower, trimmedParts_lowerAscii]
  | blank before behind blank hblank hplace =>
    have htrimmed : trimmedParts (before ++ behind) = trimmedParts (before ++ blank :: behind) := by
      cases hplace with
      | front => exact (trimmedParts_blank_cons hblank _).symm
      | back => exact trimmedParts_of_looseParts (looseParts_append before (looseParts_blank_cons hblank rfl).symm)
      | behindMark before _ mark hmark =>
        rw [List.append_assoc, List.append_assoc]
        exact trimmedParts_of_looseParts
          (looseParts_append before (looseParts_mark_cons hblank hmark behind).symm)
      | beforeMark _ behind mark hmark =>
        obtain ⟨parts, ranges, hparts⟩ := partsOf_mark hmark behind
        exact trimmedParts_of_looseParts (looseParts_append before (looseParts_blank_cons hblank hparts).symm)
    rw [htrimmed]

/-- However a text is respelled, its trimmed parts stay the same in small letters. -/
theorem Respelled.same_parts (h : Respelled cs ds) :
    (trimmedParts cs).map (List.map Text.lowerAscii) = (trimmedParts ds).map (List.map Text.lowerAscii) := by
  induction h with
  | refl => rfl
  | tail _ hlast ih => exact ih.trans hlast.same_parts

/-! ## What is read from another spelling -/

namespace RangeText

variable {p q : List Char} {quality : Binary} {range other : RangeText}

/-- A parameter that gives a quality gives it in every spelling, unless its name becomes a capital. -/
theorem Weighs.respelled (h : Weighs p quality)
    (hsame : Text.lowerAscii (Text.trim p) = Text.lowerAscii (Text.trim q)) : Weighs q quality ∨ IsCapital q := by
  obtain ⟨number, hp, hread⟩ := h
  rw [hp] at hsame
  obtain ⟨name, rest, hq, hname, hrest⟩ := List.map_eq_cons_iff.1 hsame.symm
  obtain ⟨equals, value, rfl, hequals, hvalue⟩ := List.map_eq_cons_iff.1 hrest
  obtain rfl : equals = '=' := (Text.toLower_eq_iff (by decide)).1 hequals
  have hletter : name = 'q' ∨ name = 'Q' := by
    have hboth := Text.apply_toLower (f := fun c => decide (c = 'q' ∨ c = 'Q')) (by decide) name
    rw [hname] at hboth
    simpa using hboth
  rcases hletter with rfl | rfl
  · refine .inl ⟨value, hq, ?_⟩
    have hnumber : Text.lowerAscii (Text.trim value) = Text.lowerAscii (Text.trim number) := by
      rw [← Text.trim_lowerAscii, ← Text.trim_lowerAscii]
      exact congrArg Text.trim hvalue
    rw [← readBinary?_lowerAscii, hnumber, readBinary?_lowerAscii]
    exact hread
  · exact .inr ⟨value, hq⟩

/-- A parameter with a capital name gives no quality. -/
theorem IsCapital.not_gives (h : IsCapital p) : ¬ Gives p := by
  rintro ⟨quality, number, hp, -⟩
  obtain ⟨value, hvalue⟩ := h
  rw [hp] at hvalue
  simp at hvalue

/-- Two spellings of a parameter are read alike when both give a quality or neither does. -/
theorem weight?_respelled (hsame : Text.lowerAscii (Text.trim p) = Text.lowerAscii (Text.trim q))
    (hboth : Gives p ↔ Gives q) : AcceptRange.weight? p = AcceptRange.weight? q := by
  cases hp : AcceptRange.weight? p with
  | some quality =>
    have hweighs := (weight?_eq_some_iff p quality).1 hp
    rcases hweighs.respelled hsame with hother | hcapital
    · exact ((weight?_eq_some_iff q quality).2 hother).symm
    · exact absurd (hboth.1 ⟨quality, hweighs⟩) hcapital.not_gives
  | none =>
    have hnone := (weight?_eq_none_iff p).1 hp
    refine ((weight?_eq_none_iff q).2 fun quality hweighs => ?_).symm
    obtain ⟨value, hvalue⟩ := hboth.2 ⟨quality, hweighs⟩
    exact hnone value hvalue

/-- A part in small letters and without the blanks around it. -/
def plain (part : List Char) : List Char := Text.lowerAscii (Text.trim part)

/-- Two spellings of a list of parameters, where the same ones give qualities, lead to one quality. -/
theorem findSome?_weight?_respelled {ps qs : List (List Char)} (hsame : ps.map plain = qs.map plain)
    (hboth : List.Forall₂ (fun p q => Gives p ↔ Gives q) ps qs) :
    ps.findSome? AcceptRange.weight? = qs.findSome? AcceptRange.weight? := by
  induction hboth with
  | nil => rfl
  | cons hgives _ ih =>
    rw [List.map_cons, List.map_cons, List.cons.injEq] at hsame
    rw [List.findSome?_cons, List.findSome?_cons, weight?_respelled hsame.1 hgives, ih hsame.2]

/-- Two spellings of a range are read alike when the same parameters give qualities. -/
theorem reading_respelled (hsame : range.parts.map plain = other.parts.map plain)
    (hboth : List.Forall₂ (fun p q => Gives p ↔ Gives q) range.parameters other.parameters) :
    range.reading = other.reading := by
  rw [parts, parts, List.map_cons, List.map_cons, List.cons.injEq] at hsame
  have hmedia : Text.lowerAscii (Text.trim range.media) = Text.lowerAscii (Text.trim other.media) := hsame.1
  rw [reading, reading, hmedia, findSome?_weight?_respelled hsame.2 hboth]

end RangeText

/-- Two spellings of a list of ranges are read alike when the same parameters give qualities. -/
theorem readings_respelled {ranges others : List RangeText}
    (hsame : ranges.map (fun range => range.parts.map RangeText.plain)
      = others.map fun range => range.parts.map RangeText.plain)
    (halike : GiveAlike ranges others) : ranges.map RangeText.reading = others.map RangeText.reading := by
  induction halike with
  | nil => rfl
  | cons hrange _ ih =>
    rw [List.map_cons, List.map_cons, List.cons.injEq] at hsame
    rw [List.map_cons, List.map_cons, RangeText.reading_respelled hsame.1 hrange, ih hsame.2]

/-- The parts of the written ranges are the trimmed parts in small letters, when they are made plain. -/
theorem plain_writtenRanges (accept : List Char) :
    (writtenRanges accept).map (fun range => range.parts.map RangeText.plain)
      = (trimmedParts accept).map (List.map Text.lowerAscii) := by
  rw [writtenRanges, trimmedParts, partsOf, List.map_map, List.map_map, List.map_map]
  refine List.map_congr_left fun piece _ => ?_
  simp only [Function.comp_apply, RangeText.parts_ofPiece, List.map_map]
  rfl

/-- Lists with the same images have corresponding entries with the same image. -/
theorem forall₂_of_map_eq {α β γ : Type} {f : α → γ} {g : β → γ} {xs : List α} {ys : List β}
    (h : xs.map f = ys.map g) : List.Forall₂ (fun x y => f x = g y) xs ys := by
  rwa [← List.forall₂_map_right_iff, ← List.forall₂_map_left_iff, List.forall₂_eq_eq_eq]

/-- In another spelling every parameter gives the quality it gave, unless its name became a capital; where
the same parameters give qualities in both, the same format is chosen. -/
theorem negotiate_respelled (accept other : String) (ranges others : List RangeText)
    (hspells : SpellsRanges accept.toList ranges) (hothers : SpellsRanges other.toList others)
    (hrespelled : Respelled accept.toList other.toList) :
    (GiveAlike ranges others → BodyFormat.negotiate (some other) = BodyFormat.negotiate (some accept))
      ∧ List.Forall₂ (fun range other =>
          List.Forall₂ (fun p q => ∀ quality, RangeText.Weighs p quality →
            RangeText.Weighs q quality ∨ RangeText.IsCapital q) range.parameters other.parameters)
        ranges others := by
  obtain rfl := (spellsRanges_iff _ _).1 hspells
  obtain rfl := (spellsRanges_iff _ _).1 hothers
  have hsame : (writtenRanges accept.toList).map (fun range => range.parts.map RangeText.plain)
      = (writtenRanges other.toList).map fun range => range.parts.map RangeText.plain := by
    rw [plain_writtenRanges, plain_writtenRanges, hrespelled.same_parts]
  constructor
  · intro halike
    have hread : acceptRanges other = acceptRanges accept := by
      rw [acceptRanges_eq, acceptRanges_eq, readings_respelled hsame halike]
    rw [BodyFormat.negotiate, BodyFormat.negotiate, hread]
  · refine (forall₂_of_map_eq hsame).imp fun range other hparts => ?_
    rw [RangeText.parts, RangeText.parts, List.map_cons, List.map_cons, List.cons.injEq] at hparts
    exact (forall₂_of_map_eq hparts.2).imp fun p q hplain quality hweighs => hweighs.respelled hplain

/-- A media type and an exponent in letters of the other case, and a blank in front of a semicolon. -/
theorem negotiate_respelled_loosely :
    Respelled "text/plain;q=1E-1,*/*;q=0".toList "Text/plain ;q=1e-1,*/*;q=0".toList
      ∧ BodyFormat.negotiate (some "Text/plain ;q=1e-1,*/*;q=0")
        = BodyFormat.negotiate (some "text/plain;q=1E-1,*/*;q=0") := by
  have hrespelled : Respelled "text/plain;q=1E-1,*/*;q=0".toList "Text/plain ;q=1e-1,*/*;q=0".toList := by
    refine ((Relation.ReflTransGen.refl.tail
      (.letter [] "ext/plain;q=1E-1,*/*;q=0".toList 't' 'T' (by decide))).tail
      (.letter "Text/plain;q=1".toList "-1,*/*;q=0".toList 'E' 'e' (by decide))).tail ?_
    exact .blank "Text/plain".toList ";q=1e-1,*/*;q=0".toList ' ' (.inl rfl) (.beforeMark _ _ ';' (.inr rfl))
  have hranges : writtenRanges "text/plain;q=1E-1,*/*;q=0".toList
      = [⟨"text/plain".toList, ["q=1E-1".toList]⟩, ⟨"*/*".toList, ["q=0".toList]⟩] := by decide +kernel
  have hothers : writtenRanges "Text/plain ;q=1e-1,*/*;q=0".toList
      = [⟨"Text/plain ".toList, ["q=1e-1".toList]⟩, ⟨"*/*".toList, ["q=0".toList]⟩] := by decide +kernel
  have hgives {parameter : List Char} (h : (AcceptRange.weight? parameter).isSome = true) :
      RangeText.Gives parameter := by
    obtain ⟨quality, hquality⟩ := Option.isSome_iff_exists.1 h
    exact ⟨quality, (RangeText.weight?_eq_some_iff parameter quality).1 hquality⟩
  refine ⟨hrespelled, (negotiate_respelled "text/plain;q=1E-1,*/*;q=0" "Text/plain ;q=1e-1,*/*;q=0" _ _
    ((spellsRanges_iff _ _).2 rfl) ((spellsRanges_iff _ _).2 rfl) hrespelled).1 ?_⟩
  rw [hranges, hothers]
  have hfirst : RangeText.Gives "q=1E-1".toList ↔ RangeText.Gives "q=1e-1".toList :=
    iff_of_true (hgives (by decide +kernel)) (hgives (by decide +kernel))
  exact .cons (.cons hfirst .nil) (.cons (.cons Iff.rfl .nil) .nil)

/-- The name of a quality in a capital letter: the quality is lost, and with it another format is chosen. -/
theorem negotiate_respelled_capital :
    Respelled "text/plain;q=0.1,application/json;q=0.5".toList "text/plain;Q=0.1,application/json;q=0.5".toList
      ∧ BodyFormat.negotiate (some "text/plain;q=0.1,application/json;q=0.5") = .json
      ∧ BodyFormat.negotiate (some "text/plain;Q=0.1,application/json;q=0.5") = .text := by
  refine ⟨Relation.ReflTransGen.single ?_, by decide +kernel, by decide +kernel⟩
  exact .letter "text/plain;".toList "=0.1,application/json;q=0.5".toList 'q' 'Q' (by decide)

end GracefulService.Http
