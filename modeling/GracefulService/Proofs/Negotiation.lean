import GracefulService.Http.Accept
import GracefulService.Proofs.Cutting
import GracefulService.Proofs.Magnitudes
import Mathlib.Data.List.Induction

/-!
# The quality of a format

A list of accepted ranges is described without the reader: ranges joined by commas, the parts of a range
joined by semicolons, a quality given by the first parameter that spells one. A format then has one
quality, the best of the most specific ranges that name it, and none of the ranges need be in any order.
The fold over the ranges holds this quality for both formats after each range, so the format that is
chosen follows from the two qualities, and from them by their values alone.

Ranges whose quality is no number are left out: they compare to nothing, and no order is claimed of them.
-/

namespace GracefulService.Http

open Number

/-! ## Ranges as they are written -/

/-- The text of one range. -/
structure RangeText where
  /-- What stands before the first semicolon. -/
  media : List Char
  /-- What stands between and behind the semicolons. -/
  parameters : List (List Char)
deriving DecidableEq, Repr

namespace RangeText

/-- The parts of a range in the order they are written in. -/
def parts (range : RangeText) : List (List Char) := range.media :: range.parameters

/-- A parameter that gives a quality: between its blanks a small q, an equals sign, and a number that
blanks may surround. -/
def Weighs (parameter : List Char) (quality : Binary) : Prop :=
  ∃ number, Text.trim parameter = 'q' :: '=' :: number ∧
    readBinary? .single (Text.trim number) = some quality

/-- The quality of a range: the one its first parameter with a quality gives, or one. -/
inductive HasQuality (range : RangeText) : Binary → Prop
  /-- No parameter gives a quality. -/
  | usual (hnone : ∀ parameter ∈ range.parameters, ∀ quality, ¬ Weighs parameter quality) :
      HasQuality range AcceptRange.one
  /-- A parameter gives one, and none before it does. -/
  | given (before : List (List Char)) (parameter : List Char) (behind : List (List Char))
      (quality : Binary) (hparameters : range.parameters = before ++ parameter :: behind)
      (hnone : ∀ earlier ∈ before, ∀ quality, ¬ Weighs earlier quality)
      (hweighs : Weighs parameter quality) : HasQuality range quality

/-- A media type, between blanks and in letters of any case. -/
def Names (range : RangeText) (media : String) : Prop :=
  Text.lowerAscii (Text.trim range.media) = media.toList

end RangeText

/-- A text spells a list of ranges: commas stand between the ranges, semicolons between the parts of a
range, and neither within a part. -/
structure SpellsRanges (accept : List Char) (ranges : List RangeText) : Prop where
  /-- There is a range, be it an empty one. -/
  some_range : ranges ≠ []
  /-- The text is the ranges and what stands between them. -/
  joined : accept = [','].intercalate (ranges.map fun range => [';'].intercalate range.parts)
  /-- What stands between parts stands nowhere else. -/
  apart : ∀ range ∈ ranges, ∀ part ∈ range.parts, ',' ∉ part ∧ ';' ∉ part

namespace BodyFormat

/-- The media type of a format. -/
def media : BodyFormat → String
  | .text => "text/plain"
  | .json => "application/json"

/-- The family that the media type of a format belongs to. -/
def family : BodyFormat → String
  | .text => "text/*"
  | .json => "application/*"

/-- A range names a format, by its type, by its family or with everything else; the more specific it
is, the higher its rank. -/
inductive NamedBy (format : BodyFormat) (range : RangeText) : Nat → Prop
  /-- The type itself. -/
  | exactly (hnames : range.Names format.media) : NamedBy format range 2
  /-- All types of the family. -/
  | byFamily (hnames : range.Names format.family) : NamedBy format range 1
  /-- All types. -/
  | amongAll (hnames : range.Names "*/*") : NamedBy format range 0

/-- The quality that a list of ranges gives a format: the best that a range of the highest rank gives
it, or zero where no range names it. -/
inductive Favoured (format : BodyFormat) (ranges : List RangeText) : Magnitude → Prop
  /-- No range names the format. -/
  | unnamed (hunnamed : ∀ range ∈ ranges, ∀ rank, ¬ format.NamedBy range rank) :
      Favoured format ranges (((0 : ℚ) : WithTop ℚ) : Magnitude)
  /-- Some ranges name it, none with a higher rank than this one, and of those with the same rank none
  has a higher quality. -/
  | best (range : RangeText) (rank : Nat) (quality : Binary) (magnitude : Magnitude)
      (hrange : range ∈ ranges) (hnamed : format.NamedBy range rank)
      (hquality : range.HasQuality quality) (hvalue : quality.value? = some magnitude)
      (hrank : ∀ other ∈ ranges, ∀ otherRank, format.NamedBy other otherRank → otherRank ≤ rank)
      (hbest : ∀ other ∈ ranges, format.NamedBy other rank →
        ∀ q, other.HasQuality q → ∀ m, q.value? = some m → m ≤ magnitude) :
      Favoured format ranges magnitude

end BodyFormat

/-! ## The reader finds the ranges that are written -/

namespace RangeText

/-- What the reader makes of a written range. -/
def reading (range : RangeText) : AcceptRange :=
  ⟨Text.lowerAscii (Text.trim range.media),
    (range.parameters.findSome? AcceptRange.weight?).getD AcceptRange.one⟩

/-- The reader finds a quality in a parameter exactly when the parameter gives it. -/
theorem weight?_eq_some_iff (parameter : List Char) (quality : Binary) :
    AcceptRange.weight? parameter = some quality ↔ Weighs parameter quality := by
  unfold AcceptRange.weight? Weighs
  cases hstart : Text.afterStart ['q', '='] (Text.trim parameter) with
  | none =>
    constructor
    · intro h
      cases h
    · rintro ⟨number, htrim, -⟩
      rw [Text.afterStart_eq_some_iff.2 htrim] at hstart
      cases hstart
  | some rest =>
    have htrim : Text.trim parameter = 'q' :: '=' :: rest := Text.afterStart_eq_some_iff.1 hstart
    simp [htrim]

/-- The reader finds no quality in a parameter exactly when the parameter gives none. -/
theorem weight?_eq_none_iff (parameter : List Char) :
    AcceptRange.weight? parameter = none ↔ ∀ quality, ¬ Weighs parameter quality := by
  simp only [← weight?_eq_some_iff, Option.eq_none_iff_forall_ne_some, ne_eq]

/-- The quality that is read is the only one a range has. -/
theorem hasQuality_iff (range : RangeText) (quality : Binary) :
    range.HasQuality quality ↔ range.reading.quality = quality := by
  constructor
  · intro h
    cases h with
    | usual hnone =>
      have hnothing : range.parameters.findSome? AcceptRange.weight? = none :=
        List.findSome?_eq_none_iff.2 fun parameter hparameter =>
          (weight?_eq_none_iff parameter).2 (hnone parameter hparameter)
      simp [reading, hnothing]
    | given before parameter behind _ hparameters hnone hweighs =>
      have hfound : range.parameters.findSome? AcceptRange.weight? = some quality :=
        List.findSome?_eq_some_iff.2 ⟨before, parameter, behind, hparameters,
          (weight?_eq_some_iff parameter quality).2 hweighs,
          fun earlier hearlier => (weight?_eq_none_iff earlier).2 (hnone earlier hearlier)⟩
      simp [reading, hfound]
  · rintro rfl
    cases hfound : range.parameters.findSome? AcceptRange.weight? with
    | none =>
      have husual : range.reading.quality = AcceptRange.one := by simp [reading, hfound]
      rw [husual]
      exact .usual fun parameter hparameter =>
        (weight?_eq_none_iff parameter).1 (List.findSome?_eq_none_iff.1 hfound parameter hparameter)
    | some quality =>
      have hgiven : range.reading.quality = quality := by simp [reading, hfound]
      rw [hgiven]
      obtain ⟨before, parameter, behind, hparameters, hweighs, hnone⟩ :=
        List.findSome?_eq_some_iff.1 hfound
      exact .given before parameter behind quality hparameters
        (fun earlier hearlier => (weight?_eq_none_iff earlier).1 (hnone earlier hearlier))
        ((weight?_eq_some_iff parameter quality).1 hweighs)

/-- The range with the given parts. -/
def ofParts : List (List Char) → RangeText
  | [] => ⟨[], []⟩
  | media :: parameters => ⟨media, parameters⟩

/-- A range has the parts it is made of; there is always one. -/
theorem parts_ofParts {parts : List (List Char)} (hparts : parts ≠ []) : (ofParts parts).parts = parts := by
  cases parts with
  | nil => exact absurd rfl hparts
  | cons media parameters => rfl

/-- The range that a text without commas spells. -/
def ofPiece (piece : List Char) : RangeText := ofParts (Text.splitAt ';' piece)

/-- The parts of a range stand between the semicolons of its text. -/
theorem parts_ofPiece (piece : List Char) : (ofPiece piece).parts = Text.splitAt ';' piece :=
  parts_ofParts (Text.splitAt_eq_splitOn ';' piece ▸ List.splitOn_ne_nil _ _)

/-- Joined again, the parts of a piece are the piece. -/
theorem intercalate_ofPiece (piece : List Char) : [';'].intercalate (ofPiece piece).parts = piece := by
  rw [parts_ofPiece, Text.splitAt_eq_splitOn, List.intercalate_splitOn]

/-- The text of a range spells that range. -/
theorem ofPiece_intercalate (range : RangeText) (hapart : ∀ part ∈ range.parts, ';' ∉ part) :
    ofPiece ([';'].intercalate range.parts) = range := by
  rw [ofPiece, Text.splitAt_eq_splitOn, List.splitOn_intercalate ';' hapart (List.cons_ne_nil _ _)]
  rfl

/-- The reader reads what a piece spells. -/
theorem read_eq_reading (piece : List Char) : AcceptRange.read piece = (ofPiece piece).reading := by
  rw [AcceptRange.read, ofPiece]
  cases hparts : Text.splitAt ';' piece with
  | nil => rfl
  | cons media parameters => rfl

end RangeText

/-- The ranges that a text spells. -/
def writtenRanges (accept : List Char) : List RangeText :=
  (Text.splitAt ',' accept).map RangeText.ofPiece

/-- The reader reads the ranges that a text spells. -/
theorem acceptRanges_eq (accept : String) :
    acceptRanges accept = (writtenRanges accept.toList).map RangeText.reading := by
  rw [acceptRanges, writtenRanges, List.map_map]
  exact List.map_congr_left fun piece _ => RangeText.read_eq_reading piece

/-- A character that stands in a text joined from parts is the one between the parts or stands in a
part. -/
theorem eq_or_mem_of_mem_intercalate {separator c : Char} {parts : List (List Char)}
    (hc : c ∈ [separator].intercalate parts) : c = separator ∨ ∃ part ∈ parts, c ∈ part := by
  induction parts with
  | nil => simp at hc
  | cons part parts ih =>
    cases parts with
    | nil => exact .inr ⟨part, by simp, by simpa using hc⟩
    | cons next parts =>
      rw [List.intercalate_cons_cons, List.append_assoc, List.mem_append, List.mem_append] at hc
      rcases hc with hc | hc | hc
      · exact .inr ⟨part, by simp, hc⟩
      · exact .inl (by simpa using hc)
      · rcases ih hc with hseparator | ⟨other, hother, hc⟩
        · exact .inl hseparator
        · exact .inr ⟨other, List.mem_cons_of_mem _ hother, hc⟩

/-- A text spells one list of ranges: the pieces between its commas, each cut at its semicolons. -/
theorem spellsRanges_iff (accept : List Char) (ranges : List RangeText) :
    SpellsRanges accept ranges ↔ ranges = writtenRanges accept := by
  constructor
  · rintro ⟨hsome, hjoined, hapart⟩
    have hpieces : Text.splitAt ',' accept = ranges.map fun range => [';'].intercalate range.parts := by
      rw [Text.splitAt_eq_splitOn, hjoined]
      refine List.splitOn_intercalate ',' ?_ (by simpa using hsome)
      simp only [List.mem_map, forall_exists_index, and_imp, forall_apply_eq_imp_iff₂]
      intro range hrange hcomma
      rcases eq_or_mem_of_mem_intercalate hcomma with heq | ⟨part, hpart, hmem⟩
      · exact absurd heq (by decide)
      · exact (hapart range hrange part hpart).1 hmem
    rw [writtenRanges, hpieces, List.map_map]
    refine (List.map_id ranges).symm.trans (List.map_congr_left fun range hrange => ?_)
    exact (RangeText.ofPiece_intercalate range fun part hpart => (hapart range hrange part hpart).2).symm
  · rintro rfl
    have hpieces : Text.splitAt ',' accept ≠ [] :=
      Text.splitAt_eq_splitOn ',' accept ▸ List.splitOn_ne_nil _ _
    refine ⟨by simpa [writtenRanges] using hpieces, ?_, ?_⟩
    · have hjoined : (writtenRanges accept).map (fun range => [';'].intercalate range.parts) =
          Text.splitAt ',' accept := by
        rw [writtenRanges, List.map_map]
        exact (List.map_congr_left fun piece _ => RangeText.intercalate_ofPiece piece).trans
          (List.map_id _)
      rw [hjoined, Text.splitAt_eq_splitOn, List.intercalate_splitOn]
    · intro range hrange part hpart
      obtain ⟨piece, hpiece, rfl⟩ := List.mem_map.1 hrange
      rw [RangeText.parts_ofPiece] at hpart
      have hpart := Text.of_mem_splitAt hpart
      have hpiece := Text.of_mem_splitAt hpiece
      exact ⟨fun hcomma => (hpiece _ (hpart _ hcomma).1).2 rfl, fun hsemicolon => (hpart _ hsemicolon).2 rfl⟩

/-! ## One quality for each format -/

namespace BodyFormat

/-- How specifically a range that is read names a format. -/
def rank? : BodyFormat → AcceptRange → Option Nat
  | .text => AcceptRange.textRank?
  | .json => AcceptRange.jsonRank?

/-- The rank that is read is the one a range names the format with. -/
theorem rank?_eq_some_iff (format : BodyFormat) (range : RangeText) (rank : Nat) :
    format.rank? range.reading = some rank ↔ format.NamedBy range rank := by
  constructor
  · intro h
    cases format with
    | text =>
      rw [rank?, AcceptRange.textRank?] at h
      split at h
      next hmedia => cases h; exact .exactly hmedia
      split at h
      next hmedia => cases h; exact .byFamily hmedia
      split at h
      next hmedia => cases h; exact .amongAll hmedia
      cases h
    | json =>
      rw [rank?, AcceptRange.jsonRank?] at h
      split at h
      next hmedia => cases h; exact .exactly hmedia
      split at h
      next hmedia => cases h; exact .byFamily hmedia
      split at h
      next hmedia => cases h; exact .amongAll hmedia
      cases h
  · intro h
    have hmedia : ∀ {media : String}, range.Names media → range.reading.media = media.toList := id
    cases h with
    | exactly hnames =>
      cases format <;> simp [rank?, AcceptRange.textRank?, AcceptRange.jsonRank?, hmedia hnames, media]
    | byFamily hnames =>
      cases format <;>
        simp [rank?, AcceptRange.textRank?, AcceptRange.jsonRank?, hmedia hnames, family]
    | amongAll hnames =>
      cases format <;> simp [rank?, AcceptRange.textRank?, AcceptRange.jsonRank?, hmedia hnames]

/-- A preference is the best of some ranges: none where no range names the format. -/
inductive Best (format : BodyFormat) (ranges : List RangeText) : Option Preference → Prop
  /-- No range names the format. -/
  | unnamed (hunnamed : ∀ range ∈ ranges, ∀ rank, ¬ format.NamedBy range rank) : Best format ranges none
  /-- The rank and the quality of a range that none of the others surpasses. -/
  | held (range : RangeText) (rank : Nat) (quality : Binary) (hrange : range ∈ ranges)
      (hnamed : format.NamedBy range rank) (hquality : range.HasQuality quality)
      (hrank : ∀ other ∈ ranges, ∀ otherRank, format.NamedBy other otherRank → otherRank ≤ rank)
      (hbest : ∀ other ∈ ranges, format.NamedBy other rank →
        ∀ q, other.HasQuality q → q.atMost quality = true) :
      Best format ranges (some ⟨rank, quality⟩)

variable {format : BodyFormat} {ranges : List RangeText} {held : Option Preference}

/-- The best of some ranges stays it beside a range that does not name the format. -/
theorem Best.beside (hheld : format.Best ranges held) {range : RangeText}
    (hunnamed : ∀ rank, ¬ format.NamedBy range rank) : format.Best (ranges ++ [range]) held := by
  cases hheld with
  | unnamed hnone =>
    exact .unnamed (List.forall_mem_append.2 ⟨hnone, List.forall_mem_singleton.2 hunnamed⟩)
  | held first rank quality hfirst hnamed hquality hrank hbest =>
    refine .held first rank quality (List.mem_append_left _ hfirst) hnamed hquality
      (List.forall_mem_append.2 ⟨hrank, List.forall_mem_singleton.2 ?_⟩)
      (List.forall_mem_append.2 ⟨hbest, List.forall_mem_singleton.2 ?_⟩)
    · exact fun otherRank hother => absurd hother (hunnamed otherRank)
    · exact fun hother => absurd hother (hunnamed rank)

/-- A format is named by a range at one rank only. -/
theorem NamedBy.unique {range : RangeText} {rank otherRank : Nat} (hnamed : format.NamedBy range rank)
    (hother : format.NamedBy range otherRank) : otherRank = rank := by
  have hread := (rank?_eq_some_iff format range rank).2 hnamed
  rw [(rank?_eq_some_iff format range otherRank).2 hother] at hread
  exact Option.some.inj hread

/-- A range that none of those before it surpasses is the best of all. -/
theorem Best.last {range : RangeText} {rank : Nat} (hnamed : format.NamedBy range rank)
    (hnumber : range.reading.quality ≠ .nan)
    (hrank : ∀ other ∈ ranges, ∀ otherRank, format.NamedBy other otherRank → otherRank ≤ rank)
    (hbest : ∀ other ∈ ranges, format.NamedBy other rank →
      ∀ q, other.HasQuality q → q.atMost range.reading.quality = true) :
    format.Best (ranges ++ [range]) (some ⟨rank, range.reading.quality⟩) := by
  refine .held range rank _ (by simp) hnamed ((range.hasQuality_iff _).2 rfl)
    (List.forall_mem_append.2 ⟨hrank, List.forall_mem_singleton.2 fun otherRank hother => ?_⟩)
    (List.forall_mem_append.2 ⟨hbest, List.forall_mem_singleton.2 fun _ q hq => ?_⟩)
  · exact (hnamed.unique hother).le
  · exact (range.hasQuality_iff q).1 hq ▸ Binary.atMost_refl hnumber

/-- What the reader holds after one more range is the best of all ranges up to it. -/
theorem Best.refine (hheld : format.Best ranges held) (range : RangeText)
    (hnumbers : ∀ other ∈ ranges ++ [range], ¬ other.HasQuality .nan) :
    format.Best (ranges ++ [range])
      (Preference.refine held (format.rank? range.reading) range.reading.quality) := by
  have hnumber : range.reading.quality ≠ .nan := fun hnan =>
    hnumbers range (by simp) ((range.hasQuality_iff _).2 hnan)
  cases hread : format.rank? range.reading with
  | none =>
    refine hheld.beside fun rank hnamed => ?_
    rw [(rank?_eq_some_iff format range rank).2 hnamed] at hread
    cases hread
  | some rank =>
    have hnamed : format.NamedBy range rank := (rank?_eq_some_iff format range rank).1 hread
    cases hheld with
    | unnamed hnone =>
      refine .last hnamed hnumber ?_ ?_
      · exact fun other hother otherRank hother' => absurd hother' (hnone other hother otherRank)
      · exact fun other hother hother' => absurd hother' (hnone other hother rank)
    | held first heldRank quality hfirst hfirstNamed hfirstQuality hrank hbest =>
      have hheldNumber : quality ≠ .nan := fun hnan =>
        hnumbers first (List.mem_append_left _ hfirst) (hnan ▸ hfirstQuality)
      rw [Preference.refine]
      split
      next hstays =>
        refine .held first heldRank quality (List.mem_append_left _ hfirst) hfirstNamed hfirstQuality
          (List.forall_mem_append.2 ⟨hrank, List.forall_mem_singleton.2 fun otherRank hother => ?_⟩)
          (List.forall_mem_append.2 ⟨hbest, List.forall_mem_singleton.2 fun hother q hq => ?_⟩)
        · rw [hnamed.unique hother]
          rcases hstays with hlower | ⟨hequal, -⟩
          · exact hlower.le
          · exact hequal.ge
        · rcases hstays with hlower | ⟨-, hatMost⟩
          · exact absurd (hnamed.unique hother) hlower.ne'
          · exact (range.hasQuality_iff q).1 hq ▸ hatMost
      next hgoes =>
        rw [not_or, not_lt, not_and] at hgoes
        obtain ⟨hnotBelow, hbetter⟩ := hgoes
        refine .last hnamed hnumber ?_ ?_
        · exact fun other hother otherRank hother' => (hrank other hother otherRank hother').trans hnotBelow
        · -- a range of the same rank is known not to surpass the one that was held
          intro other hother hother' q hq
          have hequal : heldRank = rank := le_antisymm hnotBelow (hrank other hother rank hother')
          have hothers : q.atMost quality = true := hbest other hother (hequal ▸ hother') q hq
          exact Binary.atMost_trans
            (fun hnan => hnumbers other (List.mem_append_left _ hother) (hnan ▸ hq)) hheldNumber hnumber
            hothers (Binary.atMost_of_not_atMost hnumber hheldNumber (hbetter hequal))

/-- What a format holds after some ranges. -/
def preference (format : BodyFormat) (ranges : List AcceptRange) : Option Preference :=
  ranges.foldl (fun held range => Preference.refine held (format.rank? range) range.quality) none

/-- The two preferences are refined side by side. -/
theorem foldl_refineBoth (ranges : List AcceptRange) (held : Option Preference × Option Preference) :
    ranges.foldl refineBoth held =
      (ranges.foldl (fun held range => Preference.refine held (rank? .text range) range.quality) held.1,
       ranges.foldl (fun held range => Preference.refine held (rank? .json range) range.quality) held.2) := by
  induction ranges generalizing held with
  | nil => rfl
  | cons range ranges ih => exact ih _

/-- What a format holds after all ranges is the best of them. -/
theorem best_preference (format : BodyFormat) (ranges : List RangeText)
    (hnumbers : ∀ range ∈ ranges, ¬ range.HasQuality .nan) :
    format.Best ranges (format.preference (ranges.map RangeText.reading)) := by
  -- The fold goes on from the left, so the induction takes ranges away at the right.
  induction ranges using List.reverseRecOn with
  | nil => exact .unnamed (List.forall_mem_nil _)
  | append_singleton ranges range ih =>
    have hbefore := ih fun other hother => hnumbers other (List.mem_append_left _ hother)
    have hbest := hbefore.refine range hnumbers
    rw [preference, List.map_append, List.foldl_append]
    exact hbest

/-- The quality of the best of some ranges is the one they give the format. -/
theorem Best.favoured (hheld : format.Best ranges held)
    (hnumbers : ∀ range ∈ ranges, ¬ range.HasQuality .nan) :
    ∃ magnitude, (Preference.qualityOf held).value? = some magnitude ∧ format.Favoured ranges magnitude := by
  cases hheld with
  | unnamed hnone =>
    refine ⟨_, ?_, .unnamed hnone⟩
    have hzero : zeroQuality = .finite false 0 (-149) := rfl
    simp [Preference.qualityOf, hzero, Binary.value?, Binary.rational]
  | held range rank quality hrange hnamed hquality hrank hbest =>
    have hnumber : quality ≠ .nan := fun hnan => hnumbers range hrange (hnan ▸ hquality)
    obtain ⟨magnitude, hvalue⟩ := Binary.exists_value_of_ne_nan hnumber
    refine ⟨magnitude, hvalue, .best range rank quality magnitude hrange hnamed hquality hvalue hrank ?_⟩
    intro other hother hother' q hq m hm
    exact (Binary.atMost_iff hm hvalue).1 (hbest other hother hother' q hq)

/-- Ranges give a format one quality only. -/
theorem Favoured.unique {m n : Magnitude} (hm : format.Favoured ranges m) (hn : format.Favoured ranges n) :
    m = n := by
  cases hm with
  | unnamed hnone =>
    cases hn with
    | unnamed => rfl
    | best range rank _ _ hrange hnamed => exact absurd hnamed (hnone range hrange rank)
  | best range rank quality _ hrange hnamed hquality hvalue hrank hbest =>
    cases hn with
    | unnamed hnone => exact absurd hnamed (hnone range hrange rank)
    | best other otherRank otherQuality _ hother hnamed' hquality' hvalue' hrank' hbest' =>
      have hequal : otherRank = rank :=
        le_antisymm (hrank other hother otherRank hnamed') (hrank' range hrange rank hnamed)
      subst hequal
      exact le_antisymm (hbest' range hrange hnamed quality hquality m hvalue)
        (hbest other hother hnamed' otherQuality hquality' n hvalue')

/-- The format that is chosen, by the two preferences. -/
theorem negotiate_eq_text_iff (accept : String) :
    negotiate (some accept) = .text ↔
      (Preference.qualityOf (preference .json (acceptRanges accept))).less
        (Preference.qualityOf (preference .text (acceptRanges accept))) = true := by
  simp [negotiate, foldl_refineBoth, preference]

/-- A text that says what is accepted spells one list of ranges. When none of their qualities is without
a number, the ranges give each format one quality, and plain text is chosen exactly when its quality is
the greater one. -/
theorem negotiate_by_quality (accept : String)
    (hnumbers : ∀ ranges, SpellsRanges accept.toList ranges →
      ∀ range ∈ ranges, ∀ quality, range.HasQuality quality → quality ≠ .nan) :
    ∃ ranges, (∀ others, SpellsRanges accept.toList others ↔ others = ranges) ∧
      ∃ text json,
        (∀ magnitude, BodyFormat.text.Favoured ranges magnitude ↔ magnitude = text) ∧
        (∀ magnitude, BodyFormat.json.Favoured ranges magnitude ↔ magnitude = json) ∧
        (negotiate (some accept) = .text ↔ json < text) := by
  have hspells := spellsRanges_iff accept.toList
  have hnumber : ∀ range ∈ writtenRanges accept.toList, ¬ range.HasQuality .nan :=
    fun range hrange hnan => hnumbers _ ((hspells _).2 rfl) range hrange .nan hnan rfl
  have hfavoured (format : BodyFormat) :
      ∃ magnitude, (Preference.qualityOf (format.preference (acceptRanges accept))).value? = some magnitude ∧
        format.Favoured (writtenRanges accept.toList) magnitude := by
    rw [acceptRanges_eq]
    exact (best_preference format _ hnumber).favoured hnumber
  obtain ⟨text, htext, htextFavoured⟩ := hfavoured .text
  obtain ⟨json, hjson, hjsonFavoured⟩ := hfavoured .json
  refine ⟨_, hspells, text, json, fun magnitude => ?_, fun magnitude => ?_, ?_⟩
  · exact ⟨fun h => h.unique htextFavoured, fun h => h ▸ htextFavoured⟩
  · exact ⟨fun h => h.unique hjsonFavoured, fun h => h ▸ hjsonFavoured⟩
  · rw [negotiate_eq_text_iff, Binary.less_iff hjson htext]

/-- A list that prefers plain text, with a quality that is not spelled right and blanks, capitals and a
range for everything. -/
theorem negotiate_by_quality_mixed :
    ∃ ranges, (∀ others, SpellsRanges "Text/Plain ;q=x;q= 0.5, */*;q=0.1".toList others ↔ others = ranges) ∧
      ∃ text json,
        (∀ magnitude, BodyFormat.text.Favoured ranges magnitude ↔ magnitude = text) ∧
        (∀ magnitude, BodyFormat.json.Favoured ranges magnitude ↔ magnitude = json) ∧
        (negotiate (some "Text/Plain ;q=x;q= 0.5, */*;q=0.1") = .text ↔ json < text) := by
  refine negotiate_by_quality "Text/Plain ;q=x;q= 0.5, */*;q=0.1" ?_
  intro ranges hranges range hrange quality hquality
  rw [(spellsRanges_iff _ _).1 hranges] at hrange
  rw [← (range.hasQuality_iff quality).1 hquality]
  have hread : ∀ range ∈ writtenRanges "Text/Plain ;q=x;q= 0.5, */*;q=0.1".toList,
      range.reading.quality ≠ .nan := by decide +kernel
  exact hread range hrange

end BodyFormat

end GracefulService.Http
