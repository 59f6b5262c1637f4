import GracefulService.Proofs.Preferences
import Mathlib.Data.List.Perm.Subperm

/-!
# When the order of ranges does not matter

Which ranges lead for a format does not depend on their order, and while the leading ones all have numbers
for qualities, neither does what the format is left with. A leading range without a number lets the order
decide: behind it any of the leading qualities can be the one that is left, and at the end it leaves none.
So the order does not matter exactly where all leading qualities are numbers, where the same ranges lead
for both formats, or where no order leaves plain text with more than JSON.
-/

namespace GracefulService.Http

open Number

namespace BodyFormat

/-- A quality that a format is left with in some order of the ranges: the one they give it, or, where a
leading range has no number for its quality, any of those that do. -/
inductive MayTake (format : BodyFormat) (ranges : List RangeText) : Magnitude → Prop
  /-- The quality that the ranges give the format. -/
  | favoured (magnitude : Magnitude) (hfavoured : format.Favoured ranges magnitude) :
      MayTake format ranges magnitude
  /-- The quality of a leading range that follows one without a number. -/
  | following (worthless range : RangeText) (quality : Binary) (magnitude : Magnitude)
      (hworthless : format.Leads ranges worthless) (hnan : worthless.HasQuality .nan)
      (hleads : format.Leads ranges range) (hquality : range.HasQuality quality)
      (hvalue : quality.value? = some magnitude) : MayTake format ranges magnitude

end BodyFormat

/-- The order of some ranges does not matter. -/
inductive OrderFree (ranges : List RangeText) : Prop
  /-- The leading ranges of both formats have numbers for their qualities. -/
  | numbers (hnumbers : ∀ format : BodyFormat, ∀ range, format.Leads ranges range → ¬ range.HasQuality .nan)
  /-- The same ranges lead for both formats. -/
  | together (range : RangeText) (htext : BodyFormat.text.Leads ranges range)
      (hjson : BodyFormat.json.Leads ranges range)
  /-- No order prefers plain text. -/
  | refused (hrefused : ∀ text json, BodyFormat.text.MayTake ranges text →
      BodyFormat.json.MayTake ranges json → text ≤ json)

namespace BodyFormat

variable {format : BodyFormat} {ranges others : List RangeText} {range : RangeText} {m : Magnitude}

/-! ## What does not depend on the order -/

/-- Which ranges lead depends on which ranges there are. -/
theorem Leads.congr (hsame : ∀ range, range ∈ ranges ↔ range ∈ others) (hleads : format.Leads ranges range) :
    format.Leads others range := by
  obtain ⟨rank, hnamed, hbound⟩ := hleads.foremost
  exact ⟨(hsame range).1 hleads.mem, rank, hnamed, fun other hother => hbound other ((hsame other).2 hother)⟩

/-- The quality that ranges give a format depends on which ranges there are. -/
theorem Favoured.congr (hsame : ∀ range, range ∈ ranges ↔ range ∈ others) (hfavoured : format.Favoured ranges m) :
    format.Favoured others m := by
  cases hfavoured with
  | unnamed hunnamed => exact .unnamed fun other hother => hunnamed other ((hsame other).2 hother)
  | best range rank quality _ hrange hnamed hquality hvalue hrank hbest =>
    exact .best range rank quality m ((hsame range).1 hrange) hnamed hquality hvalue
      (fun other hother => hrank other ((hsame other).2 hother))
      fun other hother => hbest other ((hsame other).2 hother)

/-- What a format may be left with depends on which ranges there are. -/
theorem MayTake.congr (hsame : ∀ range, range ∈ ranges ↔ range ∈ others) (hmay : format.MayTake ranges m) :
    format.MayTake others m := by
  cases hmay with
  | favoured _ hfavoured => exact .favoured m (hfavoured.congr hsame)
  | following worthless range quality _ hworthless hnan hleads hquality hvalue =>
    exact .following worthless range quality m (hworthless.congr hsame) hnan (hleads.congr hsame) hquality hvalue

/-- Where the leading ranges have numbers, a format is left with the quality the ranges give it. -/
theorem takes_iff_favoured (hnumbers : ∀ range, format.Leads ranges range → ¬ range.HasQuality .nan) :
    format.Takes ranges m ↔ format.Favoured ranges m := by
  constructor
  · intro htakes
    cases htakes with
    | unnamed hunnamed => exact .unnamed hunnamed
    | best before behind range quality _ hranges hlast _ hrange hleads hquality hvalue hbest =>
      obtain ⟨rank, hnamed, hbound⟩ := hleads.foremost
      have hbefore : before = [] := by
        rcases List.eq_nil_or_concat before with hnil | ⟨init, last, rfl⟩
        · exact hnil
        · obtain ⟨hlastLeads, hnan⟩ := hlast last (by simp)
          exact absurd hnan (hnumbers last hlastLeads)
      rw [hbefore, List.nil_append] at hranges
      refine .best range rank quality m hleads.mem hnamed hquality hvalue hbound fun other hother hotherNamed => ?_
      exact hbest other (hranges ▸ hother) ((hleads.leads_iff hnamed).2 ⟨hother, hotherNamed⟩)
  · intro hfavoured
    cases hfavoured with
    | unnamed hunnamed => exact .unnamed hunnamed
    | best range rank quality _ hrange hnamed hquality hvalue hrank hbest =>
      have hleads : format.Leads ranges range := ⟨hrange, rank, hnamed, hrank⟩
      refine .best [] ranges range quality m rfl (by simp) (fun other _ => hnumbers other) hrange hleads
        hquality hvalue fun other hother hotherLeads => ?_
      exact hbest other hother ((hleads.leads_iff hnamed).1 hotherLeads).2

/-- What a format is left with is among what it may be left with. -/
theorem Takes.mayTake (htakes : format.Takes ranges m) : format.MayTake ranges m := by
  by_cases hnumbers : ∀ range, format.Leads ranges range → ¬ range.HasQuality .nan
  · exact .favoured m ((takes_iff_favoured hnumbers).1 htakes)
  · obtain ⟨worthless, hworthless, hnan⟩ : ∃ range, format.Leads ranges range ∧ range.HasQuality .nan := by
      simpa using hnumbers
    cases htakes with
    | unnamed hunnamed => exact .favoured 0 (.unnamed hunnamed)
    | best before behind range quality _ hranges hlast _ hrange hleads hquality hvalue hbest =>
      exact .following worthless range quality m hworthless hnan hleads hquality hvalue

/-! ## The same ranges for both formats -/

/-- Only the range for everything names both formats. -/
theorem NamedBy.both {textRank jsonRank : Nat} (htext : BodyFormat.text.NamedBy range textRank)
    (hjson : BodyFormat.json.NamedBy range jsonRank) : textRank = 0 ∧ jsonRank = 0 := by
  have hdiffer : ∀ {a b : String}, range.Names a → range.Names b → a.toList = b.toList :=
    fun ha hb => ha.symm.trans hb
  cases htext with
  | exactly htext => cases hjson <;> exact absurd (hdiffer htext ‹_›) (by decide)
  | byFamily htext => cases hjson <;> exact absurd (hdiffer htext ‹_›) (by decide)
  | amongAll htext =>
    cases hjson with
    | exactly hjson => exact absurd (hdiffer htext hjson) (by decide)
    | byFamily hjson => exact absurd (hdiffer htext hjson) (by decide)
    | amongAll hjson => exact ⟨rfl, rfl⟩

/-- The range for everything names every format. -/
theorem namedBy_zero_iff : format.NamedBy range 0 ↔ range.Names "*/*" := by
  constructor
  · rintro ⟨⟩
    assumption
  · exact .amongAll

/-- Where one range leads for both formats, every range names both in the same way. -/
theorem named_together (htext : BodyFormat.text.Leads ranges range) (hjson : BodyFormat.json.Leads ranges range)
    (format other : BodyFormat) : ∀ named ∈ ranges, ∀ rank, format.NamedBy named rank → other.NamedBy named rank := by
  have hbounded : ∀ format : BodyFormat, ∀ named ∈ ranges, ∀ rank, format.NamedBy named rank → rank = 0 := by
    obtain ⟨textRank, htextNamed, htextBound⟩ := htext.foremost
    obtain ⟨jsonRank, hjsonNamed, hjsonBound⟩ := hjson.foremost
    obtain ⟨rfl, rfl⟩ := htextNamed.both hjsonNamed
    rintro (_ | _) named hmem rank hnamed
    · exact Nat.le_zero.1 (htextBound named hmem rank hnamed)
    · exact Nat.le_zero.1 (hjsonBound named hmem rank hnamed)
  intro named hmem rank hnamed
  obtain rfl := hbounded format named hmem rank hnamed
  exact namedBy_zero_iff.2 (namedBy_zero_iff.1 hnamed)

/-- Where one range leads for both formats, the one is left with what the other is left with. -/
theorem Takes.together (htext : BodyFormat.text.Leads ranges range) (hjson : BodyFormat.json.Leads ranges range)
    (htakes : BodyFormat.text.Takes ranges m) : BodyFormat.json.Takes ranges m := by
  have hnames := named_together htext hjson
  have hleads {format other : BodyFormat} {named : RangeText} (h : format.Leads ranges named) :
      other.Leads ranges named := by
    obtain ⟨rank, hnamed, hbound⟩ := h.foremost
    exact ⟨h.mem, rank, hnames _ _ named h.mem rank hnamed, fun next hnext nextRank hnextNamed =>
      hbound next hnext nextRank (hnames _ _ next hnext nextRank hnextNamed)⟩
  cases htakes with
  | unnamed hunnamed =>
    exact .unnamed fun named hmem rank hnamed => hunnamed named hmem rank (hnames _ _ named hmem rank hnamed)
  | best before behind best quality _ hranges hlast hnumbers hbest hbestLeads hquality hvalue hbestOf =>
    exact .best before behind best quality m hranges
      (fun last hmem => ⟨hleads (hlast last hmem).1, (hlast last hmem).2⟩)
      (fun named hmem hnamed => hnumbers named hmem (hleads hnamed)) hbest (hleads hbestLeads) hquality hvalue
      fun named hmem hnamed => hbestOf named hmem (hleads hnamed)

/-! ## Orders that matter -/

/-- Some of the ranges can be moved to the end. -/
theorem exists_perm_ending {last : List RangeText} (hnodup : last.Nodup) (hlast : ∀ range ∈ last, range ∈ ranges) :
    ∃ before, (before ++ last).Perm ranges := by
  obtain ⟨chosen, hchosen, hsublist⟩ := List.subperm_of_subset hnodup hlast
  obtain ⟨before, hperm⟩ := hsublist.exists_perm_append
  exact ⟨before, List.perm_append_comm.trans ((hchosen.symm.append_right before).trans hperm.symm)⟩

/-- A leading range without a number leaves none, where it comes last. -/
theorem not_takes_of_ending {before : List RangeText} {worthless : RangeText}
    (hworthless : format.Leads ranges worthless) (hnan : worthless.HasQuality .nan)
    (hperm : (before ++ [worthless]).Perm ranges) : ¬ format.Takes (before ++ [worthless]) m := by
  intro htakes
  have hleads : format.Leads (before ++ [worthless]) worthless := hworthless.congr fun range => hperm.mem_iff.symm
  obtain ⟨rank, hheld⟩ := foldl_weigh_nan hleads hnan (List.forall_mem_nil _)
  have hvalue := htakes.value
  rw [preference_reading, hheld] at hvalue
  cases hvalue

/-- A quality with a value is a number. -/
theorem not_nan_of_value {quality : Binary} (hquality : range.HasQuality quality)
    (hvalue : quality.value? = some m) : ¬ range.HasQuality .nan := by
  intro hnan
  rw [← (range.hasQuality_iff quality).1 hquality, (range.hasQuality_iff .nan).1 hnan] at hvalue
  cases hvalue

/-- Where a range leads, a format may be left with nothing but the quality of a leading range. -/
theorem MayTake.of_leading {first : RangeText} (hmay : format.MayTake ranges m) (hfirst : format.Leads ranges first) :
    ∃ range quality, format.Leads ranges range ∧ range.HasQuality quality ∧ quality.value? = some m := by
  cases hmay with
  | following _ range quality _ _ _ hleads hquality hvalue => exact ⟨range, quality, hleads, hquality, hvalue⟩
  | favoured _ hfavoured =>
    cases hfavoured with
    | unnamed hunnamed =>
      obtain ⟨rank, hnamed, -⟩ := hfirst.foremost
      exact absurd hnamed (hunnamed first hfirst.mem rank)
    | best range rank quality _ hrange hnamed hquality hvalue hrank =>
      exact ⟨range, quality, ⟨hrange, rank, hnamed, hrank⟩, hquality, hvalue⟩

/-- What a format may be left with, it is left with whenever certain of its leading ranges come behind all
others of them. -/
theorem MayTake.exists_ending (hmay : format.MayTake ranges m) :
    ∃ last : List RangeText, last.Nodup ∧ (∀ range ∈ last, format.Leads ranges range)
      ∧ ∀ before behind, (before ++ (last ++ behind)).Perm ranges →
        (∀ range ∈ behind, ¬ format.Leads ranges range) → format.Takes (before ++ (last ++ behind)) m := by
  by_cases hnumbers : ∀ range, format.Leads ranges range → ¬ range.HasQuality .nan
  · refine ⟨[], List.nodup_nil, List.forall_mem_nil _, fun before behind hperm _ => ?_⟩
    have hsame : ∀ range, range ∈ ranges ↔ range ∈ before ++ ([] ++ behind) := fun range => hperm.mem_iff.symm
    refine (takes_iff_favoured fun range hleads => ?_).2 ?_
    · exact hnumbers range (hleads.congr fun range => (hsame range).symm)
    · cases hmay with
      | favoured _ hfavoured => exact hfavoured.congr hsame
      | following worthless _ _ _ hworthless hnan => exact absurd hnan (hnumbers worthless hworthless)
  · obtain ⟨worthless, hworthless, hnan⟩ : ∃ range, format.Leads ranges range ∧ range.HasQuality .nan := by
      simpa using hnumbers
    obtain ⟨range, quality, hleads, hquality, hvalue⟩ := hmay.of_leading hworthless
    have hdiffer : worthless ≠ range := by
      rintro rfl
      exact not_nan_of_value hquality hvalue hnan
    refine ⟨[worthless, range], by simp [hdiffer], by simp [hworthless, hleads], ?_⟩
    intro before behind hperm hbehind
    have hsame : ∀ other, other ∈ ranges ↔ other ∈ before ++ ([worthless, range] ++ behind) :=
      fun other => hperm.mem_iff.symm
    have honly : ∀ other ∈ range :: behind,
        format.Leads (before ++ ([worthless, range] ++ behind)) other → other = range := by
      intro other hother hotherLeads
      rcases List.mem_cons.1 hother with heq | hother
      · exact heq
      · exact absurd (hotherLeads.congr fun range => (hsame range).symm) (hbehind other hother)
    refine .best (before ++ [worthless]) (range :: behind) range quality m (by simp) ?_ ?_ (by simp)
      (hleads.congr hsame) hquality hvalue ?_
    · intro last hlast
      obtain rfl : worthless = last := by simpa using hlast
      exact ⟨hworthless.congr hsame, hnan⟩
    · intro other hother hotherLeads
      rw [honly other hother hotherLeads]
      exact not_nan_of_value hquality hvalue
    · intro other hother hotherLeads q hq n hn
      rw [honly other hother hotherLeads] at hq
      rw [← (range.hasQuality_iff q).1 hq, (range.hasQuality_iff quality).1 hquality, hvalue] at hn
      exact (Option.some.inj hn).ge

/-- Where no range leads for both formats, what each may be left with, both are left with in one order. -/
theorem exists_perm_takes {text json : Magnitude} (htext : BodyFormat.text.MayTake ranges text)
    (hjson : BodyFormat.json.MayTake ranges json)
    (hapart : ∀ range, BodyFormat.text.Leads ranges range → ¬ BodyFormat.json.Leads ranges range) :
    ∃ reordered : List RangeText, reordered.Perm ranges ∧ BodyFormat.text.Takes reordered text
      ∧ BodyFormat.json.Takes reordered json := by
  obtain ⟨textLast, htextNodup, htextLeads, htextTakes⟩ := htext.exists_ending
  obtain ⟨jsonLast, hjsonNodup, hjsonLeads, hjsonTakes⟩ := hjson.exists_ending
  have hnodup : (textLast ++ jsonLast).Nodup :=
    List.nodup_append.2 ⟨htextNodup, hjsonNodup, fun range hrange other hother heq =>
      hapart range (htextLeads range hrange) (heq ▸ hjsonLeads other hother)⟩
  obtain ⟨before, hperm⟩ := exists_perm_ending hnodup (List.forall_mem_append.2
    ⟨fun range hrange => (htextLeads range hrange).mem, fun range hrange => (hjsonLeads range hrange).mem⟩)
  refine ⟨_, hperm, htextTakes before jsonLast hperm fun range hrange hleads => ?_, ?_⟩
  · exact hapart range hleads (hjsonLeads range hrange)
  · have hending : before ++ (textLast ++ jsonLast) = (before ++ textLast) ++ (jsonLast ++ []) := by simp
    rw [hending] at hperm ⊢
    exact hjsonTakes (before ++ textLast) [] hperm (List.forall_mem_nil _)

/-! ## The order and the choice -/

/-- Ranges that a text spells are spelled in any other order too. -/
theorem exists_spelling {accept : List Char} {reordered : List RangeText} (hspells : SpellsRanges accept ranges)
    (hperm : reordered.Perm ranges) : ∃ other : String, SpellsRanges other.toList reordered := by
  refine ⟨String.ofList ([','].intercalate (reordered.map fun range => [';'].intercalate range.parts)), ?_, ?_, ?_⟩
  · rintro rfl
    exact hspells.some_range hperm.symm.eq_nil
  · exact String.toList_ofList
  · exact fun range hrange => hspells.apart range (hperm.mem_iff.1 hrange)

/-- Of two formats it is enough to know which one is chosen when. -/
theorem eq_of_eq_text_iff {a b : BodyFormat} (hiff : a = .text ↔ b = .text) : a = b := by
  cases a <;> cases b <;> simp_all

/-- Where a leading range has no number, some order does not choose plain text. -/
theorem exists_order_against {accept : List Char} {worthless : RangeText} (hspells : SpellsRanges accept ranges)
    (hworthless : format.Leads ranges worthless) (hnan : worthless.HasQuality .nan) :
    ∃ (other : String) (reordered : List RangeText), SpellsRanges other.toList reordered
      ∧ reordered.Perm ranges ∧ negotiate (some other) ≠ .text := by
  obtain ⟨before, hperm⟩ :=
    exists_perm_ending (by simp : [worthless].Nodup) (List.forall_mem_singleton.2 hworthless.mem)
  obtain ⟨other, hother⟩ := exists_spelling hspells hperm
  refine ⟨other, _, hother, hperm, fun hchosen => ?_⟩
  obtain ⟨text, json, htext, hjson, -⟩ := (negotiate_eq_text_iff_takes hother).1 hchosen
  cases format with
  | text => exact not_takes_of_ending hworthless hnan hperm htext
  | json => exact not_takes_of_ending hworthless hnan hperm hjson

/-- Where no range leads for both formats and plain text may be left with more than JSON may, some order
chooses plain text. -/
theorem exists_order_for {accept : List Char} {text json : Magnitude} (hspells : SpellsRanges accept ranges)
    (htext : BodyFormat.text.MayTake ranges text) (hjson : BodyFormat.json.MayTake ranges json)
    (hapart : ∀ range, BodyFormat.text.Leads ranges range → ¬ BodyFormat.json.Leads ranges range)
    (hless : json < text) :
    ∃ (other : String) (reordered : List RangeText), SpellsRanges other.toList reordered
      ∧ reordered.Perm ranges ∧ negotiate (some other) = .text := by
  obtain ⟨reordered, hperm, htextTakes, hjsonTakes⟩ := exists_perm_takes htext hjson hapart
  obtain ⟨other, hother⟩ := exists_spelling hspells hperm
  exact ⟨other, reordered, hother, hperm,
    (negotiate_eq_text_iff_takes hother).2 ⟨text, json, htextTakes, hjsonTakes, hless⟩⟩

/-- Where the order does not matter, plain text is left with more than JSON in every order or in none. -/
theorem prefers_iff_of_orderFree {reordered : List RangeText} (hfree : OrderFree ranges)
    (hsame : ∀ range, range ∈ ranges ↔ range ∈ reordered) :
    (∃ text json, BodyFormat.text.Takes reordered text ∧ BodyFormat.json.Takes reordered json ∧ json < text)
      ↔ ∃ text json, BodyFormat.text.Takes ranges text ∧ BodyFormat.json.Takes ranges json ∧ json < text := by
  have hback : ∀ range, range ∈ reordered ↔ range ∈ ranges := fun range => (hsame range).symm
  cases hfree with
  | numbers hnumbers =>
    have htakes (format : BodyFormat) (m : Magnitude) : format.Takes reordered m ↔ format.Takes ranges m := by
      rw [takes_iff_favoured (hnumbers format),
        takes_iff_favoured fun range hleads => hnumbers format range (hleads.congr hback)]
      exact ⟨Favoured.congr hback, Favoured.congr hsame⟩
    simp only [htakes]
  | together range htext hjson =>
    refine iff_of_false ?_ ?_
    · rintro ⟨text, json, htextTakes, hjsonTakes, hless⟩
      have hequal := (htextTakes.together (htext.congr hsame) (hjson.congr hsame)).unique hjsonTakes
      exact absurd hless hequal.not_gt
    · rintro ⟨text, json, htextTakes, hjsonTakes, hless⟩
      exact absurd hless ((htextTakes.together htext hjson).unique hjsonTakes).not_gt
  | refused hrefused =>
    refine iff_of_false ?_ ?_
    · rintro ⟨text, json, htextTakes, hjsonTakes, hless⟩
      have hle := hrefused text json (htextTakes.mayTake.congr hback) (hjsonTakes.mayTake.congr hback)
      exact absurd hless hle.not_gt
    · rintro ⟨text, json, htextTakes, hjsonTakes, hless⟩
      exact absurd hless (hrefused text json htextTakes.mayTake hjsonTakes.mayTake).not_gt

/-- The format that is chosen is the same for every order of the ranges exactly when their order does not
matter. -/
theorem negotiate_reordered_iff (accept : String) (ranges : List RangeText)
    (hspells : SpellsRanges accept.toList ranges) :
    (∀ (other : String) (reordered : List RangeText), SpellsRanges other.toList reordered →
        reordered.Perm ranges → negotiate (some other) = negotiate (some accept))
      ↔ OrderFree ranges := by
  constructor
  · intro hsame
    by_cases hnumbers : ∀ format : BodyFormat, ∀ range, format.Leads ranges range → ¬ range.HasQuality .nan
    · exact .numbers hnumbers
    by_cases hapart : ∀ range, BodyFormat.text.Leads ranges range → ¬ BodyFormat.json.Leads ranges range
    · refine .refused fun text json htext hjson => ?_
      by_contra hprefers
      obtain ⟨format, worthless, hworthless, hnan⟩ :
          ∃ format : BodyFormat, ∃ range, format.Leads ranges range ∧ range.HasQuality .nan := by
        simpa using hnumbers
      obtain ⟨one, _, hone, honePerm, hchosen⟩ :=
        exists_order_for hspells htext hjson hapart (not_le.1 hprefers)
      obtain ⟨other, _, hother, hotherPerm, hnotChosen⟩ := exists_order_against hspells hworthless hnan
      rw [hsame one _ hone honePerm] at hchosen
      rw [hsame other _ hother hotherPerm] at hnotChosen
      exact hnotChosen hchosen
    · obtain ⟨range, htext, hjson⟩ :
          ∃ range, BodyFormat.text.Leads ranges range ∧ BodyFormat.json.Leads ranges range := by
        simpa using hapart
      exact .together range htext hjson
  · intro hfree other reordered hother hperm
    apply eq_of_eq_text_iff
    rw [negotiate_eq_text_iff_takes hother, negotiate_eq_text_iff_takes hspells]
    exact prefers_iff_of_orderFree hfree fun range => hperm.mem_iff.symm

/-- A quality without a number among less specific ranges does not let the order matter. -/
theorem negotiate_reordered_iff_outranked :
    let ranges := writtenRanges "text/plain;q=0.9,text/*;q=nan,application/json;q=0.5".toList
    SpellsRanges "text/plain;q=0.9,text/*;q=nan,application/json;q=0.5".toList ranges
      ∧ ∀ (other : String) (reordered : List RangeText), SpellsRanges other.toList reordered →
        reordered.Perm ranges →
        negotiate (some other) = negotiate (some "text/plain;q=0.9,text/*;q=nan,application/json;q=0.5") := by
  intro ranges
  have hspells := (spellsRanges_iff _ ranges).2 rfl
  refine ⟨hspells, (negotiate_reordered_iff _ ranges hspells).2 (.numbers fun format range hleads hnan => ?_)⟩
  have hexact : ∀ format : BodyFormat, ∃ first ∈ ranges, format.rank? first.reading = some 2 := by
    rintro (_ | _) <;> decide +kernel
  have hnumbers : ∀ format : BodyFormat, ∀ range ∈ ranges, format.rank? range.reading = some 2 →
      range.reading.quality ≠ .nan := by
    rintro (_ | _) <;> decide +kernel
  obtain ⟨first, hfirst, hrank⟩ := hexact format
  obtain ⟨rank, hnamed, hbound⟩ := hleads.foremost
  have hatLeast : 2 ≤ rank := hbound first hfirst 2 ((rank?_eq_some_iff format first 2).1 hrank)
  have htop : rank = 2 := by
    cases hnamed <;> omega
  exact hnumbers format range hleads.mem ((rank?_eq_some_iff format range 2).2 (htop ▸ hnamed))
    ((range.hasQuality_iff .nan).1 hnan)

/-- The same two ranges, in either order, with a quality that is no number: two formats. -/
theorem negotiate_reordered_apart :
    (∃ ranges reordered : List RangeText, SpellsRanges "text/plain;q=nan,text/plain;q=0.5".toList ranges
        ∧ SpellsRanges "text/plain;q=0.5,text/plain;q=nan".toList reordered ∧ reordered.Perm ranges)
      ∧ negotiate (some "text/plain;q=nan,text/plain;q=0.5") = .text
      ∧ negotiate (some "text/plain;q=0.5,text/plain;q=nan") = .json := by
  refine ⟨⟨_, _, (spellsRanges_iff _ _).2 rfl, (spellsRanges_iff _ _).2 rfl, by decide +kernel⟩, ?_, ?_⟩ <;>
    decide +kernel

end BodyFormat

end GracefulService.Http
