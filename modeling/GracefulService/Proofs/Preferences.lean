import GracefulService.Proofs.Negotiation
import Mathlib.Data.List.DropRight

/-!
# What a format is left with

A quality need not be a number, and one that is none compares to nothing: it replaces whatever was held,
and whatever follows replaces it. So each format is left with the best of its most specific ranges behind
the last of them whose quality is no number. This describes the choice for every list of ranges, and with
it to whom plain text is sent: to clients that accept it, unless JSON is left with less than nothing.
-/

namespace GracefulService.Http

open Number

namespace BodyFormat

/-- A range leads for a format: none of the ranges names the format more specifically. -/
structure Leads (format : BodyFormat) (ranges : List RangeText) (range : RangeText) : Prop where
  mem : range ∈ ranges
  foremost : ∃ rank, format.NamedBy range rank
    ∧ ∀ other ∈ ranges, ∀ otherRank, format.NamedBy other otherRank → otherRank ≤ rank

/-- The quality that a format is left with: the best of its leading ranges behind the last one whose
quality is no number, or zero where no range names the format. Where nothing leads behind that last one,
there is none. -/
inductive Takes (format : BodyFormat) (ranges : List RangeText) : Magnitude → Prop
  /-- No range names the format. -/
  | unnamed (hunnamed : ∀ range ∈ ranges, ∀ rank, ¬ format.NamedBy range rank) : Takes format ranges 0
  /-- A leading range that no leading range surpasses behind the last one without a number. -/
  | best (before behind : List RangeText) (range : RangeText) (quality : Binary) (magnitude : Magnitude)
      (hranges : ranges = before ++ behind)
      (hlast : ∀ last ∈ before.getLast?, format.Leads ranges last ∧ last.HasQuality .nan)
      (hnumbers : ∀ other ∈ behind, format.Leads ranges other → ¬ other.HasQuality .nan)
      (hrange : range ∈ behind) (hleads : format.Leads ranges range)
      (hquality : range.HasQuality quality) (hvalue : quality.value? = some magnitude)
      (hbest : ∀ other ∈ behind, format.Leads ranges other →
        ∀ q, other.HasQuality q → ∀ m, q.value? = some m → m ≤ magnitude) :
      Takes format ranges magnitude

/-- A range accepts a format: it names the format, with a quality above zero. -/
def Accepts (format : BodyFormat) (range : RangeText) : Prop :=
  (∃ rank, format.NamedBy range rank)
    ∧ ∃ quality magnitude, range.HasQuality quality ∧ quality.value? = some magnitude ∧ 0 < magnitude

/-! ## One more range -/

/-- The preference of a format after one more range. -/
def weigh (format : BodyFormat) (held : Option Preference) (range : RangeText) : Option Preference :=
  Preference.refine held (format.rank? range.reading) range.reading.quality

/-- A preference gives way to every range of a rank: there is none yet, it has a lower rank, or it has
this rank and its quality is no number. -/
def GivesWay (held : Option Preference) (rank : Nat) : Prop :=
  ∀ preference ∈ held, preference.rank < rank ∨ preference = ⟨rank, .nan⟩

variable {format : BodyFormat} {ranges : List RangeText} {range : RangeText}
  {held : Option Preference} {rank : Nat} {m : Magnitude}

/-- The preference for a format is found range by range, among their readings. -/
theorem preference_reading (format : BodyFormat) (ranges : List RangeText) :
    format.preference (ranges.map RangeText.reading) = ranges.foldl format.weigh none := by
  rw [preference, List.foldl_map]
  rfl

/-- The reader gives a range no rank exactly when it does not name the format. -/
theorem rank?_eq_none_iff (format : BodyFormat) (range : RangeText) :
    format.rank? range.reading = none ↔ ∀ rank, ¬ format.NamedBy range rank := by
  rw [Option.eq_none_iff_forall_ne_some]
  exact forall_congr' fun rank => not_congr (rank?_eq_some_iff format range rank)

/-- A range that does not name the format changes nothing. -/
theorem weigh_unnamed (hunnamed : ∀ rank, ¬ format.NamedBy range rank) : format.weigh held range = held := by
  have hrank := (rank?_eq_none_iff format range).2 hunnamed
  simp [weigh, hrank, Preference.refine]

/-- Nothing gives way to everything. -/
theorem givesWay_none (rank : Nat) : GivesWay none rank := by
  rintro _ ⟨⟩

/-- A range of a rank stands for what gave way to it. -/
theorem weigh_givesWay (hnamed : format.NamedBy range rank) (hgives : GivesWay held rank) :
    format.weigh held range = some ⟨rank, range.reading.quality⟩ := by
  have hrank := (rank?_eq_some_iff format range rank).2 hnamed
  cases held with
  | none => simp [weigh, hrank, Preference.refine]
  | some preference =>
    rcases hgives preference rfl with hlower | rfl
    · simp [weigh, hrank, Preference.refine, hlower.ne, hlower.not_gt]
    · have hnever : range.reading.quality.atMost .nan = false := by
        cases range.reading.quality <;> rfl
      simp [weigh, hrank, Preference.refine, hnever]

/-- A range of a lower rank leaves what is held. -/
theorem weigh_lower {preference : Preference} (hnamed : format.NamedBy range rank)
    (hlower : rank < preference.rank) : format.weigh (some preference) range = some preference := by
  have hrank := (rank?_eq_some_iff format range rank).2 hnamed
  simp [weigh, hrank, Preference.refine, hlower]

/-- What is held stays, or the range stands for it. -/
theorem weigh_cases (format : BodyFormat) (held : Option Preference) (range : RangeText) :
    format.weigh held range = held
      ∨ ∃ rank, format.NamedBy range rank ∧ format.weigh held range = some ⟨rank, range.reading.quality⟩ := by
  cases hrank : format.rank? range.reading with
  | none => exact .inl (by simp [weigh, hrank, Preference.refine])
  | some rank =>
    have hnamed := (rank?_eq_some_iff format range rank).1 hrank
    cases held with
    | none => exact .inr ⟨rank, hnamed, by simp [weigh, hrank, Preference.refine]⟩
    | some preference =>
      by_cases hstays : rank < preference.rank
        ∨ (preference.rank = rank ∧ range.reading.quality.atMost preference.quality = true)
      · exact .inl (by simp only [weigh, hrank, Preference.refine, if_pos hstays])
      · exact .inr ⟨rank, hnamed, by simp only [weigh, hrank, Preference.refine, if_neg hstays]⟩

/-- A rank that bounds what is held and the next range bounds what is held then. -/
theorem weigh_rank_le (hheld : ∀ preference ∈ held, preference.rank ≤ rank)
    (hrange : ∀ other, format.NamedBy range other → other ≤ rank) :
    ∀ preference ∈ format.weigh held range, preference.rank ≤ rank := by
  rcases weigh_cases format held range with hstays | ⟨other, hnamed, hgoes⟩
  · rw [hstays]
    exact hheld
  · rw [hgoes]
    rintro _ ⟨⟩
    exact hrange other hnamed

/-- A range of the rank that is held leaves this rank held. -/
theorem weigh_equal (quality : Binary) (hnamed : format.NamedBy range rank) :
    ∃ better, format.weigh (some ⟨rank, quality⟩) range = some ⟨rank, better⟩ := by
  rcases weigh_cases format (some ⟨rank, quality⟩) range with hstays | ⟨other, hother, hgoes⟩
  · exact ⟨quality, hstays⟩
  · exact ⟨_, by rw [hgoes, hnamed.unique hother]⟩

/-- A range without a number replaces all that its rank bounds. -/
theorem weigh_nan (hnamed : format.NamedBy range rank) (hnan : range.HasQuality .nan)
    (hheld : ∀ preference ∈ held, preference.rank ≤ rank) :
    format.weigh held range = some ⟨rank, .nan⟩ := by
  have hrank := (rank?_eq_some_iff format range rank).2 hnamed
  have hquality := (range.hasQuality_iff .nan).1 hnan
  cases held with
  | none => simp [weigh, hrank, hquality, Preference.refine]
  | some preference =>
    have hnot : ¬ rank < preference.rank := (hheld preference rfl).not_gt
    simp [weigh, hrank, hquality, Preference.refine, hnot, Binary.atMost, Binary.less, Binary.same]

/-- What gives way to a rank does so after a range of a lower rank, or of none. -/
theorem GivesWay.weigh (hgives : GivesWay held rank) (hbelow : ∀ other, format.NamedBy range other → other < rank) :
    GivesWay (format.weigh held range) rank := by
  rcases weigh_cases format held range with hstays | ⟨other, hother, hgoes⟩
  · rw [hstays]
    exact hgives
  · rw [hgoes]
    rintro _ ⟨⟩
    exact .inl (hbelow other hother)

/-! ## All ranges -/

/-- The ranges that name a format with a rank. -/
def namedWith (format : BodyFormat) (rank : Nat) (ranges : List RangeText) : List RangeText :=
  ranges.filter fun range => format.rank? range.reading = some rank

/-- The ranges that name a format at a rank are those in the list that do. -/
theorem mem_namedWith : range ∈ format.namedWith rank ranges ↔ range ∈ ranges ∧ format.NamedBy range rank := by
  simp [namedWith, rank?_eq_some_iff]

/-- A range that names a format at a rank is the first of those that do. -/
theorem namedWith_cons_of_named (hnamed : format.NamedBy range rank) :
    format.namedWith rank (range :: ranges) = range :: format.namedWith rank ranges := by
  simp [namedWith, (rank?_eq_some_iff format range rank).2 hnamed]

/-- A range that does not name a format at a rank is passed over. -/
theorem namedWith_cons_of_not_named (hnamed : ¬ format.NamedBy range rank) :
    format.namedWith rank (range :: ranges) = format.namedWith rank ranges := by
  simp [namedWith, rank?_eq_some_iff, hnamed]

/-- Ranges that do not name the format change nothing. -/
theorem foldl_weigh_unnamed (hunnamed : ∀ range ∈ ranges, ∀ rank, ¬ format.NamedBy range rank) :
    ranges.foldl format.weigh held = held := by
  induction ranges with
  | nil => rfl
  | cons range ranges ih =>
    rw [List.foldl_cons, weigh_unnamed (hunnamed range (List.mem_cons_self ..))]
    exact ih fun other hother => hunnamed other (List.mem_cons_of_mem _ hother)

/-- A rank that bounds what is held and all ranges bounds what is held in the end. -/
theorem foldl_weigh_rank_le (hheld : ∀ preference ∈ held, preference.rank ≤ rank)
    (hbound : ∀ range ∈ ranges, ∀ other, format.NamedBy range other → other ≤ rank) :
    ∀ preference ∈ ranges.foldl format.weigh held, preference.rank ≤ rank := by
  induction ranges generalizing held with
  | nil => exact hheld
  | cons range ranges ih =>
    rw [List.forall_mem_cons] at hbound
    exact ih (weigh_rank_le hheld hbound.1) hbound.2

/-- Where the greatest rank is held, only the ranges of this rank count. -/
theorem foldl_weigh_equal (quality : Binary)
    (hbound : ∀ range ∈ ranges, ∀ other, format.NamedBy range other → other ≤ rank) :
    ranges.foldl format.weigh (some ⟨rank, quality⟩)
      = (format.namedWith rank ranges).foldl format.weigh (some ⟨rank, quality⟩) := by
  induction ranges generalizing quality with
  | nil => rfl
  | cons range ranges ih =>
    rw [List.forall_mem_cons] at hbound
    by_cases hnamed : format.NamedBy range rank
    · obtain ⟨better, hbetter⟩ := weigh_equal quality hnamed
      rw [namedWith_cons_of_named hnamed, List.foldl_cons, List.foldl_cons, hbetter]
      exact ih better hbound.2
    · have hstays : format.weigh (some ⟨rank, quality⟩) range = some ⟨rank, quality⟩ := by
        by_cases hsome : ∃ other, format.NamedBy range other
        · obtain ⟨other, hother⟩ := hsome
          have hlower : other < rank :=
            lt_of_le_of_ne (hbound.1 other hother) fun heq => hnamed (heq ▸ hother)
          exact weigh_lower hother hlower
        · exact weigh_unnamed (not_exists.1 hsome)
      rw [namedWith_cons_of_not_named hnamed, List.foldl_cons, hstays]
      exact ih quality hbound.2

/-- Where the greatest rank is reached and all before gave way to it, only the ranges of this rank count. -/
theorem foldl_weigh_givesWay (hgives : GivesWay held rank)
    (hbound : ∀ range ∈ ranges, ∀ other, format.NamedBy range other → other ≤ rank)
    (hreached : ∃ range ∈ ranges, format.NamedBy range rank) :
    ranges.foldl format.weigh held = (format.namedWith rank ranges).foldl format.weigh none := by
  induction ranges generalizing held with
  | nil => simp at hreached
  | cons range ranges ih =>
    rw [List.forall_mem_cons] at hbound
    by_cases hnamed : format.NamedBy range rank
    · have hfirst : format.weigh none range = some ⟨rank, range.reading.quality⟩ :=
        weigh_givesWay hnamed (givesWay_none rank)
      rw [namedWith_cons_of_named hnamed, List.foldl_cons, List.foldl_cons, weigh_givesWay hnamed hgives, hfirst]
      exact foldl_weigh_equal _ hbound.2
    · have hbelow : ∀ other, format.NamedBy range other → other < rank := fun other hother =>
        lt_of_le_of_ne (hbound.1 other hother) fun heq => hnamed (heq ▸ hother)
      rw [namedWith_cons_of_not_named hnamed, List.foldl_cons]
      refine ih (hgives.weigh hbelow) hbound.2 ?_
      obtain ⟨reaching, hmem, hreaches⟩ := hreached
      rcases List.mem_cons.1 hmem with rfl | hmem
      · exact absurd hreaches hnamed
      · exact ⟨reaching, hmem, hreaches⟩

/-! ## The leading ranges -/

variable {first : RangeText} {before behind : List RangeText}

/-- The rank of a leading range bounds all others. -/
theorem Leads.bounds (hleads : format.Leads ranges first) (hnamed : format.NamedBy first rank) :
    ∀ other ∈ ranges, ∀ otherRank, format.NamedBy other otherRank → otherRank ≤ rank := by
  obtain ⟨greatest, hgreatest, hbound⟩ := hleads.foremost
  rw [hnamed.unique hgreatest] at hbound
  exact hbound

/-- With one leading range, the others are those of its rank. -/
theorem Leads.leads_iff (hleads : format.Leads ranges first) (hnamed : format.NamedBy first rank) :
    format.Leads ranges range ↔ range ∈ ranges ∧ format.NamedBy range rank := by
  constructor
  · intro hrange
    obtain ⟨greatest, hgreatest, hbound⟩ := hrange.foremost
    have hequal : greatest = rank :=
      le_antisymm (hleads.bounds hnamed range hrange.mem greatest hgreatest) (hbound first hleads.mem rank hnamed)
    exact ⟨hrange.mem, hequal ▸ hgreatest⟩
  · rintro ⟨hmem, hrange⟩
    exact ⟨hmem, rank, hrange, hleads.bounds hnamed⟩

/-- Where some range names the format, some range leads. -/
theorem exists_leads (hnamed : ∃ range ∈ ranges, ∃ rank, format.NamedBy range rank) :
    ∃ range, format.Leads ranges range := by
  have hbounded : ∀ rank, (∃ range ∈ ranges, format.NamedBy range rank) → rank ≤ 2 := by
    rintro rank ⟨range, -, hrange⟩
    cases hrange <;> decide
  obtain ⟨range, hrange, rank, hrank⟩ := hnamed
  classical
  have hgreatest := Nat.findGreatest_spec (P := fun rank => ∃ range ∈ ranges, format.NamedBy range rank)
    (hbounded rank ⟨range, hrange, hrank⟩) ⟨range, hrange, hrank⟩
  obtain ⟨leading, hmem, hleading⟩ := hgreatest
  refine ⟨leading, hmem, _, hleading, fun other hother otherRank hnamed => ?_⟩
  exact Nat.le_findGreatest (hbounded otherRank ⟨other, hother, hnamed⟩) ⟨other, hother, hnamed⟩

/-- What is held behind a leading range without a number gives way to every leading range. -/
theorem givesWay_before (hleads : format.Leads (before ++ behind) first) (hnamed : format.NamedBy first rank)
    (hlast : ∀ last ∈ before.getLast?, format.Leads (before ++ behind) last ∧ last.HasQuality .nan) :
    GivesWay (before.foldl format.weigh none) rank := by
  rcases List.eq_nil_or_concat before with rfl | ⟨init, last, rfl⟩
  · exact givesWay_none rank
  · rw [List.concat_eq_append] at hleads hlast ⊢
    obtain ⟨hlastLeads, hnan⟩ := hlast last (by simp)
    have hlastNamed := ((hleads.leads_iff hnamed).1 hlastLeads).2
    have hinit : ∀ preference ∈ init.foldl format.weigh none, preference.rank ≤ rank :=
      foldl_weigh_rank_le (by simp) fun other hother =>
        hleads.bounds hnamed other (by simp [hother])
    rw [List.foldl_append, List.foldl_cons, List.foldl_nil, weigh_nan hlastNamed hnan hinit]
    rintro _ ⟨⟩
    exact .inr rfl

/-- Where a range leads behind the last leading range without a number, the leading ranges from there on
decide. -/
theorem foldl_weigh_behind (hleads : format.Leads (before ++ behind) first) (hnamed : format.NamedBy first rank)
    (hlast : ∀ last ∈ before.getLast?, format.Leads (before ++ behind) last ∧ last.HasQuality .nan)
    (hfirst : first ∈ behind) :
    (before ++ behind).foldl format.weigh none = (format.namedWith rank behind).foldl format.weigh none := by
  rw [List.foldl_append]
  refine foldl_weigh_givesWay (givesWay_before hleads hnamed hlast) (fun other hother => ?_) ⟨first, hfirst, hnamed⟩
  exact hleads.bounds hnamed other (List.mem_append_right _ hother)

/-- Where no range leads behind a leading range without a number, no number is left. -/
theorem foldl_weigh_nan (hleads : format.Leads (before ++ first :: behind) first)
    (hnan : first.HasQuality .nan) (hnone : ∀ range ∈ behind, ¬ format.Leads (before ++ first :: behind) range) :
    ∃ rank, (before ++ first :: behind).foldl format.weigh none = some ⟨rank, .nan⟩ := by
  obtain ⟨rank, hnamed, hbound⟩ := hleads.foremost
  have hbefore : ∀ preference ∈ before.foldl format.weigh none, preference.rank ≤ rank :=
    foldl_weigh_rank_le (by simp) fun other hother =>
      hbound other (by simp [hother])
  have hbehind : format.namedWith rank behind = [] := by
    refine List.eq_nil_iff_forall_not_mem.2 fun range hrange => ?_
    obtain ⟨hmem, hrank⟩ := mem_namedWith.1 hrange
    exact hnone range hmem ((hleads.leads_iff hnamed).2 ⟨by simp [hmem], hrank⟩)
  refine ⟨rank, ?_⟩
  rw [List.foldl_append, List.foldl_cons, weigh_nan hnamed hnan hbefore, foldl_weigh_equal, hbehind, List.foldl_nil]
  exact fun other hother => hbound other (by simp [hother])

/-! ## What is left -/

/-- The quality zero reads as zero. -/
theorem value?_zeroQuality : zeroQuality.value? = some 0 := by
  have hzero : zeroQuality = .finite false 0 (-149) := rfl
  simp [hzero, Binary.value?, Binary.rational]

/-- Where a range leads behind the last leading range without a number, the quality that is held is the one
that the leading ranges from there on give the format. -/
theorem exists_favoured_behind (hleads : format.Leads (before ++ behind) first)
    (hnamed : format.NamedBy first rank)
    (hlast : ∀ last ∈ before.getLast?, format.Leads (before ++ behind) last ∧ last.HasQuality .nan)
    (hnumbers : ∀ other ∈ behind, format.Leads (before ++ behind) other → ¬ other.HasQuality .nan)
    (hfirst : first ∈ behind) :
    ∃ magnitude, format.Favoured (format.namedWith rank behind) magnitude
      ∧ (Preference.qualityOf (format.preference ((before ++ behind).map RangeText.reading))).value?
        = some magnitude := by
  have hnumber : ∀ other ∈ format.namedWith rank behind, ¬ other.HasQuality .nan := by
    intro other hother
    obtain ⟨hmem, hrank⟩ := mem_namedWith.1 hother
    exact hnumbers other hmem ((hleads.leads_iff hnamed).2 ⟨List.mem_append_right _ hmem, hrank⟩)
  obtain ⟨magnitude, hvalue, hfavoured⟩ :=
    (best_preference format (format.namedWith rank behind) hnumber).favoured hnumber
  refine ⟨magnitude, hfavoured, ?_⟩
  rw [preference_reading, foldl_weigh_behind hleads hnamed hlast hfirst, ← preference_reading]
  exact hvalue

/-- The quality that the leading ranges behind the last one without a number give the format is what it is
left with. -/
theorem Takes.of_favoured (hleads : format.Leads (before ++ behind) first) (hnamed : format.NamedBy first rank)
    (hlast : ∀ last ∈ before.getLast?, format.Leads (before ++ behind) last ∧ last.HasQuality .nan)
    (hnumbers : ∀ other ∈ behind, format.Leads (before ++ behind) other → ¬ other.HasQuality .nan)
    (hfirst : first ∈ behind) (hfavoured : format.Favoured (format.namedWith rank behind) m) :
    format.Takes (before ++ behind) m := by
  cases hfavoured with
  | unnamed hunnamed => exact absurd hnamed (hunnamed first (mem_namedWith.2 ⟨hfirst, hnamed⟩) rank)
  | best range bestRank quality _ hrange hrangeNamed hquality hvalue _ hbest =>
    obtain ⟨hmem, hrangeRank⟩ := mem_namedWith.1 hrange
    obtain rfl : bestRank = rank := hrangeRank.unique hrangeNamed
    have hrangeLeads := (hleads.leads_iff hnamed).2 ⟨List.mem_append_right _ hmem, hrangeNamed⟩
    refine .best before behind range quality m rfl hlast hnumbers hmem hrangeLeads hquality hvalue ?_
    intro other hother hotherLeads
    have hotherNamed := ((hleads.leads_iff hnamed).1 hotherLeads).2
    exact hbest other (mem_namedWith.2 ⟨hother, hotherNamed⟩) hotherNamed

/-- What a format is left with is held in the end. -/
theorem Takes.value (htakes : format.Takes ranges m) :
    (Preference.qualityOf (format.preference (ranges.map RangeText.reading))).value? = some m := by
  cases htakes with
  | unnamed hunnamed =>
    rw [preference_reading, foldl_weigh_unnamed hunnamed]
    exact value?_zeroQuality
  | best before behind range quality _ hranges hlast hnumbers hrange hleads hquality hvalue hbest =>
    subst hranges
    obtain ⟨rank, hnamed, -⟩ := hleads.foremost
    obtain ⟨magnitude, hfavoured, hheld⟩ := exists_favoured_behind hleads hnamed hlast hnumbers hrange
    have hleading : ∀ other ∈ format.namedWith rank behind,
        other ∈ behind ∧ format.Leads (before ++ behind) other := by
      intro other hother
      obtain ⟨hmem, hrank⟩ := mem_namedWith.1 hother
      exact ⟨hmem, (hleads.leads_iff hnamed).2 ⟨List.mem_append_right _ hmem, hrank⟩⟩
    have hbehind : format.Favoured (format.namedWith rank behind) m := by
      refine .best range rank quality m (mem_namedWith.2 ⟨hrange, hnamed⟩) hnamed hquality hvalue ?_ ?_
      · exact fun other hother => hleads.bounds hnamed other (hleading other hother).2.mem
      · exact fun other hother _ => hbest other (hleading other hother).1 (hleading other hother).2
    rw [hheld, hfavoured.unique hbehind]

/-- Ranges can be cut behind the last one with a property. -/
theorem exists_cut (p : RangeText → Prop) (ranges : List RangeText) :
    ∃ before behind, ranges = before ++ behind ∧ (∀ last ∈ before.getLast?, p last)
      ∧ ∀ other ∈ behind, ¬ p other := by
  -- the last range decides where the cut is, so the induction takes ranges away at the right
  induction ranges using List.reverseRecOn with
  | nil => exact ⟨[], [], rfl, by simp, by simp⟩
  | append_singleton ranges range ih =>
    by_cases hrange : p range
    · exact ⟨ranges ++ [range], [], by simp, by simpa using hrange, by simp⟩
    · obtain ⟨before, behind, rfl, hlast, hothers⟩ := ih
      refine ⟨before, behind ++ [range], by simp, hlast, ?_⟩
      exact List.forall_mem_append.2 ⟨hothers, List.forall_mem_singleton.2 hrange⟩

/-- The quality that a format is left with is the value of the one that is held in the end. -/
theorem takes_iff (format : BodyFormat) (ranges : List RangeText) (m : Magnitude) :
    format.Takes ranges m
      ↔ (Preference.qualityOf (format.preference (ranges.map RangeText.reading))).value? = some m := by
  refine ⟨Takes.value, fun hvalue => ?_⟩
  by_cases hsome : ∃ range ∈ ranges, ∃ rank, format.NamedBy range rank
  · obtain ⟨first, hleads⟩ := exists_leads hsome
    obtain ⟨before, behind, hranges, hlast, hothers⟩ :=
      exists_cut (fun range => format.Leads ranges range ∧ range.HasQuality .nan) ranges
    have hnumbers : ∀ other ∈ behind, format.Leads ranges other → ¬ other.HasQuality .nan :=
      fun other hother hleads hnan => hothers other hother ⟨hleads, hnan⟩
    by_cases hbehind : ∃ range ∈ behind, format.Leads ranges range
    · obtain ⟨range, hrange, hrangeLeads⟩ := hbehind
      obtain ⟨rank, hnamed, -⟩ := hrangeLeads.foremost
      subst hranges
      obtain ⟨magnitude, hfavoured, hheld⟩ := exists_favoured_behind hrangeLeads hnamed hlast hnumbers hrange
      rw [hvalue] at hheld
      cases hheld
      exact .of_favoured hrangeLeads hnamed hlast hnumbers hrange hfavoured
    · -- the leading range stands before the cut, and the cut is behind one without a number
      have hbefore : first ∈ before := by
        have hmem := hleads.mem
        rw [hranges, List.mem_append] at hmem
        exact hmem.resolve_right fun hfirst => hbehind ⟨first, hfirst, hleads⟩
      rcases List.eq_nil_or_concat before with rfl | ⟨init, last, rfl⟩
      · simp at hbefore
      · obtain ⟨hlastLeads, hnan⟩ := hlast last (by simp)
        have hcut : ranges = init ++ last :: behind := by simpa using hranges
        subst hcut
        obtain ⟨rank, hheld⟩ := foldl_weigh_nan hlastLeads hnan fun range hrange hrangeLeads =>
          hbehind ⟨range, hrange, hrangeLeads⟩
        rw [preference_reading, hheld] at hvalue
        cases hvalue
  · have hunnamed : ∀ range ∈ ranges, ∀ rank, ¬ format.NamedBy range rank :=
      fun range hrange rank hnamed => hsome ⟨range, hrange, rank, hnamed⟩
    rw [preference_reading, foldl_weigh_unnamed hunnamed] at hvalue
    obtain rfl : 0 = m := Option.some.inj (value?_zeroQuality.symm.trans hvalue)
    exact .unnamed hunnamed

/-- A format is left with one quality at most. -/
theorem Takes.unique {n : Magnitude} (hm : format.Takes ranges m) (hn : format.Takes ranges n) : m = n :=
  Option.some.inj (hm.value.symm.trans hn.value)

/-- Plain text is chosen exactly when it is left with a greater quality than JSON. -/
theorem negotiate_eq_text_iff_takes {accept : String} (hspells : SpellsRanges accept.toList ranges) :
    negotiate (some accept) = .text
      ↔ ∃ text json, BodyFormat.text.Takes ranges text ∧ BodyFormat.json.Takes ranges json ∧ json < text := by
  rw [negotiate_eq_text_iff, acceptRanges_eq, ← (spellsRanges_iff _ _).1 hspells, Binary.less_eq_true_iff]
  simp only [takes_iff]
  constructor
  · rintro ⟨json, text, hjson, htext, hless⟩
    exact ⟨text, json, htext, hjson, hless⟩
  · rintro ⟨text, json, htext, hjson, hless⟩
    exact ⟨json, text, hjson, htext, hless⟩

/-! ## To whom plain text is sent -/

/-- A quality above zero is that of a range that accepts the format. -/
theorem Takes.accepts (htakes : format.Takes ranges m) (hpositive : 0 < m) :
    ∃ range ∈ ranges, format.Accepts range := by
  cases htakes with
  | unnamed => exact absurd hpositive (lt_irrefl _)
  | best before behind range quality _ hranges hlast hnumbers hrange hleads hquality hvalue hbest =>
    obtain ⟨rank, hnamed, -⟩ := hleads.foremost
    exact ⟨range, hleads.mem, ⟨rank, hnamed⟩, quality, m, hquality, hvalue, hpositive⟩

/-- Plain text is sent only to clients that accept it, as long as JSON is not left with a quality below
zero. A client that does not name plain text is sent it exactly when JSON is left with such a quality. -/
theorem text_only_where_accepted (accept : String) (ranges : List RangeText)
    (hspells : SpellsRanges accept.toList ranges) :
    ((∀ json, BodyFormat.json.Takes ranges json → 0 ≤ json) → negotiate (some accept) = .text →
        ∃ range ∈ ranges, BodyFormat.text.Accepts range)
      ∧ ((∀ range ∈ ranges, ∀ rank, ¬ BodyFormat.text.NamedBy range rank) →
        (negotiate (some accept) = .text ↔ ∃ json, BodyFormat.json.Takes ranges json ∧ json < 0)) := by
  rw [negotiate_eq_text_iff_takes hspells]
  constructor
  · rintro hjson ⟨text, json, htakes, hother, hless⟩
    exact htakes.accepts ((hjson json hother).trans_lt hless)
  · intro hunnamed
    have htext : BodyFormat.text.Takes ranges 0 := .unnamed hunnamed
    constructor
    · rintro ⟨text, json, htakes, hjson, hless⟩
      rw [htakes.unique htext] at hless
      exact ⟨json, hjson, hless⟩
    · rintro ⟨json, hjson, hless⟩
      exact ⟨0, json, htext, hjson, hless⟩

/-- A client that accepts all text more than JSON, where it names JSON twice and once without a number; and
one that names nothing but JSON, with a quality above zero. -/
theorem text_only_where_accepted_mixed :
    (∃ range ∈ writtenRanges "text/*;q=0.2, application/json;q=nan, application/json;q=0.1".toList,
        BodyFormat.text.Accepts range)
      ∧ (negotiate (some "application/json;q=0.1") = .text
        ↔ ∃ json, BodyFormat.json.Takes (writtenRanges "application/json;q=0.1".toList) json ∧ json < 0) := by
  constructor
  · refine (text_only_where_accepted "text/*;q=0.2, application/json;q=nan, application/json;q=0.1" _
      ((spellsRanges_iff _ _).2 rfl)).1 (fun json hjson => ?_) (by decide +kernel)
    have htenth : Preference.qualityOf (BodyFormat.json.preference ((writtenRanges
        "text/*;q=0.2, application/json;q=nan, application/json;q=0.1".toList).map RangeText.reading))
          = .finite false 13421773 (-27) := by
      decide +kernel
    have hvalue := hjson.value
    rw [htenth] at hvalue
    obtain rfl := Option.some.inj hvalue
    have hpositive : 0 ≤ Binary.rational false 13421773 (-27) := by
      simp only [Binary.rational, Bool.false_eq_true, if_false]
      positivity
    exact WithBot.coe_le_coe.2 (WithTop.coe_le_coe.2 hpositive)
  · refine (text_only_where_accepted "application/json;q=0.1" _ ((spellsRanges_iff _ _).2 rfl)).2 ?_
    have hnone : ∀ range ∈ writtenRanges "application/json;q=0.1".toList,
        BodyFormat.text.rank? range.reading = none := by decide +kernel
    exact fun range hrange => (rank?_eq_none_iff _ range).1 (hnone range hrange)

/-- A client that refuses JSON with a quality below zero and names nothing else is sent plain text. -/
theorem text_for_refused_json :
    negotiate (some "application/json;q=-1") = .text
      ∧ ∀ ranges, SpellsRanges "application/json;q=-1".toList ranges →
        ∀ range ∈ ranges, ¬ BodyFormat.text.Accepts range := by
  refine ⟨by decide +kernel, fun ranges hranges range hrange haccepts => ?_⟩
  rw [(spellsRanges_iff _ _).1 hranges] at hrange
  obtain ⟨⟨rank, hnamed⟩, -⟩ := haccepts
  have hnone : ∀ range ∈ writtenRanges "application/json;q=-1".toList,
      BodyFormat.text.rank? range.reading = none := by decide +kernel
  exact (rank?_eq_none_iff _ range).1 (hnone range hrange) rank hnamed

end BodyFormat

end GracefulService.Http
