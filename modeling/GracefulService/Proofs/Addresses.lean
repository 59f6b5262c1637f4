import GracefulService.Net.Surface
import GracefulService.Proofs.Cutting
import GracefulService.Proofs.Numerals

/-!
# How addresses are read and shown

Whatever is read as a socket address fits its places: octets, groups of 16 bits and the number of a socket. What fits
is shown in a way that is read as the same address again, whether a run of zero groups is left out, a mapped
address ends in octets, or neither. So the text of a bound address names that address, and a listener with its host
and its socket is bound by the very same text.
-/

namespace GracefulService.Net

open Number

/-- The numbers of an address fit their places. -/
def Address.Fits : Address → Prop
  | v4 a b c d => a < 256 ∧ b < 256 ∧ c < 256 ∧ d < 256
  | v6 groups => groups.length = 8 ∧ ∀ group ∈ groups, group < 65536

/-! ## What is read fits -/

/-- What is read as an octet fits into eight bits. -/
theorem lt_of_octet? {cs : List Char} {n : Nat} (h : octet? cs = some n) : n < 256 := by
  unfold octet? at h
  split at h
  · cases h
  split at h
  · cases h
  · exact lt_of_readBelow? h

/-- What is read as a group fits into sixteen bits. -/
theorem lt_of_group? {cs : List Char} {n : Nat} (h : group? cs = some n) : n < 65536 := by
  unfold group? at h
  split at h
  · cases h
  · rename_i hlength
    cases cs with
    | nil => cases h
    | cons c cs =>
      have hread : readDigits 16 hexDigit? 0 (c :: cs) = some n := h
      calc n < (0 + 1) * 16 ^ (c :: cs).length := readDigits_lt (fun _ _ => hexDigit?_lt) hread
        _ ≤ (0 + 1) * 16 ^ 4 := Nat.mul_le_mul_left _ (Nat.pow_le_pow_right (by decide) (Nat.le_of_not_lt hlength))
        _ = 65536 := by decide

/-- Four octets that are read fit into eight bits each. -/
theorem lt_of_octets? {cs : List Char} {a b c d : Nat} (h : octets? cs = some (a, b, c, d)) :
    a < 256 ∧ b < 256 ∧ c < 256 ∧ d < 256 := by
  unfold octets? at h
  split at h
  · simp only [Option.pure_def, Option.bind_eq_bind, Option.bind_eq_some_iff, Option.some.injEq, Prod.mk.injEq] at h
    obtain ⟨_, ha, _, hb, _, hc, _, hd, rfl, rfl, rfl, rfl⟩ := h
    exact ⟨lt_of_octet? ha, lt_of_octet? hb, lt_of_octet? hc, lt_of_octet? hd⟩
  · cases h

/-- Groups that are read have 16 bits, those of a version 4 address at the end included. -/
theorem lt_of_groups? {parts : List (List Char)} {groups : List Nat} (h : groups? parts = some groups) :
    ∀ group ∈ groups, group < 65536 := by
  induction parts using groups?.induct generalizing groups with
  | case1 =>
    cases h
    simp
  | case2 last a b c d hoctets =>
    simp only [groups?, hoctets] at h
    cases h
    have := lt_of_octets? hoctets
    simp only [List.mem_cons, List.not_mem_nil, or_false, forall_eq_or_imp, forall_eq]
    omega
  | case3 last hoctets =>
    simp only [groups?, hoctets, Option.map_eq_some_iff] at h
    obtain ⟨group, hgroup, rfl⟩ := h
    simpa using lt_of_group? hgroup
  | case4 part parts hsome ih =>
    simp only [groups?, Option.pure_def, Option.bind_eq_bind, Option.bind_eq_some_iff, Option.some.injEq] at h
    obtain ⟨group, hgroup, later, hlater, rfl⟩ := h
    exact List.forall_mem_cons.2 ⟨lt_of_group? hgroup, ih hlater⟩

/-- The groups on one side of a run of zeros fit into sixteen bits. -/
theorem lt_of_side? {cs : List Char} {groups : List Nat} (h : side? cs = some groups) :
    ∀ group ∈ groups, group < 65536 := by
  unfold side? at h
  split at h
  · cases h
    simp
  · exact lt_of_groups? h

/-- An address that is read in the sixth version has eight groups that fit. -/
theorem fits_of_version6? {cs : List Char} {groups : List Nat} (h : version6? cs = some groups) :
    (Address.v6 groups).Fits := by
  unfold version6? at h
  split at h
  · simp only [Option.pure_def, Option.bind_eq_bind, Option.bind_eq_some_iff] at h
    obtain ⟨read, hread, h⟩ := h
    split at h
    · cases h
      exact ⟨‹_›, lt_of_groups? hread⟩
    · cases h
  · rename_i left right hsplit
    by_cases hpoint : hasPoint left = true
    · simp [hpoint] at h
    · simp only [hpoint, Bool.false_eq_true, if_false, Option.pure_def, Option.bind_eq_bind,
        Option.bind_eq_some_iff] at h
      obtain ⟨before, hbefore, behind, hbehind, h⟩ := h
      split at h
      · rename_i hpresent
        cases h
        refine ⟨by simp; omega, ?_⟩
        simp only [List.mem_append, List.mem_replicate]
        rintro group ((hgroup | ⟨-, rfl⟩) | hgroup)
        · exact lt_of_side? hbefore group hgroup
        · decide
        · exact lt_of_side? hbehind group hgroup
      · cases h

/-- Whatever is read as a socket address fits its places. -/
theorem SocketAddress.fits_of_read? {cs : List Char} {socket : SocketAddress} (h : read? cs = some socket) :
    socket.address.Fits ∧ socket.port < portLimit := by
  simp only [read?, Option.pure_def, Option.bind_eq_bind, Option.bind_eq_some_iff] at h
  obtain ⟨⟨host, digits⟩, -, port, hport, h⟩ := h
  have hbound : port < portLimit := lt_of_readBelow? hport
  dsimp only at h
  split at h
  · split at h
    · cases h
    · simp only [Option.bind_eq_some_iff] at h
      obtain ⟨_, -, groups, hgroups, hsocket⟩ := h
      cases hsocket
      exact ⟨fits_of_version6? hgroups, hbound⟩
  · rw [Option.bind_eq_some_iff] at h
    obtain ⟨⟨a, b, c, d⟩, hoctets, hsocket⟩ := h
    cases hsocket
    exact ⟨lt_of_octets? hoctets, hbound⟩

/-! ## Octets and groups are read back -/

/-- An octet is read back from its digits. -/
theorem octet?_decimal {n : Nat} (hbound : n < 256) : octet? (Text.decimal n) = some n := by
  have hspelled := Text.spelled_decimal n
  have hlength : (Text.decimal n).length ≤ 2 + 1 := hspelled.length_le (by omega)
  have hzero : ¬ ((Text.decimal n).head? = some '0' ∧ (Text.decimal n).length ≠ 1) :=
    fun h => h.2 (hspelled.head_zero (by decide) h.1).2
  unfold octet?
  rw [if_neg (by omega), if_neg hzero, readBelow?_decimal hbound]

/-- A group is read back from its digits. -/
theorem group?_hex {n : Nat} (hbound : n < 65536) : group? (Text.hex n) = some n := by
  have hlength : (Text.hex n).length ≤ 3 + 1 := (Text.spelled_hex n).length_le (by omega)
  unfold group?
  rw [if_neg (by omega), readHex?_hex]

/-- Octets are shown with digits and points. -/
theorem of_mem_showOctets {a b c d : Nat} {shown : Char} (h : shown ∈ showOctets a b c d) :
    shown.isDigit = true ∨ shown = '.' := by
  have hdigits := fun n => Text.isDigit_of_mem_decimal n shown
  simp only [showOctets, List.mem_append, List.mem_cons] at h
  grind

/-- Groups are shown with digits, letters and colons. -/
theorem of_mem_showGroups {groups : List Nat} {shown : Char} (h : shown ∈ showGroups groups) :
    shown.isAlphanum = true ∨ shown = ':' := by
  have hdigits := fun n => Text.isAlphanum_of_mem_hex n shown
  induction groups using showGroups.induct with
  | case1 => cases h
  | case2 last => exact Or.inl (hdigits last h)
  | case3 group groups hsome ih =>
    simp only [showGroups, List.mem_append, List.mem_cons] at h
    grind

/-- Octets are shown with points between them. -/
theorem showOctets_eq (a b c d : Nat) : showOctets a b c d
    = ['.'].intercalate [Text.decimal a, Text.decimal b, Text.decimal c, Text.decimal d] := by
  simp [showOctets, List.intercalate]

/-- Four octets are read back as they are shown. -/
theorem octets?_showOctets {a b c d : Nat} (hfits : (Address.v4 a b c d).Fits) :
    octets? (showOctets a b c d) = some (a, b, c, d) := by
  obtain ⟨ha, hb, hc, hd⟩ := hfits
  have hapart : ∀ part ∈ [Text.decimal a, Text.decimal b, Text.decimal c, Text.decimal d], '.' ∉ part := by
    simp only [List.mem_cons, List.not_mem_nil, or_false]
    rintro part (rfl | rfl | rfl | rfl) <;> exact Text.not_mem_decimal rfl _
  unfold octets?
  rw [showOctets_eq, Text.splitAt_intercalate hapart (List.cons_ne_nil _ _)]
  simp [octet?_decimal ha, octet?_decimal hb, octet?_decimal hc, octet?_decimal hd]

/-- Groups are shown with colons between them. -/
theorem showGroups_eq (groups : List Nat) : showGroups groups = [':'].intercalate (groups.map Text.hex) := by
  induction groups with
  | nil => rfl
  | cons group groups ih =>
    cases groups with
    | nil => simp [showGroups, List.intercalate]
    | cons next later => simp [showGroups, ih, List.intercalate]

/-- Nothing that is shown in base sixteen is taken for octets. -/
theorem octets?_hex (n : Nat) : octets? (Text.hex n) = none := by
  unfold octets?
  rw [Text.splitAt_of_not_mem (Text.not_mem_hex rfl n)]

/-- Groups are read back as they are shown. -/
theorem groups?_hex {groups : List Nat} (hbound : ∀ group ∈ groups, group < 65536) :
    groups? (groups.map Text.hex) = some groups := by
  induction groups with
  | nil => rfl
  | cons group groups ih =>
    rw [List.forall_mem_cons] at hbound
    have hgroup := group?_hex hbound.1
    cases groups with
    | nil => simp [groups?, octets?_hex, hgroup]
    | cons next later =>
      have hlater := ih hbound.2
      rw [List.map_cons] at hlater
      simp [groups?, hgroup, hlater]

/-- A colon stands between two groups. -/
theorem showGroups_cons_cons (group next : Nat) (later : List Nat) : showGroups (group :: next :: later)
    = Text.hex group ++ ':' :: showGroups (next :: later) := rfl

/-- Some groups are shown with a digit or a letter in front. -/
theorem exists_showGroups_eq_cons (group : Nat) (groups : List Nat) :
    ∃ c rest, showGroups (group :: groups) = c :: rest ∧ c.isAlphanum = true := by
  obtain ⟨c, rest, hhex⟩ := List.exists_cons_of_ne_nil (Text.spelled_hex group).ne_nil
  have hc : c.isAlphanum = true := Text.isAlphanum_of_mem_hex group c (by rw [hhex]; exact List.mem_cons_self)
  cases groups with
  | nil => exact ⟨c, rest, hhex, hc⟩
  | cons next later => exact ⟨c, rest ++ ':' :: showGroups (next :: later), by rw [showGroups_cons_cons, hhex]; rfl, hc⟩

/-- Colons stand between groups, and nothing else does. -/
theorem splitAt_showGroups {groups : List Nat} (hsome : groups ≠ []) :
    Text.splitAt ':' (showGroups groups) = groups.map Text.hex := by
  have hapart : ∀ part ∈ groups.map Text.hex, ':' ∉ part := by
    intro part hpart
    obtain ⟨group, -, rfl⟩ := List.mem_map.1 hpart
    exact Text.not_mem_hex rfl group
  rw [showGroups_eq, Text.splitAt_intercalate hapart (by simpa using hsome)]

/-- One side of a left out run is read back. -/
theorem side?_showGroups {groups : List Nat} (hbound : ∀ group ∈ groups, group < 65536) :
    side? (showGroups groups) = some groups := by
  cases groups with
  | nil => rfl
  | cons group groups =>
    obtain ⟨c, rest, hshown, -⟩ := exists_showGroups_eq_cons group groups
    have hsome : (showGroups (group :: groups)).isEmpty = false := by rw [hshown]; rfl
    unfold side?
    rw [hsome, splitAt_showGroups (List.cons_ne_nil _ _), groups?_hex hbound]
    rfl

/-- A mapped address is read back behind its double colon. -/
theorem side?_mapped {x y : Nat} (hx : x < 65536) (hy : y < 65536) :
    side? ("ffff:".toList ++ showOctets (x / 256) (x % 256) (y / 256) (y % 256)) = some [0xffff, x, y] := by
  have hfits : (Address.v4 (x / 256) (x % 256) (y / 256) (y % 256)).Fits := by
    simp only [Address.Fits]
    omega
  have hapart : ∀ part ∈ ["ffff".toList, showOctets (x / 256) (x % 256) (y / 256) (y % 256)], ':' ∉ part := by
    simp only [List.mem_cons, List.not_mem_nil, or_false]
    rintro part (rfl | rfl) hcolon
    · revert hcolon
      decide
    · rcases of_mem_showOctets hcolon with hdigit | hpoint
      · cases hdigit
      · cases hpoint
  have hjoined : "ffff:".toList ++ showOctets (x / 256) (x % 256) (y / 256) (y % 256)
      = [':'].intercalate ["ffff".toList, showOctets (x / 256) (x % 256) (y / 256) (y % 256)] := by
    simp [List.intercalate]
  have hgroup : group? "ffff".toList = some 0xffff := by decide
  have hgroups : groups? ["ffff".toList, showOctets (x / 256) (x % 256) (y / 256) (y % 256)]
      = some [0xffff, x, y] := by
    simp only [groups?, octets?_showOctets hfits, hgroup, Nat.div_add_mod']
    rfl
  unfold side?
  rw [hjoined, Text.splitAt_intercalate hapart (List.cons_ne_nil _ _), hgroups]
  rfl

/-! ## Runs of zero groups -/

/-- A text is split at its first two colons in a row. -/
theorem splitRun_cons (c : Char) (rest : List Char) : splitRun (c :: rest)
    = if c = ':' ∧ rest.head? = some ':' then some ([], rest.tail)
      else (splitRun rest).map fun (left, right) => (c :: left, right) := by
  split
  · rename_i hrun
    obtain ⟨rfl, hhead⟩ := hrun
    obtain ⟨later, rfl⟩ := List.head?_eq_some_iff.1 hhead
    rfl
  · rename_i hnot
    cases rest with
    | nil => simp [splitRun]
    | cons d rest =>
      rw [splitRun]
      rintro _ rfl hrest
      exact hnot ⟨rfl, by rw [hrest]; rfl⟩

/-- What has no colons stands before a run. -/
theorem splitRun_append {front : List Char} (hfront : ':' ∉ front) (back : List Char) :
    splitRun (front ++ back) = (splitRun back).map fun (left, right) => (front ++ left, right) := by
  induction front with
  | nil => simp
  | cons c front ih =>
    rw [List.mem_cons, not_or] at hfront
    rw [List.cons_append, splitRun_cons, if_neg fun h => hfront.1 h.1.symm, ih hfront.2, Option.map_map]
    rfl

/-- So do groups that are shown: a colon between two of them is never next to another one. -/
theorem splitRun_showGroups (groups : List Nat) (back : List Char) : splitRun (showGroups groups ++ back)
    = (splitRun back).map fun (left, right) => (showGroups groups ++ left, right) := by
  have hcolon : ∀ group, ':' ∉ Text.hex group := Text.not_mem_hex rfl
  induction groups with
  | nil => simp [showGroups]
  | cons group groups ih =>
    cases groups with
    | nil => exact splitRun_append (hcolon group) back
    | cons next later =>
      obtain ⟨c, rest, hshown, hc⟩ := exists_showGroups_eq_cons next later
      have hhead : (showGroups (next :: later) ++ back).head? ≠ some ':' := by
        rw [hshown]
        rintro ⟨⟩
        cases hc
      rw [showGroups_cons_cons, List.append_assoc, splitRun_append (hcolon group), List.cons_append, splitRun_cons,
        if_neg fun h => hhead h.2, ih, Option.map_map, Option.map_map]
      simp [Function.comp_def]

/-- The run at the front is a run of zero groups. -/
theorem zeroRun_spec (groups : List Nat) :
    groups = List.replicate (zeroRun groups) 0 ++ groups.dropWhile (· = 0) := by
  have hzeros : groups.takeWhile (· = 0) = List.replicate (zeroRun groups) 0 :=
    List.eq_replicate_iff.2 ⟨rfl, fun group hgroup => by simpa using List.mem_takeWhile_imp hgroup⟩
  rw [← hzeros, List.takeWhile_append_dropWhile]

/-- The longest run is a run of zero groups: it stands between those in front of it and those behind it. -/
theorem longestRun_spec (groups : List Nat) : ∃ front back,
    groups = front ++ (List.replicate (longestRun groups).2 0 ++ back) ∧ front.length = (longestRun groups).1 := by
  induction groups with
  | nil => exact ⟨[], [], rfl, rfl⟩
  | cons group groups ih =>
    obtain ⟨front, back, hgroups, hlength⟩ := ih
    simp only [longestRun]
    split
    · exact ⟨[], _, zeroRun_spec (group :: groups), rfl⟩
    · refine ⟨group :: front, back, ?_, by rw [List.length_cons, hlength]⟩
      rw [List.cons_append, ← hgroups]

/-! ## Addresses are read back -/

/-- Eight groups are read back. -/
theorem version6?_showGroups {groups : List Nat} (hlength : groups.length = 8)
    (hbound : ∀ group ∈ groups, group < 65536) : version6? (showGroups groups) = some groups := by
  have hsplit : splitRun (showGroups groups) = none := by simpa [splitRun] using splitRun_showGroups groups []
  have hsome : groups ≠ [] := by
    rintro rfl
    cases hlength
  simp [version6?, hsplit, splitAt_showGroups hsome, groups?_hex hbound, hlength]

/-- A run of zero groups that was left out is put back, wherever it stood. -/
theorem version6?_shortened {front back : List Nat} {length : Nat} (hsome : 0 < length)
    (hlength : front.length + (length + back.length) = 8) (hfront : ∀ group ∈ front, group < 65536)
    (hback : ∀ group ∈ back, group < 65536) :
    version6? (showGroups front ++ ':' :: ':' :: showGroups back)
      = some (front ++ (List.replicate length 0 ++ back)) := by
  have hsplit : splitRun (showGroups front ++ ':' :: ':' :: showGroups back)
      = some (showGroups front, showGroups back) := by
    rw [splitRun_showGroups]
    simp [splitRun]
  have hpoint : hasPoint (showGroups front) = false := by
    rw [hasPoint, List.contains_eq_mem, decide_eq_false_iff_not]
    intro hmem
    rcases of_mem_showGroups hmem with halnum | hcolon
    · cases halnum
    · cases hcolon
  have hpresent : front.length + back.length < 8 := by omega
  have hleft : 8 - (front.length + back.length) = length := by omega
  simp [version6?, hsplit, hpoint, side?_showGroups hfront, side?_showGroups hback, hpresent, hleft]

/-- A mapped address is read back. -/
theorem version6?_mapped {x y : Nat} (hx : x < 65536) (hy : y < 65536) :
    version6? (':' :: ':' :: ("ffff:".toList ++ showOctets (x / 256) (x % 256) (y / 256) (y % 256)))
      = some [0, 0, 0, 0, 0, 0xffff, x, y] := by
  have hbehind := side?_mapped hx hy
  have hbefore : side? [] = some [] := rfl
  generalize "ffff:".toList ++ showOctets (x / 256) (x % 256) (y / 256) (y % 256) = behind at hbehind ⊢
  simp [version6?, splitRun, hasPoint, hbefore, hbehind, List.replicate]

/-- How groups are shown: all of them, without a run of zero groups, or with octets where an address of version 4 is
mapped. -/
inductive Shows : List Nat → List Char → Prop where
  | whole (groups : List Nat) : Shows groups (showGroups groups)
  | shortened (front back : List Nat) {length : Nat} (hlong : 2 ≤ length) :
      Shows (front ++ (List.replicate length 0 ++ back)) (showGroups front ++ ':' :: ':' :: showGroups back)
  | mapped (x y : Nat) : Shows [0, 0, 0, 0, 0, 0xffff, x, y]
      (':' :: ':' :: ("ffff:".toList ++ showOctets (x / 256) (x % 256) (y / 256) (y % 256)))

/-- Every address of version 6 is shown in one of these ways. -/
theorem shows_chars (groups : List Nat) : Shows groups (Address.v6 groups).chars := by
  unfold Address.chars
  split
  · rename_i hnever
    cases hnever
  · rename_i x y hgroups
    cases hgroups
    exact .mapped x y
  · rename_i hgroups
    cases hgroups
    obtain ⟨front, back, hrun, hstart⟩ := longestRun_spec groups
    generalize longestRun groups = run at hrun hstart ⊢
    obtain ⟨start, length⟩ := run
    obtain rfl : front.length = start := hstart
    dsimp only at hrun ⊢
    split
    · exact .whole groups
    · rename_i hlong
      have hback : groups.drop (front.length + length) = back := by
        rw [hrun, ← List.append_assoc]
        exact List.drop_left' (by simp)
      have hfront : groups.take front.length = front := by
        rw [hrun]
        exact List.take_left' rfl
      rw [hfront, hback, hrun]
      exact .shortened front back (Nat.le_of_not_lt hlong)

section Shows

variable {groups : List Nat} {shown : List Char}

/-- Groups that are shown are read back. -/
theorem Shows.version6? (h : Shows groups shown) (hfits : (Address.v6 groups).Fits) :
    version6? shown = some groups := by
  obtain ⟨hlength, hbound⟩ := hfits
  cases h with
  | whole => exact version6?_showGroups hlength hbound
  | shortened front back hlong =>
    simp only [List.mem_append] at hbound
    simp only [List.length_append, List.length_replicate] at hlength
    exact version6?_shortened (by omega) hlength (fun group hgroup => hbound group (Or.inl hgroup))
      fun group hgroup => hbound group (Or.inr (Or.inr hgroup))
  | mapped x y => exact version6?_mapped (hbound x (by simp)) (hbound y (by simp))

/-- What is shown of an address is a digit, a letter or a mark. -/
theorem Shows.of_mem (h : Shows groups shown) {c : Char} (hc : c ∈ shown) :
    c.isAlphanum = true ∨ c = ':' ∨ c = '.' := by
  cases h with
  | whole => exact (of_mem_showGroups hc).imp_right Or.inl
  | shortened front back =>
    simp only [List.mem_append, List.mem_cons] at hc
    rcases hc with hc | hc | hc | hc
    · exact (of_mem_showGroups hc).imp_right Or.inl
    · exact Or.inr (Or.inl hc)
    · exact Or.inr (Or.inl hc)
    · exact (of_mem_showGroups hc).imp_right Or.inl
  | mapped x y =>
    have hmapped : "::ffff:".toList.all (fun c => c.isAlphanum || c = ':') = true := by decide
    rcases List.mem_append.1 (show c ∈ "::ffff:".toList ++ _ from hc) with hc | hc
    · have hmark : c.isAlphanum = true ∨ c = ':' := by simpa using List.all_eq_true.1 hmapped c hc
      exact hmark.imp_right Or.inl
    · rcases of_mem_showOctets hc with hdigit | hpoint
      · exact Or.inl (by simp [Char.isAlphanum, hdigit])
      · exact Or.inr (Or.inr hpoint)

/-- Eight groups are never shown without a colon. -/
theorem Shows.colon_mem (h : Shows groups shown) (hlength : 2 ≤ groups.length) : ':' ∈ shown := by
  cases h with
  | whole =>
    obtain ⟨group, next, later, rfl⟩ : ∃ group next later, groups = group :: next :: later := by
      match groups, hlength with
      | group :: next :: later, _ => exact ⟨group, next, later, rfl⟩
    rw [showGroups_cons_cons]
    simp
  | shortened => simp
  | mapped => simp

end Shows

/-! ## Socket addresses are read back -/

/-- A text is cut at its last colon. -/
theorem splitLast_append {back : List Char} (hback : ':' ∉ back) (front : List Char) :
    splitLast (front ++ ':' :: back) = some (front, back) := by
  have hreversed : ':' ∉ back.reverse := by simpa using hback
  have hsplit : (front ++ ':' :: back).reverse = back.reverse ++ ':' :: front.reverse := by simp
  rw [splitLast, hsplit, Text.splitFirst_append hreversed]
  simp

namespace SocketAddress

/-- Between brackets groups are read, with the number of a socket behind them. -/
theorem read?_groups {host : List Char} {groups : List Nat} (hgroups : version6? host = some groups)
    (hscope : '%' ∉ host) {port : Nat} (hport : port < portLimit) :
    read? ('[' :: (host ++ [']']) ++ ':' :: Text.decimal port) = some ⟨.v6 groups, port⟩ := by
  have hnumber : port? (Text.decimal port) = some port := readBelow?_decimal hport
  have hwhole : withoutScope? host = some host := by simp [withoutScope?, Text.splitFirst_of_not_mem hscope]
  rw [read?, splitLast_append (Text.not_mem_decimal rfl port)]
  simp [hnumber, hwhole, hgroups]

/-- Without brackets octets are read, with the number of a socket behind them. -/
theorem read?_octets {host : List Char} {a b c d : Nat} (hoctets : octets? host = some (a, b, c, d))
    (hopen : host.head? ≠ some '[') {port : Nat} (hport : port < portLimit) :
    read? (host ++ ':' :: Text.decimal port) = some ⟨.v4 a b c d, port⟩ := by
  have hnumber : port? (Text.decimal port) = some port := readBelow?_decimal hport
  rw [read?, splitLast_append (Text.not_mem_decimal rfl port)]
  cases host with
  | nil => simp [hnumber, hoctets]
  | cons first rest =>
    have hfirst : first ≠ '[' := fun h => hopen (congrArg some h)
    simp [hnumber, hfirst, hoctets]

end SocketAddress

end GracefulService.Net

namespace GracefulService

open Net

/-- No address is shown with a bracket in front. -/
theorem Net.Address.head?_chars (address : Address) : address.chars.head? ≠ some '[' := by
  intro hopen
  have hmem := List.mem_of_mem_head? hopen
  cases address with
  | v4 a b c d => rcases of_mem_showOctets hmem with h | h <;> cases h
  | v6 groups => rcases (shows_chars groups).of_mem hmem with h | h | h <;> cases h

/-- A listener is bound by the text of its host and its socket, unless the host has a bracket in front. -/
theorem Listener.bindAddress_eq_display {host : String} (hopen : host.toList.head? ≠ some '[') (port : Nat) :
    Listener.bindAddress ⟨host, port⟩ = BoundAddress.display ⟨host, port⟩ := by
  simp [bindAddress, BoundAddress.display, hopen]

namespace BoundAddress

/-- An address of the fourth version is shown with its port after a colon. -/
theorem display_octets (a b c d port : Nat) : (ofSocket ⟨.v4 a b c d, port⟩).display.toList
    = showOctets a b c d ++ ':' :: Text.decimal port := by
  have hchars : (Address.v4 a b c d).chars = showOctets a b c d := rfl
  have hcolon : ':' ∉ showOctets a b c d := fun hmem => by
    rcases of_mem_showOctets hmem with h | h <;> cases h
  simp [display, ofSocket, Address.show, hchars, hcolon, withPort]

/-- An address of the sixth version is shown in brackets, with its port after a colon. -/
theorem display_groups {groups : List Nat} (hlength : groups.length = 8) (port : Nat) :
    (ofSocket ⟨.v6 groups, port⟩).display.toList
      = '[' :: ((Address.v6 groups).chars ++ [']']) ++ ':' :: Text.decimal port := by
  have hcolon : ':' ∈ (Address.v6 groups).chars := (shows_chars groups).colon_mem (by omega)
  simp [display, ofSocket, Address.show, hcolon, bracketed, withPort]

/-- A socket address that fits is read from the text of what is bound to it. -/
theorem read?_display {socket : SocketAddress} (hfits : socket.address.Fits) (hport : socket.port < portLimit) :
    SocketAddress.read? (ofSocket socket).display.toList = some socket := by
  obtain ⟨address, port⟩ := socket
  cases address with
  | v4 a b c d =>
    rw [display_octets]
    exact SocketAddress.read?_octets (octets?_showOctets hfits) (Address.head?_chars (.v4 a b c d)) hport
  | v6 groups =>
    have hshows := shows_chars groups
    have hscope : '%' ∉ (Address.v6 groups).chars := fun hmem => by
      rcases hshows.of_mem hmem with h | h | h <;> cases h
    rw [display_groups hfits.1]
    exact SocketAddress.read?_groups (hshows.version6? hfits) hscope hport

end BoundAddress

/-- Addresses survive being shown. Whatever text is read as a socket address, the text of what is bound to it is read
as the same address and socket again, so what is bound is the same; and a listener with this host and socket is bound
by this text. -/
theorem addresses_survive_display {text : String} {socket : SocketAddress}
    (hread : SocketAddress.read? text.toList = some socket) :
    let bound := BoundAddress.ofSocket socket
    (∃ again, SocketAddress.read? bound.display.toList = some again
      ∧ again.address = socket.address ∧ again.port = socket.port
      ∧ BoundAddress.ofSocket again = bound)
    ∧ Listener.bindAddress ⟨bound.host, bound.port⟩ = bound.display := by
  obtain ⟨hfits, hport⟩ := SocketAddress.fits_of_read? hread
  have hopen : (BoundAddress.ofSocket socket).host.toList.head? ≠ some '[' := by
    simpa [BoundAddress.ofSocket, Address.show] using Address.head?_chars socket.address
  exact ⟨⟨socket, BoundAddress.read?_display hfits hport, rfl, rfl, rfl⟩, Listener.bindAddress_eq_display hopen _⟩

/-- Of two runs of zero groups one is left out, the socket loses its zeros, and a scope is not kept. -/
theorem addresses_survive_display_scoped :
    let bound : BoundAddress := ⟨"1:0:0:2::3", 80⟩
    (∃ again, SocketAddress.read? bound.display.toList = some again ∧ BoundAddress.ofSocket again = bound)
      ∧ Listener.bindAddress ⟨bound.host, bound.port⟩ = bound.display := by
  have hread : SocketAddress.read? "[1:0:0:2::0:3%7]:080".toList = some ⟨.v6 [1, 0, 0, 2, 0, 0, 0, 3], 80⟩ := by
    decide
  have hbound : BoundAddress.ofSocket ⟨.v6 [1, 0, 0, 2, 0, 0, 0, 3], 80⟩ = ⟨"1:0:0:2::3", 80⟩ := by
    decide +kernel
  obtain ⟨⟨again, hagain, -, -, hsame⟩, hwritten⟩ := addresses_survive_display hread
  rw [hbound] at hagain hsame hwritten
  exact ⟨⟨again, hagain, hsame⟩, hwritten⟩

end GracefulService
