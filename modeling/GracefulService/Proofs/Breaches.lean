import GracefulService.Config.Reading
import Mathlib.Data.List.Nodup

/-!
# Breaches of the rules for configurations

The rules for configurations, without the order they are checked in: what a sound configuration fulfils,
and what breaks a rule, each breach by itself. The list of issues has every breach once and nothing else,
so it is empty for sound configurations only, no breach hides another, and whether a breach is listed
depends on the values it is about alone. Whether an address can be read is left to the reader of addresses.
-/

namespace GracefulService

/-- Where a field of a path stands among those of a configuration. -/
def PathField.place : PathField → Nat
  | health => 0
  | ready => 1
  | markdown => 2

namespace Config

/-- A configuration sets a path. -/
inductive Sets (config : Config) : PathField → String → Prop
  | health : Sets config .health config.probes.health
  | ready : Sets config .ready config.probes.ready
  | markdown (markdown : MarkdownRoute) (hmarkdown : config.markdown = some markdown) :
      Sets config .markdown markdown.path

/-- A path starts at the root. -/
def StartsAtRoot (path : String) : Prop := ∃ rest, path.toList = '/' :: rest

/-- A configuration fulfils all rules. -/
structure Sound (config : Config) : Prop where
  /-- Every path starts at the root. -/
  rooted : ∀ field path, config.Sets field path → StartsAtRoot path
  /-- No path is set twice. -/
  apart : ∀ first second path, config.Sets first path → config.Sets second path → first = second
  /-- A mark-down route has a standard method. -/
  standard : ∀ markdown, config.markdown = some markdown → ∃ verb : Http.Verb, verb.name = markdown.method
  /-- Requests in flight are waited for. -/
  waits : 0 < config.drain.window
  /-- Metrics that are enabled have a socket address. -/
  addressed : config.observability.metricsEnabled = true →
    ∃ address, Net.SocketAddress.read? config.observability.metricsAddress.toList = some address

/-- What breaks a rule. -/
inductive Breach (config : Config) : Issue → Prop
  /-- A path does not start at the root. -/
  | relativePath (field : PathField) (path : String) (hsets : config.Sets field path)
      (hrelative : ¬ StartsAtRoot path) : Breach config (.relativePath field path)
  /-- Two paths are the same; the one that is declared first is named first. -/
  | duplicatePath (first second : PathField) (path : String) (hfirst : config.Sets first path)
      (hsecond : config.Sets second path) (horder : first.place < second.place) :
      Breach config (.duplicatePath first second path)
  /-- Requests in flight are not waited for. -/
  | emptyWindow (hwindow : config.drain.window = 0) : Breach config .emptyWindow
  /-- A mark-down route has a method that is not a standard one. -/
  | unknownMethod (markdown : MarkdownRoute) (hmarkdown : config.markdown = some markdown)
      (hunknown : ∀ verb : Http.Verb, verb.name ≠ markdown.method) : Breach config (.unknownMethod markdown.method)
  /-- Metrics are enabled without a socket address. -/
  | metricsAddress (henabled : config.observability.metricsEnabled = true)
      (hnone : Net.SocketAddress.read? config.observability.metricsAddress.toList = none) :
      Breach config (.metricsAddress config.observability.metricsAddress)

/-- Two configurations agree on the values that an issue is about. -/
def AgreesOn (config other : Config) : Issue → Prop
  | .relativePath field _ => ∀ path, config.Sets field path ↔ other.Sets field path
  | .duplicatePath first second _ => ∀ path, (config.Sets first path ↔ other.Sets first path)
      ∧ (config.Sets second path ↔ other.Sets second path)
  | .emptyWindow => config.drain.window = other.drain.window
  | .unknownMethod _ => config.markdown.map MarkdownRoute.method = other.markdown.map MarkdownRoute.method
  | .metricsAddress _ => config.observability.metricsEnabled = other.observability.metricsEnabled
      ∧ config.observability.metricsAddress = other.observability.metricsAddress

variable {config : Config} {issue : Issue} {earlier paths : List (PathField × String)}

/-! ## What is listed -/

/-- A path is absolute exactly when it starts at the root. -/
theorem isAbsolute_iff (path : String) : isAbsolute path = true ↔ StartsAtRoot path := by
  rw [isAbsolute, decide_eq_true_iff, List.head?_eq_some_iff]
  rfl

/-- The listed paths are those that are set. -/
theorem mem_paths_iff {field : PathField} {path : String} :
    (field, path) ∈ config.paths ↔ config.Sets field path := by
  constructor
  · intro hmem
    rw [paths, List.mem_append, List.mem_map] at hmem
    rcases hmem with hprobe | ⟨markdown, hmarkdown, hentry⟩
    · rcases List.mem_pair.1 hprobe with heq | heq
      · cases heq
        exact .health
      · cases heq
        exact .ready
    · cases hentry
      exact .markdown markdown (Option.mem_toList.1 hmarkdown)
  · intro hsets
    cases hsets with
    | health => simp [paths]
    | ready => simp [paths]
    | markdown markdown hmarkdown => simp [paths, hmarkdown]

/-- The paths of a configuration are in the order of their fields. -/
theorem paths_ordered (config : Config) : config.paths.Pairwise fun entry other => entry.1.place < other.1.place := by
  unfold paths
  cases config.markdown <;> simp [PathField.place]

/-- No field stands twice among the paths of a configuration. -/
theorem nodup_fields (config : Config) : (config.paths.map (·.1)).Nodup := by
  refine List.pairwise_map.2 ((paths_ordered config).imp fun hplace heq => ?_)
  rw [heq] at hplace
  exact Nat.lt_irrefl _ hplace

/-- A path is reported when it is relative, and once for every earlier field with the same path. -/
theorem mem_pathIssues {field : PathField} {path : String} :
    issue ∈ pathIssues earlier field path
      ↔ (¬ StartsAtRoot path ∧ issue = .relativePath field path)
        ∨ ∃ first, (first, path) ∈ earlier ∧ issue = .duplicatePath first field path := by
  rw [pathIssues, List.mem_append, List.mem_map, ← isAbsolute_iff]
  apply or_congr
  · cases isAbsolute path <;> simp
  · constructor
    · rintro ⟨⟨first, other⟩, hother, rfl⟩
      obtain ⟨hmem, hsame⟩ := List.mem_filter.1 hother
      obtain rfl : other = path := by simpa using hsame
      exact ⟨first, hmem, rfl⟩
    · rintro ⟨first, hmem, rfl⟩
      exact ⟨(first, path), List.mem_filter.2 ⟨hmem, by simp⟩, rfl⟩

/-- Among all paths, the relative ones are reported, and every two of the same text. -/
theorem mem_allPathIssues
    (hordered : (earlier ++ paths).Pairwise fun entry other => entry.1.place < other.1.place) :
    issue ∈ allPathIssues earlier paths
      ↔ (∃ field path, (field, path) ∈ paths ∧ ¬ StartsAtRoot path ∧ issue = .relativePath field path)
        ∨ ∃ first second path, (first, path) ∈ earlier ++ paths ∧ (second, path) ∈ paths
          ∧ first.place < second.place ∧ issue = .duplicatePath first second path := by
  induction paths generalizing earlier with
  | nil => simp [allPathIssues]
  | cons entry paths ih =>
    obtain ⟨field, path⟩ := entry
    have hmoved : earlier ++ (field, path) :: paths = (earlier ++ [(field, path)]) ++ paths := by simp
    rw [allPathIssues, List.mem_append, mem_pathIssues, ih (hmoved ▸ hordered), hmoved]
    obtain ⟨-, hlater, hbefore⟩ := List.pairwise_append.1 hordered
    constructor
    · rintro ((⟨hrelative, rfl⟩ | ⟨first, hfirst, rfl⟩) | (⟨other, path', hmem, hrelative, rfl⟩
        | ⟨first, second, path', hfirst, hsecond, hplace, rfl⟩))
      · exact .inl ⟨field, path, List.mem_cons_self, hrelative, rfl⟩
      · have hplace : first.place < field.place := hbefore (first, path) hfirst (field, path) List.mem_cons_self
        exact .inr ⟨first, field, path, by simp [hfirst], List.mem_cons_self, hplace, rfl⟩
      · exact .inl ⟨other, path', List.mem_cons_of_mem _ hmem, hrelative, rfl⟩
      · exact .inr ⟨first, second, path', hfirst, List.mem_cons_of_mem _ hsecond, hplace, rfl⟩
    · rintro (⟨other, path', hmem, hrelative, rfl⟩ | ⟨first, second, path', hfirst, hsecond, hplace, rfl⟩)
      · rcases List.mem_cons.1 hmem with heq | hmem
        · cases heq
          exact .inl (.inl ⟨hrelative, rfl⟩)
        · exact .inr (.inl ⟨other, path', hmem, hrelative, rfl⟩)
      · rcases List.mem_cons.1 hsecond with heq | hsecond
        · cases heq
          -- what is declared before this entry stands before it
          rcases List.mem_append.1 hfirst with hfirst | hfirst
          · rcases List.mem_append.1 hfirst with hfirst | hfirst
            · exact .inl (.inr ⟨first, hfirst, rfl⟩)
            · cases List.mem_singleton.1 hfirst
              exact absurd hplace (Nat.lt_irrefl _)
          · exact absurd ((List.pairwise_cons.1 hlater).1 (first, path) hfirst) (Nat.lt_asymm hplace)
        · exact .inr (.inr ⟨first, second, path', hfirst, hsecond, hplace, rfl⟩)

/-- A name is not that of a standard method exactly when no standard method has it. -/
theorem ofName?_eq_none_iff {name : String} :
    Http.Verb.ofName? name = none ↔ ∀ verb : Http.Verb, verb.name ≠ name := by
  have hall : ∀ verb, verb ∈ Http.Verb.all := by
    intro verb
    cases verb <;> decide
  simp [Http.Verb.ofName?, hall]

/-- The method is objected to exactly when no standard one has its name. -/
theorem mem_methodIssues : issue ∈ config.methodIssues ↔ ∃ markdown, config.markdown = some markdown
    ∧ (∀ verb : Http.Verb, verb.name ≠ markdown.method) ∧ issue = .unknownMethod markdown.method := by
  rw [methodIssues]
  cases config.markdown with
  | none => simp
  | some markdown =>
    simp only [Option.some.injEq, exists_eq_left', ← ofName?_eq_none_iff]
    cases Http.Verb.ofName? markdown.method <;> simp

/-- The window is objected to exactly when it is empty. -/
theorem mem_windowIssues : issue ∈ config.windowIssues ↔ config.drain.window = 0 ∧ issue = .emptyWindow := by
  unfold windowIssues
  split <;> simp_all

/-- The address for metrics is objected to exactly when they are enabled and it cannot be read. -/
theorem mem_metricsIssues : issue ∈ config.metricsIssues ↔ config.observability.metricsEnabled = true
    ∧ Net.SocketAddress.read? config.observability.metricsAddress.toList = none
    ∧ issue = .metricsAddress config.observability.metricsAddress := by
  unfold metricsIssues
  simp only [Option.isNone_iff_eq_none]
  split <;> simp_all

/-- The paths of a configuration are reported when they are relative, and every two of the same text. -/
theorem mem_allPathIssues_paths : issue ∈ allPathIssues [] config.paths
    ↔ (∃ field path, config.Sets field path ∧ ¬ StartsAtRoot path ∧ issue = .relativePath field path)
      ∨ ∃ first second path, config.Sets first path ∧ config.Sets second path
        ∧ first.place < second.place ∧ issue = .duplicatePath first second path := by
  rw [mem_allPathIssues (by simpa using paths_ordered config)]
  simp only [List.nil_append, mem_paths_iff]

/-- Exactly the breaches are listed. -/
theorem mem_issues_iff : issue ∈ config.issues ↔ config.Breach issue := by
  rw [issues, List.mem_append, List.mem_append, List.mem_append, mem_methodIssues, mem_allPathIssues_paths,
    mem_windowIssues, mem_metricsIssues]
  constructor
  · rintro (((⟨markdown, hmarkdown, hunknown, rfl⟩ | ⟨field, path, hsets, hrelative, rfl⟩
        | ⟨first, second, path, hfirst, hsecond, hplace, rfl⟩) | ⟨hwindow, rfl⟩) | ⟨henabled, hnone, rfl⟩)
    · exact .unknownMethod markdown hmarkdown hunknown
    · exact .relativePath field path hsets hrelative
    · exact .duplicatePath first second path hfirst hsecond hplace
    · exact .emptyWindow hwindow
    · exact .metricsAddress henabled hnone
  · intro hbreach
    cases hbreach with
    | relativePath field path hsets hrelative => exact .inl (.inl (.inr (.inl ⟨field, path, hsets, hrelative, rfl⟩)))
    | duplicatePath first second path hfirst hsecond hplace =>
      exact .inl (.inl (.inr (.inr ⟨first, second, path, hfirst, hsecond, hplace, rfl⟩)))
    | emptyWindow hwindow => exact .inl (.inr ⟨hwindow, rfl⟩)
    | unknownMethod markdown hmarkdown hunknown => exact .inl (.inl (.inl ⟨markdown, hmarkdown, hunknown, rfl⟩))
    | metricsAddress henabled hnone => exact .inr ⟨henabled, hnone, rfl⟩

/-! ## Each breach once -/

/-- The field whose path is reported. -/
def subject? : Issue → Option PathField
  | .relativePath field _ => some field
  | .duplicatePath _ second _ => some second
  | _ => none

/-- Whatever is objected to about paths is about one of them. -/
theorem subject?_of_mem_allPathIssues (h : issue ∈ allPathIssues earlier paths) :
    ∃ entry ∈ paths, subject? issue = some entry.1 := by
  induction paths generalizing earlier with
  | nil => simp [allPathIssues] at h
  | cons entry paths ih =>
    rw [allPathIssues, List.mem_append] at h
    rcases h with hfirst | hlater
    · refine ⟨entry, List.mem_cons_self, ?_⟩
      rcases mem_pathIssues.1 hfirst with ⟨-, rfl⟩ | ⟨first, -, rfl⟩ <;> rfl
    · obtain ⟨other, hother, hsubject⟩ := ih hlater
      exact ⟨other, List.mem_cons_of_mem _ hother, hsubject⟩

/-- No breach of one path is reported twice. -/
theorem nodup_pathIssues (hfields : (earlier.map (·.1)).Nodup) (field : PathField) (path : String) :
    (pathIssues earlier field path).Nodup := by
  have hearlier : (earlier.filter fun other => other.2 = path).Pairwise fun entry other => entry.1 ≠ other.1 :=
    (List.pairwise_map.1 hfields).sublist List.filter_sublist
  refine List.nodup_append.2 ⟨?_, List.pairwise_map.2 (hearlier.imp fun hdiffer heq => ?_), ?_⟩
  · split <;> simp
  · exact hdiffer (Issue.duplicatePath.inj heq).1
  · intro issue hrelative other hduplicate
    obtain ⟨entry, -, rfl⟩ := List.mem_map.1 hduplicate
    split at hrelative
    · simp at hrelative
    · cases List.mem_singleton.1 hrelative
      simp

/-- No breach of any path is reported twice. -/
theorem nodup_allPathIssues (hfields : ((earlier ++ paths).map (·.1)).Nodup) :
    (allPathIssues earlier paths).Nodup := by
  induction paths generalizing earlier with
  | nil => exact List.nodup_nil
  | cons entry paths ih =>
    have hmoved : earlier ++ entry :: paths = (earlier ++ [entry]) ++ paths := by simp
    have hearlier : (earlier.map (·.1)).Nodup := by
      rw [List.map_append] at hfields
      exact (List.nodup_append.1 hfields).1
    refine List.nodup_append.2 ⟨nodup_pathIssues hearlier entry.1 entry.2, ih (hmoved ▸ hfields), ?_⟩
    rintro issue hfirst _ hlater rfl
    have hsubject : subject? issue = some entry.1 := by
      rcases mem_pathIssues.1 hfirst with ⟨-, rfl⟩ | ⟨first, -, rfl⟩ <;> rfl
    obtain ⟨other, hother, hsame⟩ := subject?_of_mem_allPathIssues hlater
    rw [List.map_append, List.map_cons] at hfields
    have hnot := (List.nodup_cons.1 (List.nodup_append.1 hfields).2.1).1
    rw [hsubject] at hsame
    exact hnot (List.mem_map.2 ⟨other, hother, (Option.some.inj hsame).symm⟩)

/-- No breach is listed twice. -/
theorem nodup_issues (config : Config) : config.issues.Nodup := by
  have hpaths : (allPathIssues [] config.paths).Nodup := nodup_allPathIssues (nodup_fields config)
  have hmethod : config.methodIssues.Nodup := by
    unfold methodIssues
    split
    · split <;> simp
    · simp
  have hwindow : config.windowIssues.Nodup := by
    unfold windowIssues
    split <;> simp
  have hmetrics : config.metricsIssues.Nodup := by
    unfold metricsIssues
    simp only
    split <;> simp
  -- issues of different rules are of different kinds
  have hnamed : (config.methodIssues ++ allPathIssues [] config.paths).Nodup := by
    refine List.nodup_append.2 ⟨hmethod, hpaths, ?_⟩
    rintro issue hfirst _ hlater rfl
    obtain ⟨markdown, -, -, rfl⟩ := mem_methodIssues.1 hfirst
    obtain ⟨entry, -, hsubject⟩ := subject?_of_mem_allPathIssues hlater
    cases hsubject
  have hwaited : (config.methodIssues ++ allPathIssues [] config.paths ++ config.windowIssues).Nodup := by
    refine List.nodup_append.2 ⟨hnamed, hwindow, ?_⟩
    rintro issue hfirst _ hlater rfl
    obtain ⟨-, rfl⟩ := mem_windowIssues.1 hlater
    rcases List.mem_append.1 hfirst with hmethod | hpath
    · obtain ⟨markdown, -, -, hkind⟩ := mem_methodIssues.1 hmethod
      cases hkind
    · obtain ⟨entry, -, hsubject⟩ := subject?_of_mem_allPathIssues hpath
      cases hsubject
  refine List.nodup_append.2 ⟨hwaited, hmetrics, ?_⟩
  rintro issue hfirst _ hlater rfl
  obtain ⟨-, -, rfl⟩ := mem_metricsIssues.1 hlater
  rcases List.mem_append.1 hfirst with hfirst | hwindow
  · rcases List.mem_append.1 hfirst with hmethod | hpath
    · obtain ⟨markdown, -, -, hkind⟩ := mem_methodIssues.1 hmethod
      cases hkind
    · obtain ⟨entry, -, hsubject⟩ := subject?_of_mem_allPathIssues hpath
      cases hsubject
  · cases (mem_windowIssues.1 hwindow).2

/-- A breach is listed once. -/
theorem count_of_breach (hbreach : config.Breach issue) : config.issues.count issue = 1 :=
  List.count_eq_one_of_mem (nodup_issues config) (mem_issues_iff.2 hbreach)

/-- What is no breach is not listed. -/
theorem count_of_not_breach (hnone : ¬ config.Breach issue) : config.issues.count issue = 0 :=
  List.count_eq_zero_of_not_mem fun hmem => hnone (mem_issues_iff.1 hmem)

/-! ## Soundness -/

/-- Fields with the same place are the same. -/
theorem place_injective {first second : PathField} (h : first.place = second.place) : first = second := by
  cases first <;> cases second <;> first | rfl | cases h

/-- A configuration is sound exactly when nothing breaks a rule. -/
theorem sound_iff : config.Sound ↔ ∀ issue, ¬ config.Breach issue := by
  constructor
  · intro hsound issue hbreach
    cases hbreach with
    | relativePath field path hsets hrelative => exact hrelative (hsound.rooted field path hsets)
    | duplicatePath first second path hfirst hsecond hplace =>
      rw [hsound.apart first second path hfirst hsecond] at hplace
      exact Nat.lt_irrefl _ hplace
    | emptyWindow hwindow => exact absurd hwindow (Nat.ne_of_gt hsound.waits)
    | unknownMethod markdown hmarkdown hunknown =>
      obtain ⟨verb, hverb⟩ := hsound.standard markdown hmarkdown
      exact hunknown verb hverb
    | metricsAddress henabled hnone =>
      obtain ⟨address, haddress⟩ := hsound.addressed henabled
      rw [haddress] at hnone
      cases hnone
  · intro hnone
    constructor
    · intro field path hsets
      by_contra hrelative
      exact hnone _ (.relativePath field path hsets hrelative)
    · intro first second path hfirst hsecond
      by_contra hdiffer
      rcases Nat.lt_or_gt_of_ne fun hplace => hdiffer (place_injective hplace) with hless | hgreater
      · exact hnone _ (.duplicatePath first second path hfirst hsecond hless)
      · exact hnone _ (.duplicatePath second first path hsecond hfirst hgreater)
    · intro markdown hmarkdown
      by_contra hunknown
      exact hnone _ (.unknownMethod markdown hmarkdown (not_exists.1 hunknown))
    · exact Nat.pos_of_ne_zero fun hwindow => hnone _ (.emptyWindow hwindow)
    · intro henabled
      refine Option.ne_none_iff_exists'.1 fun haddress => ?_
      exact hnone _ (.metricsAddress henabled haddress)

/-- Nothing is listed exactly for a sound configuration. -/
theorem issues_eq_nil_iff_sound : config.issues = [] ↔ config.Sound := by
  rw [sound_iff, List.eq_nil_iff_forall_not_mem]
  simp only [mem_issues_iff]

/-- The method of a mark-down route in a sound configuration is found among the standard ones. -/
theorem Sound.exists_verb (hsound : config.Sound) {markdown : MarkdownRoute}
    (hmarkdown : config.markdown = some markdown) : ∃ verb, Http.Verb.ofName? markdown.method = some verb := by
  refine Option.ne_none_iff_exists'.1 fun hnone => ?_
  obtain ⟨verb, hverb⟩ := hsound.standard markdown hmarkdown
  exact ofName?_eq_none_iff.1 hnone verb hverb

/-! ## What a breach depends on -/

/-- A breach remains one in a configuration that agrees on what it is about. -/
theorem Breach.of_agreesOn {other : Config} (hagrees : config.AgreesOn other issue) (hbreach : config.Breach issue) :
    other.Breach issue := by
  cases hbreach with
  | relativePath field path hsets hrelative => exact .relativePath field path ((hagrees path).1 hsets) hrelative
  | duplicatePath first second path hfirst hsecond hplace =>
    exact .duplicatePath first second path ((hagrees path).1.1 hfirst) ((hagrees path).2.1 hsecond) hplace
  | emptyWindow hwindow => exact .emptyWindow (hagrees.symm.trans hwindow)
  | unknownMethod markdown hmarkdown hunknown =>
    have hmethod : other.markdown.map MarkdownRoute.method = some markdown.method := by
      rw [← show config.markdown.map MarkdownRoute.method = _ from hagrees, hmarkdown]
      rfl
    obtain ⟨route, hroute, hsame⟩ := Option.map_eq_some_iff.1 hmethod
    rw [← hsame] at hunknown ⊢
    exact .unknownMethod route hroute hunknown
  | metricsAddress henabled hnone =>
    obtain ⟨hsameEnabled, hsameAddress⟩ := hagrees
    rw [hsameAddress] at hnone ⊢
    exact .metricsAddress (hsameEnabled ▸ henabled) hnone

/-- Configurations that agree on an issue do so both ways. -/
theorem AgreesOn.symm {other : Config} (hagrees : config.AgreesOn other issue) : other.AgreesOn config issue := by
  cases issue with
  | relativePath => exact fun path => (hagrees path).symm
  | duplicatePath => exact fun path => ⟨(hagrees path).1.symm, (hagrees path).2.symm⟩
  | emptyWindow => exact Eq.symm hagrees
  | unknownMethod => exact Eq.symm hagrees
  | metricsAddress => exact ⟨hagrees.1.symm, hagrees.2.symm⟩

/-- How often an issue is listed depends on what it is about alone. -/
theorem count_of_agreesOn {other : Config} (hagrees : config.AgreesOn other issue) :
    config.issues.count issue = other.issues.count issue := by
  by_cases hbreach : config.Breach issue
  · rw [count_of_breach hbreach, count_of_breach (hbreach.of_agreesOn hagrees)]
  · rw [count_of_not_breach hbreach, count_of_not_breach fun hother => hbreach (hother.of_agreesOn hagrees.symm)]

/-- Checking a configuration finds nothing exactly when it is sound; it finds every breach once and nothing
else, each from the values it is about alone; and a text that holds the configuration is read exactly when
nothing is found. -/
theorem issues_exact (config : Config) :
    (config.issues = [] ↔ config.Sound)
      ∧ (∀ issue, (config.Breach issue → config.issues.count issue = 1)
        ∧ (¬ config.Breach issue → config.issues.count issue = 0))
      ∧ (∀ other issue, config.AgreesOn other issue → config.issues.count issue = other.issues.count issue)
      ∧ ∀ text, ofText? text = some config →
        (read text = .ok config ↔ config.issues = [])
          ∧ (config.issues ≠ [] → read text = .error (.unsound config.issues)) := by
  refine ⟨issues_eq_nil_iff_sound, fun issue => ⟨count_of_breach, count_of_not_breach⟩,
    fun other issue => count_of_agreesOn, fun text htext => ?_⟩
  rw [read, htext]
  cases hissues : config.issues with
  | nil => simp [checked, hissues]
  | cons first later => simp [checked, hissues]

/-- A configuration with relative paths that are all the same, a method in small letters, an empty window
and metrics without an address. -/
def spoiled : Config :=
  { Config.usual with
    probes := ⟨"x", "x"⟩, drain := ⟨0, 500⟩, markdown := some ⟨"x", "post"⟩,
    observability := ⟨"info", false, true, "nowhere"⟩ }

/-- The text of the spoiled configuration is refused, for nine reasons. -/
theorem issues_exact_spoiled :
    let text := "probes = [\"x\", \"x\"]\ndrain = [0]\nmarkdown = [\"x\", \"post\"]\n" ++
      "[observability]\nmetrics_enabled = true\nmetrics_address = \"nowhere\""
    ofText? text = some spoiled ∧ read text = .error (.unsound spoiled.issues)
      ∧ spoiled.Breach (.duplicatePath .health .markdown "x")
      ∧ spoiled.issues.count (.duplicatePath .health .markdown "x") = 1 ∧ spoiled.issues.length = 9 := by
  intro text
  have htext : ofText? text = some spoiled := by decide +kernel
  have hbreach : spoiled.Breach (.duplicatePath .health .markdown "x") :=
    .duplicatePath .health .markdown "x" .health (.markdown ⟨"x", "post"⟩ rfl) (by decide)
  have hexact := issues_exact spoiled
  exact ⟨htext, (hexact.2.2.2 text htext).2 (by decide +kernel), hbreach, (hexact.2.1 _).1 hbreach, by decide +kernel⟩

end Config

end GracefulService
