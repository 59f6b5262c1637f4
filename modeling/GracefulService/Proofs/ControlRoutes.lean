import GracefulService.Proofs.Breaches
import GracefulService.Proofs.Routes
import GracefulService.Proofs.Sessions

/-!
# Whether the control routes can be built

The rules for configurations look at the first character of a path and at whether two paths are the same
text. The routes have rules of their own: braces must make sense, no segment may have a mark of older
notations, and no two paths may claim the same requests. A configuration that is sound and fulfils these
can be served; one that is merely sound opens, and is then lost to whoever listens.
-/

namespace GracefulService

open Http

namespace Config

/-- The configured paths, as texts. -/
def routePaths (config : Config) : List String := config.paths.map (·.2)

/-- Routes can be built for the configured paths: each is written down, and no two of them claim the same
requests. -/
structure Routable (config : Config) : Prop where
  written : ∀ path ∈ config.routePaths, ∃ pieces, Writes path pieces
  apart : config.routePaths.Pairwise fun path other =>
    ∀ ps qs, Writes path ps → Writes other qs → ¬ Contests ps qs

variable {config : Config}

/-- The paths of a sound configuration differ. -/
theorem nodup_routePaths (hsound : config.issues = []) : config.routePaths.Nodup := by
  refine (nodup_fields config).of_map.map_on ?_
  rintro ⟨field, path⟩ hentry ⟨other, otherPath⟩ hother hsame
  obtain rfl : path = otherPath := hsame
  have hfield : field = other :=
    (issues_eq_nil_iff_sound.1 hsound).apart field other path (mem_paths_iff.1 hentry) (mem_paths_iff.1 hother)
  rw [hfield]

/-- The control routes of a sound configuration are on its paths, each on one. -/
theorem controlRoutes_paths (hsound : config.issues = []) :
    (Supervisor.controlRoutes config).map (·.1) = config.routePaths := by
  unfold Supervisor.controlRoutes routePaths paths
  cases hmarkdown : config.markdown with
  | none => rfl
  | some markdown =>
    obtain ⟨verb, hverb⟩ := (issues_eq_nil_iff_sound.1 hsound).exists_verb hmarkdown
    simp only [hverb]
    rfl

/-- The control routes of a sound configuration can be built exactly when its paths allow it. -/
theorem build_controlRoutes_iff (hsound : config.issues = []) :
    (∃ control, RouteTable.build (Supervisor.controlRoutes config) = .ok control) ↔ config.Routable := by
  have hpaths := controlRoutes_paths hsound
  rw [RouteTable.build_iff (by rw [hpaths]; exact nodup_routePaths hsound)]
  constructor
  · rintro ⟨hwritten, hapart⟩
    constructor
    · rw [← hpaths]
      exact List.forall_mem_map.2 hwritten
    · rw [← hpaths]
      exact List.pairwise_map.2 hapart
  · rintro ⟨hwritten, hapart⟩
    rw [← hpaths] at hwritten hapart
    exact ⟨fun route hroute => hwritten _ (List.mem_map_of_mem hroute), List.pairwise_map.1 hapart⟩

/-- A sound configuration whose paths have no braces and no marks of older notations is routable. -/
theorem routable_of_plain (hsound : config.issues = []) (hplain : ∀ path ∈ config.routePaths, IsPlain path) :
    config.Routable where
  written path hpath := ⟨_, (hplain path hpath).writes⟩
  apart := by
    refine (nodup_routePaths hsound).imp_of_mem ?_
    intro path other hpath hother hdiffer ps qs hps hqs hcontests
    rw [hps.unique (hplain path hpath).writes, hqs.unique (hplain other hother).writes] at hcontests
    exact hdiffer (String.toList_injective (contests_plainly hcontests))

/-- The usual paths have no holes. -/
theorem plain_usual : ∀ path ∈ Config.usual.routePaths, IsPlain path := by
  intro path hpath
  have hcases : path = "/health" ∨ path = "/ready" := by
    simpa [routePaths, paths, Config.usual, ProbePaths.usual] using hpath
  rcases hcases with rfl | rfl <;> exact ⟨by decide, by decide, by decide, by decide⟩

/-- The usual control routes can be built. -/
theorem build_usual : ∃ control, RouteTable.build (Supervisor.controlRoutes .usual) = .ok control :=
  (build_controlRoutes_iff (by decide)).2 (routable_of_plain (by decide) plain_usual)

end Config

namespace Session

/-- Nothing is served. -/
def ServesNothing (s : Session) : Prop := s.supervisor.site = none ∧ s.listeners = []

/-- Where the control routes cannot be built, no call makes a service serve. -/
theorem ServesNothing.take {s after : Session} (h : s.ServesNothing) (htakes : s.Takes after)
    (hbuild : ¬ ∃ control, RouteTable.build (Supervisor.controlRoutes s.supervisor.config) = .ok control) :
    after.ServesNothing := by
  obtain ⟨hsite, hlisteners⟩ := h
  cases htakes with
  | goesOn hopening hdone | ends hopening hdone => exact ⟨by cases hdone <;> exact hsite, hlisteners⟩
  | letIn =>
    refine ⟨?_, hlisteners⟩
    have hworld := Supervisor.admitRequests_eq s.supervisor
    simp only
    rw [hworld]
    exact hsite
  | served hbuilt => exact absurd ⟨_, hbuilt⟩ hbuild
  | aside haside =>
    refine ⟨?_, hlisteners⟩
    have hworld := Supervisor.move_aside (s := s.supervisor) haside
    simp only
    rw [hworld]
    exact hsite
  | _ => exact ⟨hsite, hlisteners⟩

/-- Where the control routes cannot be built, nothing is ever served. -/
theorem ServesNothing.run {s : Session} (h : s.ServesNothing) (calls : List Call)
    (hbuild : ¬ ∃ control, RouteTable.build (Supervisor.controlRoutes s.supervisor.config) = .ok control) :
    (s.run calls).ServesNothing := by
  induction calls generalizing s with
  | nil => exact h
  | cons call later ih =>
    have htakes := takes_take s call
    refine ih (h.take htakes hbuild) ?_
    rw [htakes.config]
    exact hbuild

/-- Whoever goes on to serve the surfaces is told whether the control routes can be built. -/
theorem hears_serving_iff {s : Session} {place : Nat} {sockets : Sockets}
    (h : s.beginnings[place]? = some (.serve sockets)) (delegate : Delegate) :
    s.Hears (.goOnListening place delegate) .serving
      ↔ ∃ control, RouteTable.build (Supervisor.controlRoutes s.supervisor.config) = .ok control := by
  unfold Hears
  simp only [take, h, begin]
  cases RouteTable.build (Supervisor.controlRoutes s.supervisor.config) <;> simp

/-- The control routes of a sound configuration can be built exactly when its paths are routable; then
whoever has taken the surfaces of the opened service serves them, and otherwise nobody ever does. -/
theorem serving_iff_routable (config : Config) (hsound : config.issues = []) :
    ((∃ control, RouteTable.build (Supervisor.controlRoutes config) = .ok control) ↔ config.Routable)
      ∧ ∀ machine checkup calls,
        let s := (create config machine checkup).run calls
        (∀ place sockets delegate, s.beginnings[place]? = some (.serve sockets) →
          (s.Hears (.goOnListening place delegate) .serving ↔ config.Routable))
        ∧ (¬ config.Routable → s.ServesNothing) := by
  have hbuild := Config.build_controlRoutes_iff hsound
  refine ⟨hbuild, fun machine checkup calls => ?_⟩
  have hconfig := run_config (create config machine checkup) calls
  constructor
  · intro place sockets delegate hplace
    rw [hears_serving_iff hplace, hconfig]
    exact hbuild
  · intro hnot
    exact ServesNothing.run ⟨rfl, rfl⟩ calls fun hbuilt => hnot (hbuild.1 hbuilt)

/-- The usual control routes can be built. -/
theorem serving_iff_routable_usual : Config.usual.issues = []
    ∧ ∃ control, RouteTable.build (Supervisor.controlRoutes .usual) = .ok control :=
  ⟨by decide, (serving_iff_routable .usual (by decide)).1.2
    (Config.routable_of_plain (by decide) Config.plain_usual)⟩

/-- Two paths that claim the same requests differ as texts: the service opens and its phase moves on, but
its surfaces are lost to whoever listens, and nobody can listen again. -/
theorem opened_and_lost :
    let config := { Config.usual with probes := ⟨"/\x7ba\x7d", "/\x7bb\x7d"⟩ }
    let s := (create config (.confined []) none).run
      (attempt 0 (Machine.confined []).bind ++ [.listen,
        .goOnListening 0 Supervisor.closedSite.delegate, .goOnListening 0 Supervisor.closedSite.delegate,
        .listen])
    config.issues = []
      ∧ s.told = [.opened, .taken ⟨⟨"0.0.0.0", 32768⟩, none⟩, .broken (.conflict "/\x7bb\x7d"),
        .refused .alreadyListening]
      ∧ s.supervisor.phase = .listening := by
  decide +kernel

end Session

end GracefulService
