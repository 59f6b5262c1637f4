import GracefulService.Proofs.Probes

/-!
# Where requests go

Paths without holes are matched as texts. So where a configuration has only such paths, a table of its
control routes serves exactly the requests for its paths, each by the route with that very path, and
everything else is left to the surface: the gate on the primary surface, nobody on the management surface.
-/

namespace GracefulService.Http

/-- A path that stands for itself: it has no braces, and no segment has a mark of older notations. -/
structure IsLiteral (path : String) : Prop where
  current : hasOldNotation path.toList = false
  openless : '\x7b' ∉ path.toList
  closeless : '\x7d' ∉ path.toList

/-- From the root such a path is plain. -/
theorem IsLiteral.isPlain {path : String} (h : IsLiteral path) (habsolute : path.toList.head? = some '/') :
    IsPlain path :=
  ⟨habsolute, h.current, h.openless, h.closeless⟩

namespace RouteTable

variable {α : Type} {table : RouteTable α} {added : List (String × Verb × α)}

/-- Where every path was added once, a route has the one action that was added for its path. -/
theorem Holds.actions_eq (h : table.Holds added) (hdistinct : (added.map (·.1)).Nodup)
    {route : Route α} (hroute : route ∈ table.routes) {verb : Verb} {action : α}
    (hadded : (route.path, verb, action) ∈ added) : route.actions = [(verb, action)] := by
  have hall : ∀ held ∈ route.actions, held = (verb, action) := by
    intro held hheld
    have hsource : (route.path, held) ∈ added := (h.actions _ _ _).2 ⟨route, hroute, rfl, hheld⟩
    have hsame := List.inj_on_of_nodup_map hdistinct hsource hadded rfl
    exact (Prod.mk.inj hsame).2
  have hverbs := h.verbs route hroute
  have hacting := h.acting route hroute
  generalize route.actions = actions at hall hverbs hacting ⊢
  cases actions with
  | nil => exact absurd rfl hacting
  | cons first later =>
    have hfirst := hall first List.mem_cons_self
    cases later with
    | nil => rw [hfirst]
    | cons second rest =>
      -- a second action would be for the same method
      have hsecond := hall second (List.mem_cons_of_mem _ List.mem_cons_self)
      rw [hfirst, hsecond] at hverbs
      simp at hverbs

/-- A route with one action does it for the methods that it serves. -/
theorem action?_single {route : Route α} {verb : Verb} {action : α}
    (hactions : route.actions = [(verb, action)]) (method : Method) :
    route.action? method = if verb.serves method then some action else none := by
  have hown : Method.standard verb = method → verb.serves method = true := by
    rintro rfl
    simp [Verb.serves]
  unfold Route.action?
  rw [hactions]
  by_cases hstandard : Method.standard verb = method
  · simp [hstandard, hown hstandard]
  · cases hserves : verb.serves method <;> simp [hstandard, hserves]

/-- A request is up to the one action that was added for the path of its route. -/
theorem Holds.dispatch_routed (h : table.Holds added) (hdistinct : (added.map (·.1)).Nodup)
    {request : Request} {path : String} (hroutes : table.Routes request.target.path path) {verb : Verb}
    {action : α} (hadded : (path, verb, action) ∈ added) :
    table.dispatch request
      = if verb.serves request.method then .served action else .otherMethods verb.allowed := by
  obtain ⟨route, hfound, rfl⟩ := hroutes
  have hactions := h.actions_eq hdistinct (mem_of_route? hfound) hadded
  have hallowed : route.allowed = verb.allowed := by
    unfold Route.allowed
    rw [hactions]
    rfl
  unfold dispatch
  rw [hfound]
  simp only [action?_single hactions, hallowed]
  cases verb.serves request.method <;> rfl

/-- Where only plain paths were added, a request for any other path is left alone. -/
theorem Holds.dispatch_other (h : table.Holds added) (hplain : ∀ route ∈ added, IsPlain route.1)
    {request : Request} (hother : request.target.path ∉ added.map (·.1)) :
    table.dispatch request = .unknown := by
  have hnone : table.routes.filter (fun route => fits route.pieces request.target.path.toList) = [] := by
    rw [List.filter_eq_nil_iff]
    intro route hroute hfits
    obtain ⟨held, hheld⟩ := List.exists_mem_of_ne_nil _ (h.acting route hroute)
    have hadded : (route.path, held) ∈ added := (h.actions _ _ _).2 ⟨route, hroute, rfl, hheld⟩
    have hpieces := (h.written route hroute).unique (hplain _ hadded).writes
    rw [hpieces] at hfits
    have hsame : request.target.path = route.path := String.toList_injective (fits_plainly.1 hfits)
    rw [hsame] at hother
    exact hother (List.mem_map_of_mem hadded)
  have hroute : table.route? request.target.path = none := by
    unfold route?
    rw [hnone]
    rfl
  unfold dispatch
  rw [hroute]

end RouteTable

end GracefulService.Http

namespace GracefulService

open Http

namespace Config

variable {config : Config}

/-- All configured paths stand for themselves. -/
def IsLiteral (config : Config) : Prop := ∀ path ∈ config.routePaths, Http.IsLiteral path

/-- The control routes stand on a surface: the management surface or, where there is none, the primary
one. -/
def StandsOn (config : Config) (surface : Surface) : Prop :=
  surface = .management ∨ config.management = none

/-- The paths of a sound configuration begin at the root. -/
theorem absolute_of_sound (hsound : config.issues = []) :
    ∀ path ∈ config.routePaths, path.toList.head? = some '/' := by
  intro path hpath
  obtain ⟨⟨field, path⟩, hentry, rfl⟩ := List.mem_map.1 hpath
  have hrooted := (issues_eq_nil_iff_sound.1 hsound).rooted field path (mem_paths_iff.1 hentry)
  exact List.head?_eq_some_iff.2 hrooted

/-- Where all paths of a sound configuration are literal, all of them are plain. -/
theorem IsLiteral.plain (hliteral : config.IsLiteral) (hsound : config.issues = []) :
    ∀ path ∈ config.routePaths, IsPlain path :=
  fun path hpath => (hliteral path hpath).isPlain (absolute_of_sound hsound path hpath)

/-- Some control route is on each path of a sound configuration. -/
theorem exists_route (hsound : config.issues = []) {path : String} (hpath : path ∈ config.routePaths) :
    ∃ verb action, (path, verb, action) ∈ Supervisor.controlRoutes config := by
  rw [← controlRoutes_paths hsound] at hpath
  obtain ⟨⟨path, verb, action⟩, hadded, rfl⟩ := List.mem_map.1 hpath
  exact ⟨verb, action, hadded⟩

/-- The mark-down of a sound configuration is on its path, for a standard method. -/
theorem exists_markdown (hsound : config.issues = []) {markdown : MarkdownRoute}
    (hmarkdown : config.markdown = some markdown) :
    ∃ verb, Verb.ofName? markdown.method = some verb
      ∧ (markdown.path, verb, .markdown) ∈ Supervisor.controlRoutes config := by
  obtain ⟨verb, hverb⟩ := (issues_eq_nil_iff_sound.1 hsound).exists_verb hmarkdown
  refine ⟨verb, hverb, ?_⟩
  unfold Supervisor.controlRoutes
  rw [hmarkdown]
  refine List.mem_append_right _ ?_
  simp only [hverb]
  exact List.mem_singleton.2 rfl

end Config

/-- A site offers the control routes of a configuration, on a surface of their own where one is
configured. -/
structure Site.Offers (site : Site) (config : Config) : Prop where
  control : RouteTable.build (Supervisor.controlRoutes config) = .ok site.control
  separate : site.separate = config.management.isSome

/-- Where a surface leaves a request that no control route looks at. -/
def Surface.leftover : Surface → Destination
  | primary => .gate
  | management => .nowhere

namespace Site.Offers

variable {site : Site} {config : Config} {surface : Surface} {request : Request}

/-- Where the control routes stand they look at every request. -/
theorem destination_of_stands (hoffers : site.Offers config) (hstands : config.StandsOn surface) :
    site.destination surface request
      = (site.control.dispatch request).destination surface.leftover := by
  unfold Site.destination
  cases surface with
  | management => rfl
  | primary =>
    have hshared : site.separate = false := by
      rw [hoffers.separate, hstands.resolve_left (by simp)]
      rfl
    rw [hshared]
    rfl

/-- Where they do not stand, every request goes to the gate. -/
theorem destination_of_not_stands (hoffers : site.Offers config) (hstands : ¬ config.StandsOn surface) :
    surface = .primary ∧ site.destination surface request = .gate := by
  cases surface with
  | management => exact absurd (Or.inl rfl) hstands
  | primary =>
    have hsome : config.management.isSome = true := by
      cases hmanagement : config.management with
      | none => exact absurd (Or.inr hmanagement) hstands
      | some listener => rfl
    refine ⟨rfl, ?_⟩
    unfold Site.destination
    simp only [hoffers.separate, hsome, if_true]

/-- A request that is routed to a configured path goes to its route, which serves some methods and refuses the
others. -/
theorem destination_routed (hoffers : site.Offers config) (hsound : config.issues = [])
    (hstands : config.StandsOn surface) {path : String}
    (hroutes : site.control.Routes request.target.path path) {verb : Verb} {action : Control}
    (hadded : (path, verb, action) ∈ Supervisor.controlRoutes config) :
    site.destination surface request
      = if verb.serves request.method then .control action else .otherMethods verb.allowed := by
  have hdistinct : ((Supervisor.controlRoutes config).map (·.1)).Nodup := by
    rw [Config.controlRoutes_paths hsound]
    exact Config.nodup_routePaths hsound
  have hholds := RouteTable.holds_of_build hoffers.control
  rw [hoffers.destination_of_stands hstands, hholds.dispatch_routed hdistinct hroutes hadded]
  split <;> rfl

/-- A plain path that is configured is routed to itself. -/
theorem routes_plain (hoffers : site.Offers config) {path : String} (hplain : IsPlain path) {verb : Verb}
    {action : Control} (hadded : (path, verb, action) ∈ Supervisor.controlRoutes config) :
    site.control.Routes path path :=
  (RouteTable.holds_of_build hoffers.control).routes_plain hplain hadded

/-- A request for any other path goes where the surface leaves it. -/
theorem destination_other (hoffers : site.Offers config) (hsound : config.issues = [])
    (hliteral : config.IsLiteral) (hstands : config.StandsOn surface)
    (hother : request.target.path ∉ config.routePaths) :
    site.destination surface request = surface.leftover := by
  have hpaths := Config.controlRoutes_paths hsound
  have hholds := RouteTable.holds_of_build hoffers.control
  have hplain : ∀ route ∈ Supervisor.controlRoutes config, IsPlain route.1 := by
    intro route hroute
    refine hliteral.plain hsound _ ?_
    rw [← hpaths]
    exact List.mem_map_of_mem hroute
  rw [← hpaths] at hother
  rw [hoffers.destination_of_stands hstands, hholds.dispatch_other hplain hother]
  rfl

end Site.Offers

end GracefulService
