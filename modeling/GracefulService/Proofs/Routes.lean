import GracefulService.Http.Route
import Mathlib.Data.List.Induction
import Mathlib.Data.List.Nodup
import Mathlib.Data.List.Pairwise
import Mathlib.Data.List.TakeDrop

/-!
# What routes claim

Which paths can be written down for routes, which two of them claim the same requests, and what a table
holds that could be built: every action that was added, on the one route with its path, and no two routes
that get in each other's way. A path without holes is served by its own route, whatever else is there.
-/

namespace GracefulService.Http

/-! ## The grammar of paths with holes -/

/-- What may follow the first character of the name of a hole. -/
def IsName (name : List Marked) : Prop :=
  ∀ m ∈ name, closesHole m = false ∧ m.1 ≠ '*' ∧ m.1 ≠ '/'

/-- The brace that opens a hole. -/
def opening : Marked := ('\x7b', false)

/-- The brace that closes a hole. -/
def closing : Marked := ('\x7d', false)

/-- Pieces are written down as marked characters: a hole is a name in braces, it ends its segment, and one
for the whole rest ends the path. -/
inductive Spells : List Piece → List Marked → Prop where
  | done : Spells [] []
  | plain {m : Marked} {pieces : List Piece} {ms : List Marked} (hopens : opensHole m = false)
      (hcloses : closesHole m = false) (hrest : Spells pieces ms) :
      Spells (.plain m.1 :: pieces) (m :: ms)
  | segment {first : Marked} {name ms : List Marked} {pieces : List Piece} (hbrace : first.1 ≠ '\x7d')
      (hstar : first.1 ≠ '*') (hname : IsName name) (hends : ∀ next ∈ ms.head?, next.1 = '/')
      (hrest : Spells pieces ms) :
      Spells (.segment :: pieces) (opening :: first :: (name ++ closing :: ms))
  | rest {first : Marked} {name : List Marked} (hstar : first.1 = '*') (hname : IsName name)
      (hsome : name ≠ []) : Spells [.rest] (opening :: first :: (name ++ [closing]))

/-- One marked character closes a hole. -/
theorem closesHole_iff {m : Marked} : closesHole m = true ↔ m = closing := by
  simp [closesHole, closing]

/-- One marked character opens a hole. -/
theorem opensHole_iff {m : Marked} : opensHole m = true ↔ m = opening := by
  simp [opensHole, opening]

/-- A name ends where the hole is closed. -/
theorem skipName_append {name : List Marked} (h : IsName name) (after : List Marked) :
    skipName (name ++ closing :: after) = some after := by
  induction name with
  | nil => simp [skipName, closesHole, closing]
  | cons m name ih =>
    obtain ⟨hcloses, hstar, hslash⟩ := h m List.mem_cons_self
    rw [List.cons_append]
    simp only [skipName, hcloses, hstar, hslash, or_self, if_false, Bool.false_eq_true]
    exact ih fun m hm => h m (List.mem_cons_of_mem _ hm)

/-- A name is skipped up to the first brace that closes its hole. -/
theorem skipName_eq_some_iff {ms after : List Marked} :
    skipName ms = some after ↔ ∃ name, IsName name ∧ ms = name ++ closing :: after := by
  constructor
  · intro h
    induction ms with
    | nil => simp [skipName] at h
    | cons m ms ih =>
      simp only [skipName] at h
      split at h
      · rename_i hcloses
        cases h
        exact ⟨[], by simp [IsName], by rw [closesHole_iff.1 hcloses]; rfl⟩
      · rename_i hcloses
        split at h
        · cases h
        · rename_i hmark
          obtain ⟨name, hname, rfl⟩ := ih h
          refine ⟨m :: name, ?_, rfl⟩
          intro other hother
          rcases List.mem_cons.1 hother with rfl | hlater
          · exact ⟨by simpa using hcloses, fun hstar => hmark (Or.inl hstar),
              fun hslash => hmark (Or.inr hslash)⟩
          · exact hname other hlater
  · rintro ⟨name, hname, rfl⟩
    exact skipName_append hname after

/-- Behind its opening brace a hole for one segment is a name that does not start with an asterisk. -/
theorem readHole?_segment_iff {first : Marked} {ms after : List Marked} :
    readHole? (first :: ms) = some (false, after)
      ↔ first.1 ≠ '\x7d' ∧ first.1 ≠ '*' ∧ ∃ name, IsName name ∧ ms = name ++ closing :: after := by
  by_cases hbrace : first.1 = '\x7d'
  · simp [readHole?, hbrace]
  · by_cases hstar : first.1 = '*'
    · cases ms <;> simp [readHole?, hstar]
    · simp [readHole?, hbrace, hstar, skipName_eq_some_iff]

/-- Behind its opening brace a hole for the whole rest is an asterisk and a name. -/
theorem readHole?_rest_iff {first : Marked} {ms after : List Marked} :
    readHole? (first :: ms) = some (true, after)
      ↔ first.1 = '*' ∧ ∃ name, IsName name ∧ name ≠ [] ∧ ms = name ++ closing :: after := by
  by_cases hstar : first.1 = '*'
  · have hread : readHole? (first :: ms) = some (true, after)
        ↔ (∃ next ∈ ms.head?, closesHole next = false) ∧ skipName ms = some after := by
      cases ms <;> simp [readHole?, hstar]
    rw [hread, skipName_eq_some_iff]
    simp only [hstar, true_and]
    constructor
    · rintro ⟨⟨next, hhead, hnext⟩, name, hname, rfl⟩
      refine ⟨name, hname, ?_, rfl⟩
      rintro rfl
      cases hhead
      cases hnext
    · rintro ⟨name, hname, hsome, rfl⟩
      refine ⟨?_, name, hname, rfl⟩
      cases name with
      | nil => exact absurd rfl hsome
      | cons next name => exact ⟨next, rfl, (hname next List.mem_cons_self).1⟩
  · simp only [hstar, false_and, iff_false]
    simp only [readHole?, hstar, if_false]
    split <;> simp

/-- Nothing is read as no pieces. -/
theorem readPieces?_nil : readPieces? [] = some [] := by rw [readPieces?]

/-- No hole is closed that was not opened. -/
theorem readPieces?_closing (ms : List Marked) : readPieces? (closing :: ms) = none := by
  rw [readPieces?]
  rfl

/-- A plain character is a piece of its own. -/
theorem readPieces?_plain {m : Marked} (ms : List Marked) (hopens : opensHole m = false)
    (hcloses : closesHole m = false) :
    readPieces? (m :: ms) = (readPieces? ms).map (.plain m.1 :: ·) := by
  rw [readPieces?]
  simp [hopens, hcloses]

/-- An opened hole is a piece of its own, up to the next slash or to the end. -/
theorem readPieces?_opening (ms : List Marked) :
    readPieces? (opening :: ms) = match readHole? ms with
      | none => none
      | some (true, after) => if after.isEmpty then some [.rest] else none
      | some (false, after) =>
        if ∀ next ∈ after.head?, next.1 = '/' then (readPieces? after).map (.segment :: ·) else none := by
  rw [readPieces?]
  simp only [show closesHole opening = false from rfl, show opensHole opening = true from rfl,
    Bool.false_eq_true, if_false, Bool.not_true]
  split <;> rename_i hhole <;> simp only [hhole]
  split <;> simp [readPieces?_nil]

/-- What is read as pieces is how they are written down. -/
theorem spells_of_readPieces? {ms : List Marked} {pieces : List Piece}
    (h : readPieces? ms = some pieces) : Spells pieces ms := by
  induction hlength : ms.length using Nat.strongRecOn generalizing ms pieces with
  | ind length ih =>
    subst hlength
    cases ms with
    | nil =>
      rw [readPieces?_nil] at h
      cases h
      exact .done
    | cons m ms =>
      cases hcloses : closesHole m with
      | true =>
        rw [closesHole_iff.1 hcloses, readPieces?_closing] at h
        cases h
      | false =>
        cases hopens : opensHole m with
        | false =>
          rw [readPieces?_plain ms hopens hcloses] at h
          obtain ⟨later, hlater, rfl⟩ := Option.map_eq_some_iff.1 h
          exact .plain hopens hcloses (ih _ (Nat.lt_succ_self _) hlater rfl)
        | true =>
          obtain rfl := opensHole_iff.1 hopens
          rw [readPieces?_opening] at h
          cases ms with
          | nil => cases h
          | cons first ms =>
            split at h
            · cases h
            · rename_i after hhole
              obtain ⟨hstar, name, hname, hsome, rfl⟩ := readHole?_rest_iff.1 hhole
              split at h
              · rename_i hempty
                cases h
                rw [List.isEmpty_iff.1 hempty]
                exact .rest hstar hname hsome
              · cases h
            · rename_i after hhole
              obtain ⟨hbrace, hstar, name, hname, rfl⟩ := readHole?_segment_iff.1 hhole
              split at h
              · rename_i hends
                obtain ⟨later, hlater, rfl⟩ := Option.map_eq_some_iff.1 h
                refine .segment hbrace hstar hname hends (ih _ ?_ hlater rfl)
                simp only [List.length_cons, List.length_append]
                omega
              · cases h

/-- Pieces are read off a path exactly as they are written down. -/
theorem readPieces?_eq_some_iff {ms : List Marked} {pieces : List Piece} :
    readPieces? ms = some pieces ↔ Spells pieces ms := by
  refine ⟨spells_of_readPieces?, fun h => ?_⟩
  induction h with
  | done => exact readPieces?_nil
  | plain hopens hcloses hrest ih => rw [readPieces?_plain _ hopens hcloses, ih]; rfl
  | segment hbrace hstar hname hends hrest ih =>
    rw [readPieces?_opening, readHole?_segment_iff.2 ⟨hbrace, hstar, _, hname, rfl⟩]
    simp only [if_pos hends, ih, Option.map_some]
  | rest hstar hname hsome =>
    rw [readPieces?_opening, readHole?_rest_iff.2 ⟨hstar, _, hname, hsome, rfl⟩]
    rfl

/-- A path is written down for a route: it starts at the root, no segment has a mark of older notations,
and its braces are holes or plain. -/
structure Writes (path : String) (pieces : List Piece) : Prop where
  absolute : path.toList.head? = some '/'
  current : hasOldNotation path.toList = false
  spelled : Spells pieces (markBraces path.toList)

/-- A path is read as the pieces that it writes. -/
theorem readRoutePath_iff {path : String} {pieces : List Piece} :
    readRoutePath path = .ok pieces ↔ Writes path pieces := by
  unfold readRoutePath
  constructor
  · intro h
    split at h
    · cases h
    · rename_i habsolute
      split at h
      · cases h
      · rename_i hcurrent
        split at h
        · rename_i hread
          cases h
          exact ⟨by simpa using habsolute, by simpa using hcurrent, spells_of_readPieces? hread⟩
        · cases h
  · intro h
    simp [h.absolute, h.current, readPieces?_eq_some_iff.2 h.spelled]

/-- A path is written down in one way only. -/
theorem Writes.unique {path : String} {ps qs : List Piece} (h : Writes path ps) (h' : Writes path qs) :
    ps = qs := by
  have hread := readRoutePath_iff.2 h
  rw [readRoutePath_iff.2 h'] at hread
  cases hread
  rfl

/-! ## Paths that claim the same requests -/

/-- Two paths claim the same requests: they agree piece by piece, or both have a hole where they differ
first. -/
inductive Contests : List Piece → List Piece → Prop where
  | same (pieces : List Piece) : Contests pieces pieces
  | holes (common : List Piece) {p q : Piece} {ps qs : List Piece} (hdiffer : p ≠ q)
      (hp : p.weight < 2) (hq : q.weight < 2) : Contests (common ++ p :: ps) (common ++ q :: qs)

/-- Pieces that claim the same requests do so behind one more piece. -/
theorem Contests.cons {ps qs : List Piece} (h : Contests ps qs) (p : Piece) :
    Contests (p :: ps) (p :: qs) := by
  cases h with
  | same => exact .same _
  | holes common hdiffer hp hq => exact .holes (p :: common) hdiffer hp hq

/-- Pieces that claim the same requests do so both ways. -/
theorem Contests.symm {ps qs : List Piece} (h : Contests ps qs) : Contests qs ps := by
  cases h with
  | same => exact .same _
  | holes common hdiffer hp hq => exact .holes common hdiffer.symm hq hp

/-- What two routes have in common at the front does not decide whether they clash. -/
theorem clash_append (common ps qs : List Piece) : clash (common ++ ps) (common ++ qs) = clash ps qs := by
  induction common with
  | nil => rfl
  | cons p common ih => simp only [List.cons_append, clash, if_true, ih]

/-- Two routes clash exactly when they claim the same requests. -/
theorem clash_iff {ps qs : List Piece} : clash ps qs = true ↔ Contests ps qs := by
  constructor
  · intro h
    induction ps generalizing qs with
    | nil =>
      cases qs with
      | nil => exact .same []
      | cons q qs => cases h
    | cons p ps ih =>
      cases qs with
      | nil => cases h
      | cons q qs =>
        simp only [clash] at h
        split at h
        · rename_i hsame
          rw [hsame]
          exact (ih h).cons q
        · rename_i hdiffer
          simp only [Bool.and_eq_true, decide_eq_true_eq] at h
          exact .holes [] hdiffer h.1 h.2
  · intro h
    cases h with
    | same =>
      have hsame := clash_append ps [] []
      rw [List.append_nil] at hsame
      rw [hsame]
      rfl
    | holes common hdiffer hp hq =>
      rw [clash_append]
      simp [clash, hdiffer, hp, hq]

/-! ## What a table holds -/

namespace RouteTable

variable {α : Type}

/-- What a table holds after some routes were added: on each path, which is written down, the actions that
were added for it, one for a method; and no two paths claim the same requests. -/
structure Holds (table : RouteTable α) (added : List (String × Verb × α)) : Prop where
  written : ∀ route ∈ table.routes, Writes route.path route.pieces
  distinct : (table.routes.map (·.path)).Nodup
  apart : table.routes.Pairwise fun route other => ¬ Contests route.pieces other.pieces
  verbs : ∀ route ∈ table.routes, (route.actions.map (·.1)).Nodup
  acting : ∀ route ∈ table.routes, route.actions ≠ []
  actions : ∀ path verb action, (path, verb, action) ∈ added
    ↔ ∃ route ∈ table.routes, route.path = path ∧ (verb, action) ∈ route.actions

/-- The empty table holds no routes. -/
theorem holds_empty : (empty : RouteTable α).Holds [] where
  written := by simp [empty]
  distinct := by simp [empty]
  apart := by simp [empty]
  verbs := by simp [empty]
  acting := by simp [empty]
  actions := by simp [empty]

/-- Adding an action changes the one route with its path. -/
theorem addAction_eq_ok {path : String} {verb : Verb} {action : α} {routes after : List (Route α)}
    (h : addAction path verb action routes = .ok after) (hknown : ∃ route ∈ routes, route.path = path) :
    ∃ before route later, routes = before ++ route :: later ∧ route.path = path
      ∧ (∀ other ∈ before, other.path ≠ path) ∧ (∀ known ∈ route.actions, known.1 ≠ verb)
      ∧ after = before ++ { route with actions := route.actions ++ [(verb, action)] } :: later := by
  induction routes generalizing after with
  | nil =>
    obtain ⟨_, hmem, _⟩ := hknown
    cases hmem
  | cons route routes ih =>
    simp only [addAction] at h
    split at h
    · rename_i hpath
      split at h
      · cases h
      · rename_i hfree
        cases h
        refine ⟨[], route, routes, rfl, hpath, by simp, ?_, rfl⟩
        intro known hmem hverb
        exact hfree (List.any_eq_true.2 ⟨known, hmem, by simpa using hverb⟩)
    · rename_i hpath
      cases hrest : addAction path verb action routes with
      | error fault =>
        rw [hrest] at h
        cases h
      | ok changed =>
        rw [hrest] at h
        cases h
        have hlater : ∃ other ∈ routes, other.path = path := by
          obtain ⟨other, hmem, hother⟩ := hknown
          rcases List.mem_cons.1 hmem with rfl | hmem
          · exact absurd hother hpath
          · exact ⟨other, hmem, hother⟩
        obtain ⟨before, found, later, rfl, hfound, hbefore, hverbs, rfl⟩ := ih hrest hlater
        refine ⟨route :: before, found, later, rfl, hfound, ?_, hverbs, rfl⟩
        intro other hmem
        rcases List.mem_cons.1 hmem with rfl | hmem
        · exact hpath
        · exact hbefore other hmem

/-- One more action on a path that is known goes to the route with that path. -/
theorem Holds.extend {before later : List (Route α)} {route : Route α} {added : List (String × Verb × α)}
    (h : Holds ⟨before ++ route :: later⟩ added) {verb : Verb} (action : α)
    (hfree : ∀ known ∈ route.actions, known.1 ≠ verb) :
    Holds ⟨before ++ { route with actions := route.actions ++ [(verb, action)] } :: later⟩
      (added ++ [(route.path, verb, action)]) where
  written := by
    have hwritten := h.written
    simp only [List.forall_mem_append, List.forall_mem_cons] at hwritten ⊢
    exact hwritten
  distinct := by
    have hdistinct := h.distinct
    simp only [List.map_append, List.map_cons] at hdistinct ⊢
    exact hdistinct
  apart := by
    have hapart := h.apart
    simp only [List.pairwise_append, List.pairwise_cons, List.forall_mem_cons] at hapart ⊢
    exact hapart
  verbs := by
    have hverbs := h.verbs
    simp only [List.forall_mem_append, List.forall_mem_cons] at hverbs ⊢
    refine ⟨hverbs.1, ?_, hverbs.2.2⟩
    rw [List.map_append, List.nodup_append]
    refine ⟨hverbs.2.1, by simp, ?_⟩
    simp only [List.mem_map, List.map_cons, List.map_nil, List.mem_singleton]
    rintro known ⟨entry, hmem, rfl⟩ _ rfl
    exact hfree entry hmem
  acting := by
    have hacting := h.acting
    simp only [List.forall_mem_append, List.forall_mem_cons] at hacting ⊢
    exact ⟨hacting.1, by simp, hacting.2.2⟩
  actions := by
    intro path other held
    have hactions := h.actions path other held
    simp only [List.mem_append, List.mem_cons, List.not_mem_nil, or_false, or_and_right, exists_or,
      exists_eq_left, Prod.mk.injEq] at hactions ⊢
    rw [hactions]
    grind

/-- A route with a path of its own joins those that do not claim its requests. -/
theorem Holds.append {table : RouteTable α} {added : List (String × Verb × α)} (h : table.Holds added)
    {path : String} {pieces : List Piece} (verb : Verb) (action : α) (hwritten : Writes path pieces)
    (hnew : ∀ route ∈ table.routes, route.path ≠ path)
    (hapart : ∀ route ∈ table.routes, ¬ Contests route.pieces pieces) :
    Holds ⟨table.routes ++ [⟨path, pieces, [(verb, action)]⟩]⟩ (added ++ [(path, verb, action)]) where
  written := by
    simp only [List.forall_mem_append, List.forall_mem_singleton]
    exact ⟨h.written, hwritten⟩
  distinct := by
    rw [List.map_append, List.nodup_append]
    refine ⟨h.distinct, by simp, ?_⟩
    simp only [List.mem_map, List.map_cons, List.map_nil, List.mem_singleton]
    rintro _ ⟨route, hmem, rfl⟩ _ rfl
    exact hnew route hmem
  apart := by
    rw [List.pairwise_append]
    refine ⟨h.apart, by simp, ?_⟩
    simp only [List.mem_singleton]
    rintro route hmem _ rfl
    exact hapart route hmem
  verbs := by
    simp only [List.forall_mem_append, List.forall_mem_singleton]
    exact ⟨h.verbs, by simp⟩
  acting := by
    simp only [List.forall_mem_append, List.forall_mem_singleton]
    exact ⟨h.acting, by simp⟩
  actions := by
    intro other known held
    simp only [List.mem_append, h.actions, List.mem_singleton, Prod.mk.injEq, or_and_right, exists_or,
      exists_eq_left]
    grind

/-- Where an action can be added, the table holds it besides what it held. -/
theorem Holds.add {table after : RouteTable α} {added : List (String × Verb × α)} (h : table.Holds added)
    {path : String} {verb : Verb} {action : α} (hadd : table.add path verb action = .ok after) :
    after.Holds (added ++ [(path, verb, action)]) := by
  unfold RouteTable.add at hadd
  cases hread : readRoutePath path with
  | error fault =>
    rw [hread] at hadd
    cases hadd
  | ok pieces =>
    simp only [hread, bind, Except.bind] at hadd
    split at hadd
    · rename_i hknown
      cases hchanged : addAction path verb action table.routes with
      | error fault =>
        rw [hchanged] at hadd
        cases hadd
      | ok routes =>
        rw [hchanged] at hadd
        cases hadd
        have hfound : ∃ route ∈ table.routes, route.path = path := by simpa using hknown
        obtain ⟨before, route, later, hroutes, rfl, hbefore, hfree, rfl⟩ := addAction_eq_ok hchanged hfound
        obtain ⟨_⟩ := table
        subst hroutes
        exact h.extend action hfree
    · rename_i hunknown
      split at hadd
      · cases hadd
      · rename_i hapart
        cases hadd
        refine h.append verb action (readRoutePath_iff.1 hread) (by simpa using hunknown) ?_
        intro route hmem hcontests
        exact hapart (List.any_eq_true.2 ⟨route, hmem, clash_iff.2 hcontests⟩)

/-- What is built action by action. -/
theorem build_append (routes : List (String × Verb × α)) (path : String) (verb : Verb) (action : α) :
    build (routes ++ [(path, verb, action)]) = (do (← build routes).add path verb action) := by
  simp [build, List.foldlM_append]

/-- A table that could be built holds what it was built from. -/
theorem holds_of_build {routes : List (String × Verb × α)} {table : RouteTable α}
    (h : build routes = .ok table) : table.Holds routes := by
  induction routes using List.reverseRecOn generalizing table with
  | nil =>
    cases h
    exact holds_empty
  | append_singleton routes route ih =>
    rw [build_append] at h
    cases hbuild : build routes with
    | error fault =>
      rw [hbuild] at h
      cases h
    | ok earlier =>
      rw [hbuild] at h
      exact (ih hbuild).add h

/-- No two routes of a table claim the same requests. -/
theorem Holds.no_contest {table : RouteTable α} {added : List (String × Verb × α)} (h : table.Holds added)
    {route other : Route α} (hroute : route ∈ table.routes) (hother : other ∈ table.routes)
    (hdiffer : route.path ≠ other.path) : ¬ Contests route.pieces other.pieces := by
  have : Std.Symm fun route other : Route α => ¬ Contests route.pieces other.pieces :=
    ⟨fun _ _ hnot hcontests => hnot hcontests.symm⟩
  exact h.apart.forall hroute hother fun hsame => hdiffer (congrArg Route.path hsame)

/-- A path of its own is added where it is written down and claims no requests of others. -/
theorem Holds.can_add {table : RouteTable α} {added : List (String × Verb × α)} (h : table.Holds added)
    {path : String} {pieces : List Piece} (verb : Verb) (action : α) (hwrites : Writes path pieces)
    (hnew : ∀ route ∈ added, route.1 ≠ path)
    (hapart : ∀ route ∈ added, ∀ ps, Writes route.1 ps → ¬ Contests ps pieces) :
    ∃ after, table.add path verb action = .ok after := by
  have hadded : ∀ route ∈ table.routes, ∃ entry ∈ added, entry.1 = route.path := by
    intro route hroute
    obtain ⟨entry, hentry⟩ := List.exists_mem_of_ne_nil _ (h.acting route hroute)
    exact ⟨(route.path, entry), (h.actions _ _ _).2 ⟨route, hroute, rfl, hentry⟩, rfl⟩
  have hunknown : ¬ (table.routes.any fun route => route.path = path) = true := by
    simp only [List.any_eq_true, decide_eq_true_eq, not_exists, not_and]
    intro route hroute hpath
    obtain ⟨entry, hentry, hsame⟩ := hadded route hroute
    exact hnew entry hentry (hsame.trans hpath)
  have hfree : ¬ (table.routes.any fun route => clash route.pieces pieces) = true := by
    simp only [List.any_eq_true, clash_iff, not_exists, not_and]
    intro route hroute
    obtain ⟨entry, hentry, hsame⟩ := hadded route hroute
    exact hapart entry hentry _ (hsame ▸ h.written route hroute)
  refine ⟨⟨table.routes ++ [⟨path, pieces, [(verb, action)]⟩]⟩, ?_⟩
  unfold RouteTable.add
  simp only [readRoutePath_iff.2 hwrites, bind, Except.bind, if_neg hunknown, if_neg hfree]
  rfl

/-- Routes on distinct paths can be built exactly when every path is written down and no two of them claim
the same requests. -/
theorem build_iff {routes : List (String × Verb × α)} (hdistinct : (routes.map (·.1)).Nodup) :
    (∃ table, build routes = .ok table)
      ↔ (∀ route ∈ routes, ∃ pieces, Writes route.1 pieces)
        ∧ routes.Pairwise fun route other =>
            ∀ ps qs, Writes route.1 ps → Writes other.1 qs → ¬ Contests ps qs := by
  constructor
  · rintro ⟨table, hbuild⟩
    have hholds := holds_of_build hbuild
    have hfound : ∀ entry ∈ routes, ∃ route ∈ table.routes, route.path = entry.1 := by
      rintro ⟨path, verb, action⟩ hentry
      obtain ⟨route, hroute, hpath, _⟩ := (hholds.actions _ _ _).1 hentry
      exact ⟨route, hroute, hpath⟩
    constructor
    · intro entry hentry
      obtain ⟨route, hroute, hpath⟩ := hfound entry hentry
      exact ⟨route.pieces, hpath ▸ hholds.written route hroute⟩
    · refine (List.pairwise_map.1 hdistinct).imp_of_mem ?_
      intro entry other hentry hother hdiffer ps qs hps hqs
      obtain ⟨route, hroute, hpath⟩ := hfound entry hentry
      obtain ⟨second, hsecond, hsame⟩ := hfound other hother
      rw [← hpath] at hps hdiffer
      rw [← hsame] at hqs hdiffer
      rw [hps.unique (hholds.written route hroute), hqs.unique (hholds.written second hsecond)]
      exact hholds.no_contest hroute hsecond hdiffer
  · rintro ⟨hwritten, hapart⟩
    induction routes using List.reverseRecOn with
    | nil => exact ⟨empty, rfl⟩
    | append_singleton routes route ih =>
      obtain ⟨path, verb, action⟩ := route
      rw [List.map_append, List.nodup_append] at hdistinct
      rw [List.pairwise_append] at hapart
      simp only [List.forall_mem_append, List.forall_mem_singleton] at hwritten
      obtain ⟨pieces, hpieces⟩ := hwritten.2
      obtain ⟨table, hbuild⟩ := ih hdistinct.1 hwritten.1 hapart.1
      have hadd := (holds_of_build hbuild).can_add verb action hpieces
        (fun route hroute => hdistinct.2.2 _ (List.mem_map_of_mem hroute) _ (by simp))
        (fun route hroute ps hps =>
          hapart.2.2 route hroute _ (List.mem_singleton_self _) ps pieces hps hpieces)
      obtain ⟨after, hafter⟩ := hadd
      refine ⟨after, ?_⟩
      rw [build_append, hbuild]
      exact hafter

end RouteTable

/-! ## Paths without holes -/

/-- A path without braces and without marks of older notations, from the root. -/
structure IsPlain (path : String) : Prop where
  absolute : path.toList.head? = some '/'
  current : hasOldNotation path.toList = false
  openless : '\x7b' ∉ path.toList
  closeless : '\x7d' ∉ path.toList

/-- The pieces of a text that stands for itself. -/
def plainly (cs : List Char) : List Piece := cs.map .plain

/-- A text without braces has no marked ones. -/
theorem markBraces_of_braceless {cs : List Char} (hopen : '\x7b' ∉ cs) (hclose : '\x7d' ∉ cs) :
    markBraces cs = cs.map fun c => (c, false) := by
  induction cs with
  | nil => rfl
  | cons c cs ih =>
    simp only [List.mem_cons, not_or] at hopen hclose
    rw [markBraces, ih hopen.2 hclose.2]
    · rfl
    · rintro _ rfl
      exact absurd rfl hopen.1
    · rintro _ rfl
      exact absurd rfl hclose.1

/-- A text without braces spells itself. -/
theorem spells_plainly {cs : List Char} (hopen : '\x7b' ∉ cs) (hclose : '\x7d' ∉ cs) :
    Spells (plainly cs) (cs.map fun c => (c, false)) := by
  induction cs with
  | nil => exact .done
  | cons c cs ih =>
    simp only [List.mem_cons, not_or] at hopen hclose
    have hopens : opensHole (c, false) = false := by simpa [opensHole] using Ne.symm hopen.1
    have hcloses : closesHole (c, false) = false := by simpa [closesHole] using Ne.symm hclose.1
    exact .plain hopens hcloses (ih hopen.2 hclose.2)

/-- A path without holes stands for itself. -/
theorem IsPlain.writes {path : String} (h : IsPlain path) : Writes path (plainly path.toList) where
  absolute := h.absolute
  current := h.current
  spelled := by
    rw [markBraces_of_braceless h.openless h.closeless]
    exact spells_plainly h.openless h.closeless

/-- Plain pieces fit the text that they spell and no other. -/
theorem fits_plainly {cs ds : List Char} : fits (plainly cs) ds = true ↔ ds = cs := by
  induction cs generalizing ds with
  | nil => simp [plainly, fits]
  | cons c cs ih =>
    cases ds with
    | nil => simp [plainly, fits]
    | cons d ds =>
      simp only [plainly, List.map_cons, fits, Bool.and_eq_true, decide_eq_true_eq, List.cons.injEq]
      rw [show List.map Piece.plain cs = plainly cs from rfl, ih]
      exact and_congr_left fun _ => eq_comm

/-- Plain pieces weigh most. -/
theorem weight_of_mem_plainly {p : Piece} {cs : List Char} (h : p ∈ plainly cs) : p.weight = 2 := by
  obtain ⟨c, _, rfl⟩ := List.mem_map.1 h
  rfl

/-- Texts that stand for themselves claim the same requests only when they are the same. -/
theorem contests_plainly {cs ds : List Char} (h : Contests (plainly cs) (plainly ds)) : cs = ds := by
  generalize hps : plainly cs = ps at h
  generalize hqs : plainly ds = qs at h
  cases h with
  | same => exact (List.map_inj_right fun _ _ => Piece.plain.inj).1 (hps.trans hqs.symm)
  | @holes common p q ps qs hdiffer hp hq =>
    have hmem : p ∈ plainly cs := by simp [hps]
    have hweight := weight_of_mem_plainly hmem
    omega

/-- A text that stands for itself is more specific than every other path it fits. -/
theorem isMoreSpecific_plainly {cs : List Char} {qs : List Piece} (hfits : fits qs cs = true)
    (hapart : ¬ Contests (plainly cs) qs) :
    isMoreSpecific (plainly cs) qs = true ∧ isMoreSpecific qs (plainly cs) = false := by
  induction cs generalizing qs with
  | nil =>
    cases qs with
    | nil => exact absurd (.same []) hapart
    | cons q qs => cases q <;> simp [fits, List.span_eq_takeWhile_dropWhile] at hfits
  | cons c cs ih =>
    cases qs with
    | nil => simp [fits] at hfits
    | cons q qs =>
      cases q with
      | segment | rest => exact ⟨rfl, rfl⟩
      | plain d =>
        simp only [fits, Bool.and_eq_true, decide_eq_true_eq] at hfits
        obtain ⟨rfl, hlater⟩ := hfits
        have hnext := ih hlater fun hcontests => hapart (hcontests.cons (.plain d))
        simpa [plainly, isMoreSpecific] using hnext

namespace RouteTable

variable {α : Type}

/-- Where one route is more specific than all others, it is the one that is preferred. -/
theorem foldl_prefer {best : Route α} {routes : List (Route α)} {held : Option (Route α)}
    (hbest : held = some best ∨ best ∈ routes)
    (hheld : ∀ other ∈ held, other = best ∨ isMoreSpecific best.pieces other.pieces = true)
    (hothers : ∀ other ∈ routes, other = best
      ∨ isMoreSpecific best.pieces other.pieces = true ∧ isMoreSpecific other.pieces best.pieces = false) :
    routes.foldl prefer held = some best := by
  induction routes generalizing held with
  | nil => simpa using hbest
  | cons route routes ih =>
    simp only [List.forall_mem_cons] at hothers
    rw [List.foldl_cons]
    cases held with
    | none =>
      refine ih ?_ ?_ hothers.2
      · rcases hbest with hnever | hmem
        · cases hnever
        · rcases List.mem_cons.1 hmem with rfl | hmem
          · exact Or.inl rfl
          · exact Or.inr hmem
      · rintro other ⟨⟩
        exact hothers.1.imp id fun h => h.1
    | some other =>
      have hother := hheld other rfl
      by_cases hsame : other = best
      · subst hsame
        have hkept : prefer (some other) route = some other := by
          unfold prefer
          rcases hothers.1 with rfl | ⟨_, hless⟩
          · simp
          · simp [hless]
        rw [hkept]
        exact ih (Or.inl rfl) (fun _ hmem => Or.inl (Option.some.inj hmem).symm) hothers.2
      · have hmore := hother.resolve_left hsame
        have hmem : best = route ∨ best ∈ routes := by
          rcases hbest with heq | hmem
          · exact absurd (Option.some.inj heq) hsame
          · exact List.mem_cons.1 hmem
        rcases hmem with rfl | hmem
        · have htaken : prefer (some other) best = some best := by simp [prefer, hmore]
          rw [htaken]
          exact ih (Or.inl rfl) (fun _ hmem => Or.inl (Option.some.inj hmem).symm) hothers.2
        · refine ih (Or.inr hmem) ?_ hothers.2
          unfold prefer
          split
          · cases ‹some other = none›
          · rename_i kept hkept
            cases hkept
            split
            · rintro _ ⟨⟩
              exact hothers.1.imp id fun h => h.1
            · rintro _ ⟨⟩
              exact Or.inr hmore

/-- A path without holes is served by its own route. -/
theorem Holds.route?_plain {table : RouteTable α} {added : List (String × Verb × α)}
    (h : table.Holds added) {path : String} (hplain : IsPlain path) {verb : Verb} {action : α}
    (hadded : (path, verb, action) ∈ added) :
    ∃ route ∈ table.routes, route.path = path ∧ table.route? path = some route := by
  obtain ⟨route, hroute, rfl, _⟩ := (h.actions _ _ _).1 hadded
  have hpieces : route.pieces = plainly route.path.toList :=
    (h.written route hroute).unique hplain.writes
  refine ⟨route, hroute, rfl, ?_⟩
  unfold route?
  refine foldl_prefer (Or.inr (List.mem_filter.2 ⟨hroute, ?_⟩)) (by simp) ?_
  · rw [hpieces]
    exact fits_plainly.2 rfl
  · intro other hmem
    obtain ⟨hother, hfits⟩ := List.mem_filter.1 hmem
    by_cases hsame : other.path = route.path
    · exact Or.inl (List.inj_on_of_nodup_map h.distinct hother hroute hsame)
    · refine Or.inr ?_
      have hapart := h.no_contest hroute hother fun heq => hsame heq.symm
      rw [hpieces] at hapart ⊢
      exact isMoreSpecific_plainly hfits hapart

end RouteTable

/-! ## Requests for a path -/

/-- A table routes what is asked for to the route with a path. -/
def RouteTable.Routes {α : Type} (table : RouteTable α) (target path : String) : Prop :=
  ∃ route, table.route? target = some route ∧ route.path = path

/-- A plain path that was added is routed to itself. -/
theorem RouteTable.Holds.routes_plain {α : Type} {table : RouteTable α} {added : List (String × Verb × α)}
    (h : table.Holds added) {path : String} (hplain : IsPlain path) {verb : Verb} {action : α}
    (hadded : (path, verb, action) ∈ added) : table.Routes path path := by
  obtain ⟨route, -, hpath, hfound⟩ := h.route?_plain hplain hadded
  exact ⟨route, hfound, hpath⟩

/-- A request fetches a path: it is served by the route with that path. -/
structure Request.Fetches {α : Type} (request : Request) (table : RouteTable α) (path : String) :
    Prop where
  method : request.method = .standard .get
  routed : ∃ route, table.route? request.target.path = some route ∧ route.path = path

/-- What a list of routes prefers is one of them. -/
theorem RouteTable.mem_of_route? {α : Type} {table : RouteTable α} {path : String} {route : Route α}
    (h : table.route? path = some route) : route ∈ table.routes := by
  have hfold : ∀ (routes : List (Route α)) (held : Option (Route α)) (best : Route α),
      routes.foldl prefer held = some best → held = some best ∨ best ∈ routes := by
    intro routes
    induction routes with
    | nil => exact fun held best h => Or.inl h
    | cons route routes ih =>
      intro held best h
      rw [List.foldl_cons] at h
      rcases ih _ _ h with hheld | hmem
      · cases held with
        | none =>
          cases hheld
          exact Or.inr List.mem_cons_self
        | some other =>
          simp only [prefer] at hheld
          split at hheld
          · cases hheld
            exact Or.inr List.mem_cons_self
          · exact Or.inl hheld
      · exact Or.inr (List.mem_cons_of_mem _ hmem)
  rcases hfold _ _ _ h with hnever | hmem
  · cases hnever
  · exact (List.mem_filter.1 hmem).1

/-- What was added for fetching a path is done with the requests that fetch it. -/
theorem Request.Fetches.dispatch {α : Type} {request : Request} {table : RouteTable α} {path : String}
    (h : request.Fetches table path) {added : List (String × Verb × α)} (hholds : table.Holds added)
    {action : α} (hadded : (path, .get, action) ∈ added) : table.dispatch request = .served action := by
  obtain ⟨route, hroute, rfl⟩ := h.routed
  have hmem := RouteTable.mem_of_route? hroute
  obtain ⟨holder, hholder, hpath, hheld⟩ := (hholds.actions _ _ _).1 hadded
  obtain rfl := List.inj_on_of_nodup_map hholds.distinct hholder hmem hpath
  have hown : holder.actions.find? (fun action => decide (Method.standard action.1 = .standard .get))
      = some (.get, action) := by
    cases hfound : holder.actions.find? (fun action => decide (Method.standard action.1 = .standard .get)) with
    | none =>
      have hnone := List.find?_eq_none.1 hfound _ hheld
      simp at hnone
    | some entry =>
      have hverb : entry.1 = .get := by simpa using List.find?_some hfound
      have hentry := List.mem_of_find?_eq_some hfound
      rw [List.inj_on_of_nodup_map (hholds.verbs holder hmem) hentry hheld hverb]
  simp only [RouteTable.dispatch, hroute, Route.action?, h.method, hown]
  rfl

/-- Who asks for a path without holes fetches it. -/
theorem Request.Fetches.of_plain {α : Type} {request : Request} {table : RouteTable α}
    {added : List (String × Verb × α)} (hholds : table.Holds added) (hplain : IsPlain request.target.path)
    {action : α} (hadded : (request.target.path, .get, action) ∈ added)
    (hmethod : request.method = .standard .get) : request.Fetches table request.target.path :=
  ⟨hmethod, hholds.routes_plain hplain hadded⟩

end GracefulService.Http
