import ContentRouter.Proofs.Round.Routers
import ContentRouter.Proofs.Source.Switch
import ContentRouter.Proofs.Template.Covering

/-!
# Which routes can be reached

The routes of an operation are tried in the order of their group, so that earlier ones may take the
requests of a later one. What several of them take together one of them takes alone, and then it has
the keys of the later one and asks at each of them for the same value or for any
(`Router.reach_law`).

Such routes exist: routes with equally many query pairs are tried in the order in which they were
declared, so that a route that asks for any value of a key hides one that is declared behind it and
asks for a certain value of the same key (`Router.exists_unreachable`).
-/

namespace ContentRouter

/-- Whether a query value takes every value that another one takes. -/
def QueryValue.takes : QueryValue → QueryValue → Bool
  | .placeholder _, _ => true
  | .literal text, .literal other => text == other
  | .literal _, .placeholder _ => false

private theorem Condition.followsFrom_ofPair_iff (pair other : QueryPair) :
    (ofPair pair).FollowsFrom (ofPair other) ↔
      pair.key = other.key ∧ pair.value.takes other.value = true := by
  obtain ⟨key, value⟩ := pair
  obtain ⟨otherKey, otherValue⟩ := other
  cases value <;> cases otherValue <;> simp [FollowsFrom, ofPair, Condition.key, QueryValue.takes]

private theorem Condition.present_mem_ofPairs {key : String} {pairs : List QueryPair}
    (member : present key ∈ Guard.ofPairs pairs) : ∃ name, ⟨key, .placeholder name⟩ ∈ pairs := by
  obtain ⟨⟨_, value⟩, listed, asked⟩ := List.mem_map.mp member
  cases value with
  | literal text => cases asked
  | placeholder name =>
      cases asked
      exact ⟨name, listed⟩

private theorem Condition.equals_mem_ofPairs {key text : String} {pairs : List QueryPair}
    (member : equals key text ∈ Guard.ofPairs pairs) : ⟨key, .literal text⟩ ∈ pairs := by
  obtain ⟨⟨_, value⟩, listed, asked⟩ := List.mem_map.mp member
  cases value with
  | placeholder name => cases asked
  | literal own =>
      cases asked
      exact listed

private theorem Guard.covers_ofPairs_iff (pairs others : List QueryPair) :
    (ofPairs pairs).Covers (ofPairs others) ↔
      ∀ pair ∈ pairs, ∃ other ∈ others,
        pair.key = other.key ∧ pair.value.takes other.value = true := by
  rw [Covers, ofPairs, ofPairs, List.forall_mem_map]
  simp only [List.mem_map, exists_exists_and_eq_and, Condition.followsFrom_ofPair_iff]

namespace Route

/-- The keys of a route's query pairs. -/
def keys (route : Route) : List String := route.model.query.map (·.key)

/-- Whether every query that meets a route meets an earlier one as well. -/
def Swallows (earlier route : Route) : Prop :=
  ∀ query, route.isMetBy query = true → earlier.isMetBy query = true

private theorem isMetBy_eq (query : String → Option String) (route : Route) :
    route.isMetBy query = route.model.guard.holds query :=
  (Guard.holds_ofPairs query route.model.query).symm

private theorem map_key_guard (route : Route) :
    route.model.guard.map Condition.key = route.keys := by
  rw [Model.guard, Guard.ofPairs, List.map_map, keys]
  simp only [Function.comp_def, Condition.key_ofPair]

private theorem length_guard (route : Route) : route.model.guard.length = route.model.queryCount :=
  List.length_map _

private theorem swallows_iff_covers {earlier route : Route} (built : route.model.IsBuilt) :
    earlier.Swallows route ↔ earlier.model.guard.Covers route.model.guard := by
  simp only [Swallows, isMetBy_eq, Guard.covers_iff_forall_holds built.guard_keys_nodup]

/-- What a route ahead of another one in a group has to do with it. -/
structure Precedes (earlier route : Route) : Prop where
  earlierBuilt : earlier.model.IsBuilt
  built : route.model.IsBuilt
  width : route.model.queryCount ≤ earlier.model.queryCount
  address : earlier.model.address = route.model.address
  apart : earlier.model.fullyEquals route.model = false

namespace Precedes

variable {earlier route : Route} (precedes : earlier.Precedes route)
include precedes

private theorem length_guard_le : route.model.guard.length ≤ earlier.model.guard.length := by
  rw [length_guard, length_guard]
  exact precedes.width

/-- A route ahead swallows another one exactly if it has the same keys, and takes at each of them
the values that the other takes. -/
theorem swallows_iff :
    earlier.Swallows route ↔
      earlier.keys.Perm route.keys ∧
        ∀ pair ∈ earlier.model.query, ∃ own ∈ route.model.query,
          pair.key = own.key ∧ pair.value.takes own.value = true := by
  rw [swallows_iff_covers precedes.built, ← Guard.covers_ofPairs_iff]
  constructor
  · intro covers
    have keys := covers.map_key_perm precedes.earlierBuilt.guard_keys_nodup precedes.length_guard_le
    rw [map_key_guard, map_key_guard] at keys
    exact ⟨keys, covers⟩
  · rintro ⟨_, covers⟩
    exact covers

private theorem exists_placeholder (swallows : earlier.Swallows route) :
    ∃ key name text, ⟨key, .placeholder name⟩ ∈ earlier.model.query ∧
      ⟨key, .literal text⟩ ∈ route.model.query := by
  have covers := (swallows_iff_covers precedes.built).mp swallows
  rcases covers.perm_or_exists_present precedes.earlierBuilt.guard_keys_nodup
    precedes.length_guard_le with perm | ⟨key, text, free, fixed⟩
  · -- Then the two would serve the same requests.
    have full := (Model.fullyEquals_iff_perm precedes.earlierBuilt).mpr ⟨precedes.address, perm⟩
    rw [precedes.apart] at full
    cases full
  · obtain ⟨name, pair⟩ := Condition.present_mem_ofPairs free
    exact ⟨key, name, text, pair, Condition.equals_mem_ofPairs fixed⟩

end Precedes

end Route

namespace RouteGroup

/-- The first route of an operation that a query meets. -/
def selected? (group : RouteGroup) (operation : Operation) (query : String → Option String) :
    Option Route :=
  (group.routesFor operation).find? (·.isMetBy query)

/-- The routes of a group that are tried before a given one. -/
def ahead (group : RouteGroup) (route : Route) : List Route :=
  (group.routesFor route.operation).takeWhile (· ≠ route)

variable {group : RouteGroup} {route : Route}

/-- A route of a group is one of those for its operation. -/
theorem mem_routesFor (routed : route ∈ group.routes) : route ∈ group.routesFor route.operation :=
  List.mem_filter.mpr ⟨routed, decide_eq_true rfl⟩

private theorem ahead_eq {before after : List Route}
    (split : group.routesFor route.operation = before ++ route :: after) (fresh : route ∉ before) :
    group.ahead route = before := by
  rw [ahead, split, List.takeWhile_append_of_pos, List.takeWhile_cons_of_neg, List.append_nil]
  · simp
  · intro earlier listed
    exact decide_eq_true fun same => fresh (same ▸ listed)

private theorem exists_routesFor_eq (routed : route ∈ group.routes) :
    ∃ after, group.routesFor route.operation = group.ahead route ++ route :: after := by
  obtain ⟨before, after, split, fresh⟩ := List.eq_append_cons_of_mem (mem_routesFor routed)
  rw [ahead_eq split fresh]
  exact ⟨after, split⟩

/-- A query selects a route exactly if it meets the route and none of those ahead. -/
theorem selected?_eq_some_iff (routed : route ∈ group.routes) (query : String → Option String) :
    group.selected? route.operation query = some route ↔
      route.isMetBy query = true ∧
        ∀ earlier ∈ group.ahead route, earlier.isMetBy query = false := by
  rw [selected?, List.find?_eq_some_iff_append]
  simp only [Bool.not_eq_true']
  refine and_congr_right fun met => ?_
  constructor
  · rintro ⟨before, after, split, unmet⟩
    have fresh : route ∉ before := by
      intro listed
      rw [unmet route listed] at met
      cases met
    rwa [ahead_eq split fresh]
  · intro unmet
    obtain ⟨after, split⟩ := exists_routesFor_eq routed
    exact ⟨_, after, split, unmet⟩

/-- **A route is selected by some query unless one route ahead of it swallows it.** -/
theorem exists_selected?_iff (routed : route ∈ group.routes) (built : route.model.IsBuilt) :
    (∃ query, group.selected? route.operation query = some route) ↔
      ∀ earlier ∈ group.ahead route, ¬ earlier.Swallows route := by
  have reached := Guard.exists_holds_iff built.guard_keys_nodup
    ((group.ahead route).map (·.model.guard))
  simp only [List.forall_mem_map] at reached
  simp only [selected?_eq_some_iff routed, Route.swallows_iff_covers built, Route.isMetBy_eq,
    reached]

end RouteGroup

/-- **An entry point makes the call of a route exactly if the query selects the route.** -/
theorem Source.run_entryPointOf_eq_iff_selected? (types : TypeNames) {router : Router}
    (distinct : (router.groups.map (·.matcherId)).Nodup) {group : RouteGroup}
    (grouped : group ∈ router.groups) {route : Route} (routed : route ∈ group.routes)
    (query : String → Option String) :
    (ofRouter types router).run (entryPointOf types router route.operation) group.matcherId query =
        some ⟨matcherConstant group.matcherId, (group.ahead route).length, callOf types route⟩ ↔
      group.selected? route.operation query = some route := by
  rw [run_entryPointOf_eq_some_iff types distinct, RouteGroup.selected?_eq_some_iff routed]
  obtain ⟨after, split⟩ := RouteGroup.exists_routesFor_eq routed
  constructor
  · rintro ⟨other, listed, same, before, first, rest, otherSplit, unmet, met, landing⟩
    obtain rfl := List.inj_on_of_nodup_map distinct listed grouped same
    -- The call stands as far behind the first one of its case as the route behind the first one.
    obtain ⟨rfl, tail⟩ := List.append_inj (otherSplit.symm.trans split)
      (congrArg Landing.place landing).symm
    obtain ⟨rfl, _⟩ := List.cons.inj tail
    exact ⟨met, unmet⟩
  · rintro ⟨met, unmet⟩
    exact ⟨group, grouped, rfl, _, route, after, split, unmet, met, rfl⟩

namespace Round

variable {settings : Settings} {providers : List Provider} {round : Round}
  (settled : Settled settings providers round)
include settled

/-- The routes of an operation in a group precede one another. -/
theorem Settled.routesFor_precedes {accepted : AcceptedProvider}
    (member : accepted ∈ round.accepted) {bucket : Bucket}
    (inside : bucket ∈ round.registry.buckets) {group : RouteGroup}
    (routes : group.routes = routesOf accepted bucket) (operation : Operation) :
    (group.routesFor operation).Pairwise Route.Precedes := by
  have falls := settled.routesOf_falls member inside
  have apart := settled.routesOf_apart member inside
  have ordered := (falls.and apart).filter (·.operation = operation)
  rw [← routes] at ordered
  refine ordered.imp_of_mem ?_
  rintro earlier route earlierListed listed ⟨width, apart⟩
  obtain ⟨earlierRouted, earlierServes⟩ := List.mem_filter.mp earlierListed
  obtain ⟨routed, serves⟩ := List.mem_filter.mp listed
  rw [routes] at routed earlierRouted
  exact {
    earlierBuilt := settled.isBuilt_of_mem_routesOf member inside earlierRouted
    built := settled.isBuilt_of_mem_routesOf member inside routed
    width := width
    address := (settled.address_of_mem_routesOf member inside earlierRouted).trans
      (settled.address_of_mem_routesOf member inside routed).symm
    apart := apart ((of_decide_eq_true earlierServes).trans (of_decide_eq_true serves).symm) }

end Round

namespace Router

/-- The routes for an operation stand in the order in which they are tried. -/
theorem routesFor_precedes {settings : Settings} {manifest : Manifest} {router : Router}
    (made : router ∈ (processManifest settings manifest).2.routers) {group : RouteGroup}
    (grouped : group ∈ router.groups) (operation : Operation) :
    (group.routesFor operation).Pairwise Route.Precedes := by
  obtain ⟨accepted, member, rfl⟩ := List.mem_map.mp made
  obtain ⟨bucket, inside, _, rfl⟩ := (Round.mem_groupsOf accepted _).mp grouped
  exact (Round.settled_ofManifest settings manifest).routesFor_precedes member inside rfl operation

/-- **The law of reaching** for a route in a group of a router. -/
structure ReachLaw (types : TypeNames) (router : Router) (group : RouteGroup) (route : Route) :
    Prop where
  /-- The entry point of the route's operation makes its call exactly if the route is the first one
  of the operation that the query meets. -/
  called_iff : ∀ query,
    (Source.ofRouter types router).run (Source.entryPointOf types router route.operation)
          group.matcherId query =
        some ⟨Source.matcherConstant group.matcherId, (group.ahead route).length,
          Source.callOf types route⟩ ↔
      group.selected? route.operation query = some route
  /-- There is a query that selects the route, unless one route ahead of it takes all of its
  queries. -/
  reached_iff : (∃ query, group.selected? route.operation query = some route) ↔
    ∀ earlier ∈ group.ahead route, ¬ earlier.Swallows route
  /-- The routes that do have its keys, and at each of them its literal or a placeholder. -/
  swallows_iff : ∀ earlier ∈ group.ahead route,
    earlier.Swallows route ↔
      earlier.keys.Perm route.keys ∧
        ∀ pair ∈ earlier.model.query, ∃ own ∈ route.model.query,
          pair.key = own.key ∧ pair.value.takes own.value = true
  /-- Somewhere they have a placeholder where it has a literal. -/
  wider : ∀ earlier ∈ group.ahead route, earlier.Swallows route →
    ∃ key name text, ⟨key, .placeholder name⟩ ∈ earlier.model.query ∧
      ⟨key, .literal text⟩ ∈ route.model.query

/-- **Which routes can be reached**, for every manifest and all settings. A route is selected by
some query unless one single route ahead of it in its group has the same keys and asks at each of
them for the same or for any value. No set of routes hides a route that none of them hides by
itself. -/
theorem reach_law (settings : Settings) (manifest : Manifest) (router : Router)
    (member : router ∈ (processManifest settings manifest).2.routers) (types : TypeNames)
    (group : RouteGroup) (grouped : group ∈ router.groups) (route : Route)
    (routed : route ∈ group.routes) : ReachLaw types router group route := by
  obtain ⟨after, split⟩ := RouteGroup.exists_routesFor_eq routed
  have ordered := routesFor_precedes member grouped route.operation
  rw [split] at ordered
  have precedes {earlier : Route} (ahead : earlier ∈ group.ahead route) : earlier.Precedes route :=
    (List.pairwise_append.mp ordered).2.2 earlier ahead route List.mem_cons_self
  have distinct := map_matcherId_groups_nodup member
  have settled := Round.settled_ofManifest settings manifest
  obtain ⟨accepted, inside, rfl⟩ := List.mem_map.mp member
  obtain ⟨bucket, listed, _, rfl⟩ := (Round.mem_groupsOf accepted _).mp grouped
  have built := settled.isBuilt_of_mem_routesOf inside listed routed
  exact {
    called_iff := Source.run_entryPointOf_eq_iff_selected? types distinct grouped routed
    reached_iff := RouteGroup.exists_selected?_iff routed built
    swallows_iff := fun _ ahead => (precedes ahead).swallows_iff
    wider := fun _ ahead => (precedes ahead).exists_placeholder }

/-- A provider that declares the route for one value of a key before the route for any value. -/
theorem reach_law_of_value_first :
    let one : Method := { name := "one", operation := .query, template := "n?k=1" }
    let any : Method := { name := "any", operation := .query, template := "n?k=\x7bv\x7d" }
    let manifest : Manifest := ⟨[{ className := "P", authority := "a", methods := [one, any] }]⟩
    ∃ router ∈ (processManifest {} manifest).2.routers, ∃ group ∈ router.groups,
      ∃ route ∈ group.routes, (group.ahead route).map (·.delegate.handler.ordinal) = [0] ∧
        ReachLaw {} router group route := by
  intro one any manifest
  have made : (processManifest {} manifest).2.routers.map (fun router =>
      router.groups.map fun group => group.routes.map fun route =>
        (group.ahead route).map (·.delegate.handler.ordinal)) = [[[[], [0]]]] := by
    decide +kernel
  obtain ⟨router, routers, groups⟩ := List.map_eq_singleton_iff.mp made
  obtain ⟨group, groups, routes⟩ := List.map_eq_singleton_iff.mp groups
  obtain ⟨first, rest, routes, _, others⟩ := List.map_eq_cons_iff.mp routes
  obtain ⟨second, rfl, ahead⟩ := List.map_eq_singleton_iff.mp others
  have member : router ∈ (processManifest {} manifest).2.routers := by simp [routers]
  have grouped : group ∈ router.groups := by simp [groups]
  have routed : second ∈ group.routes := by simp [routes]
  refine ⟨router, member, group, grouped, second, routed, ahead, ?_⟩
  exact reach_law {} manifest router member {} group grouped second routed

/-- **A route can be hidden.** If the route for any value of a key is declared first, no query
selects the route for one value. -/
theorem exists_unreachable :
    let any : Method := { name := "any", operation := .query, template := "n?k=\x7bv\x7d" }
    let one : Method := { name := "one", operation := .query, template := "n?k=1" }
    let manifest : Manifest := ⟨[{ className := "P", authority := "a", methods := [any, one] }]⟩
    ∃ router ∈ (processManifest {} manifest).2.routers, ∃ group ∈ router.groups,
      ∃ route ∈ group.routes, ∀ query, group.selected? route.operation query ≠ some route := by
  intro any one manifest
  have made : (processManifest {} manifest).2.routers.map (fun router =>
      router.groups.map fun group => group.routes.map fun route =>
        (route.model.query, (group.ahead route).map (·.model.query))) =
      [[[([⟨"k", .placeholder "v"⟩], []),
        ([⟨"k", .literal "1"⟩], [[⟨"k", .placeholder "v"⟩]])]]] := by
    decide +kernel
  obtain ⟨router, routers, groups⟩ := List.map_eq_singleton_iff.mp made
  obtain ⟨group, groups, routes⟩ := List.map_eq_singleton_iff.mp groups
  obtain ⟨first, rest, routes, _, others⟩ := List.map_eq_cons_iff.mp routes
  obtain ⟨second, rfl, both⟩ := List.map_eq_singleton_iff.mp others
  obtain ⟨fixed, ahead⟩ := Prod.mk.inj both
  obtain ⟨earlier, ahead, free⟩ := List.map_eq_singleton_iff.mp ahead
  have routed : second ∈ group.routes := by simp [routes]
  refine ⟨router, by simp [routers], group, by simp [groups], second, routed, ?_⟩
  intro query selected
  obtain ⟨met, unmet⟩ := (RouteGroup.selected?_eq_some_iff routed query).mp selected
  have missed := unmet earlier (by simp [ahead])
  simp only [Route.isMetBy, fixed, free, List.all_cons, List.all_nil, Bool.and_true,
    QueryPair.isMetBy, beq_iff_eq] at met missed
  rw [met] at missed
  cases missed

end Router

end ContentRouter
