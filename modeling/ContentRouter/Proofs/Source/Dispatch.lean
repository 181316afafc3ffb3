import ContentRouter.Proofs.Round.Routers
import ContentRouter.Proofs.Source.Switch

/-!
# Dispatching in generated routers

For every router that a round makes, its entry point of an operation makes the call of the first
route, in the order of the bucket of the matcher id, that serves the operation and that the query
meets. It refuses exactly the requests that meet no such route (`Router.dispatch_law`).
-/

namespace ContentRouter

namespace Router

/-- **The law of dispatching** for the entry point of an operation in a router of a registry. -/
structure DispatchLaw (types : TypeNames) (registry : Registry) (router : Router)
    (operation : Operation) : Prop where
  /-- The source of the router has the entry point. -/
  entryPoint : Source.entryPointOf types router operation ∈
    (Source.ofRouter types router).entryPoints
  /-- A group has the entries that the router's class owns in the bucket of its matcher id. -/
  bucket : ∀ group ∈ router.groups, ∃ bucket ∈ registry.buckets,
    bucket.id = group.matcherId ∧
      group.routes.map Route.registration =
        bucket.entries.filter (·.owner.className == router.qualifiedName)
  /-- Every bucket in which the router's class owns an entry has a group. -/
  group : ∀ bucket ∈ registry.buckets,
    (∃ entry ∈ bucket.entries, entry.owner.className = router.qualifiedName) →
      ∃ group ∈ router.groups, group.matcherId = bucket.id
  /-- No two groups have the same matcher id. -/
  distinct : (router.groups.map (·.matcherId)).Nodup
  /-- The entry point makes the call of the first route of the operation that the query meets, in
  the case of the matcher id. -/
  calls_iff : ∀ query id landing,
    (Source.ofRouter types router).run (Source.entryPointOf types router operation) id query =
        some landing ↔
      ∃ group ∈ router.groups, group.matcherId = id ∧
        ∃ before route after, group.routesFor operation = before ++ route :: after ∧
          (∀ earlier ∈ before, earlier.isMetBy query = false) ∧ route.isMetBy query = true ∧
          landing = ⟨Source.matcherConstant id, before.length, Source.callOf types route⟩
  /-- The case of a matcher id is no other id's case. -/
  own : ∀ id other, Source.matcherConstant id = Source.matcherConstant other → id = other
  /-- The entry point refuses a request exactly if the query meets no route of the operation. -/
  refuses_iff : ∀ query id,
    (Source.ofRouter types router).run (Source.entryPointOf types router operation) id query =
        none ↔
      ∀ group ∈ router.groups, group.matcherId = id →
        ∀ route ∈ group.routesFor operation, route.isMetBy query = false
  /-- No route of the operation that the query meets has more query pairs than the first one. -/
  most : ∀ query, ∀ group ∈ router.groups, ∀ before route after,
    group.routesFor operation = before ++ route :: after →
      (∀ earlier ∈ before, earlier.isMetBy query = false) →
        ∀ other ∈ group.routesFor operation, other.isMetBy query = true →
          other.model.queryCount ≤ route.model.queryCount

/-- Of routes in the order of falling numbers of query pairs, the first one that a query meets has
the most. -/
theorem queryCount_le_of_first {query : String → Option String} {before : List Route}
    {route : Route} {after : List Route}
    (falls : (before ++ route :: after).Pairwise fun first second =>
      second.model.queryCount ≤ first.model.queryCount)
    (unmet : ∀ earlier ∈ before, earlier.isMetBy query = false) {other : Route}
    (member : other ∈ before ++ route :: after) (met : other.isMetBy query = true) :
    other.model.queryCount ≤ route.model.queryCount := by
  rcases List.mem_append.mp member with earlier | later
  · rw [unmet other earlier] at met
    cases met
  rcases List.mem_cons.mp later with rfl | behind
  · exact Nat.le_refl _
  · exact (List.pairwise_cons.mp (List.pairwise_append.mp falls).2.1).1 other behind

/-- **The switch refines the routing model**, for every manifest and all settings. -/
theorem dispatch_law (settings : Settings) (manifest : Manifest) (router : Router)
    (member : router ∈ (processManifest settings manifest).2.routers) (types : TypeNames)
    (operation : Operation) (serves : operation ∈ router.operations) :
    DispatchLaw types (processManifest settings manifest).1.registry router operation := by
  have distinct := map_matcherId_groups_nodup member
  have settled := Round.settled_ofManifest settings manifest
  obtain ⟨accepted, inside, rfl⟩ := List.mem_map.mp member
  exact {
    entryPoint := List.mem_map_of_mem serves
    bucket := by
      intro group grouped
      obtain ⟨bucket, listed, _, rfl⟩ := (Round.mem_groupsOf _ _).mp grouped
      exact ⟨bucket, listed, rfl, settled.map_registration_routesOf inside listed⟩
    group := by
      rintro bucket listed ⟨entry, entered, own⟩
      refine ⟨_, (Round.mem_groupsOf _ _).mpr ⟨bucket, listed, ?_, rfl⟩, rfl⟩
      intro nothing
      have owned : entry ∈ bucket.entries.filter
          (·.owner.className == accepted.provider.className) :=
        List.mem_filter.mpr ⟨entered, beq_iff_eq.mpr own⟩
      rw [← settled.map_registration_routesOf inside listed, nothing] at owned
      exact absurd owned List.not_mem_nil
    distinct := distinct
    calls_iff := fun query => Source.run_entryPointOf_eq_some_iff types distinct operation
    own := fun id other => Source.matcherConstant_injective
    refuses_iff := fun query => Source.run_entryPointOf_eq_none_iff types distinct operation
    most := by
      intro query group grouped before route after split unmet other listed met
      obtain ⟨bucket, bucketMember, _, rfl⟩ := (Round.mem_groupsOf _ _).mp grouped
      have falls := (settled.routesOf_falls inside bucketMember).filter (·.operation = operation)
      change RouteGroup.routesFor operation ⟨_, _, Round.routesOf accepted bucket⟩ = _ at split
      rw [RouteGroup.routesFor] at split listed
      rw [split] at falls listed
      exact queryCount_le_of_first falls unmet listed met }

/-- A provider with two handlers for one path makes a router whose entry point tries the one with a
query pair first. -/
theorem dispatch_law_of_two :
    let list : Method := { name := "list", operation := .query, template := "n" }
    let search : Method := { name := "search", operation := .query, template := "n?k=\x7bv\x7d" }
    let manifest : Manifest := ⟨[{ className := "P", authority := "a", methods := [list, search] }]⟩
    ∃ router, (processManifest {} manifest).2.routers = [router] ∧
      router.operations = [.query] ∧
      router.routes.map (·.delegate.handler.ordinal) = [1, 0] ∧
      DispatchLaw {} (processManifest {} manifest).1.registry router .query := by
  intro list search manifest
  have made : (processManifest {} manifest).2.routers.map (fun router =>
      (router.operations, router.routes.map (·.delegate.handler.ordinal))) =
        [([.query], [1, 0])] := by
    decide +kernel
  obtain ⟨router, routers, both⟩ := List.map_eq_singleton_iff.mp made
  obtain ⟨operations, order⟩ := Prod.mk.inj both
  refine ⟨router, routers, operations, order, ?_⟩
  apply dispatch_law
  · rw [routers]
    exact List.mem_singleton_self router
  · rw [operations]
    exact List.mem_singleton_self Operation.query

end Router

end ContentRouter
