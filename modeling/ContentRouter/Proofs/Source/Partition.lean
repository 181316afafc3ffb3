import ContentRouter.Proofs.Source.Reachability

/-!
# Where routes are written

The source of a router has an entry point for each operation that has a route, and in it a case for
each group that serves the operation. So the routes are taken apart twice, by their operation and by
their group, and neither loses or repeats one: each is written as one call, in the entry point of
its operation and under the constant of its group (`Router.placedCalls_perm`). The constants of the
groups are declared once and are all in use (`Router.partition_law`).
-/

namespace ContentRouter

private theorem Operation.mem_all (operation : Operation) : operation ∈ all := by
  cases operation <;> decide

private theorem Operation.all_nodup : all.Nodup := by
  decide

namespace Source

/-- A call and where it is written. -/
structure PlacedCall where
  operation : Operation
  /-- The constant of the case. -/
  constant : String
  call : GuardedCall String
  deriving DecidableEq, Repr

/-- The calls of the entry point of an operation, each with its case. -/
def EntryPoint.placedCalls (operation : Operation) (entry : EntryPoint String) : List PlacedCall :=
  entry.cases.flatMap fun arm => arm.routes.map fun call => ⟨operation, arm.constant, call⟩

/-- The calls of a source whose entry points are those of some operations, one for each. -/
def RouterSource.placedCalls (source : RouterSource String) (operations : List Operation) :
    List PlacedCall :=
  (operations.zip source.entryPoints).flatMap fun (operation, entry) => entry.placedCalls operation

end Source

/-- The call of a route of a group, and where it belongs. -/
def RouteGroup.placedCall (types : TypeNames) (group : RouteGroup) (route : Route) :
    Source.PlacedCall where
  operation := route.operation
  constant := Source.matcherConstant group.matcherId
  call := Source.writtenCall types route

namespace Router

/-- The calls of all routes of a router, in the order of its groups. -/
def placedCalls (types : TypeNames) (router : Router) : List Source.PlacedCall :=
  router.groups.flatMap fun group => group.routes.map (group.placedCall types)

section Operations

variable (router : Router)

private theorem mem_operations_iff (operation : Operation) :
    operation ∈ router.operations ↔ ∃ route ∈ router.routes, route.operation = operation := by
  simp [operations, Operation.mem_all]

private theorem operations_sublist : router.operations.Sublist Operation.all :=
  List.filter_sublist

private theorem operations_nodup : router.operations.Nodup :=
  Operation.all_nodup.sublist router.operations_sublist

end Operations

section Calls

variable (types : TypeNames) (router : Router)

/-- What the case of a group has are the calls of the group's routes for the operation. -/
theorem calls_caseOf? (operation : Operation) (group : RouteGroup) :
    ((Source.caseOf? types operation group).toList.flatMap fun arm =>
        (arm.map Guard.text).routes.map fun call =>
          (⟨operation, (arm.map Guard.text).constant, call⟩ : Source.PlacedCall)) =
      (group.routesFor operation).map (group.placedCall types) := by
  have placed : (group.routesFor operation).map (group.placedCall types) =
      (group.routesFor operation).map fun route =>
        ⟨operation, Source.matcherConstant group.matcherId, Source.writtenCall types route⟩ := by
    apply List.map_congr_left
    intro route served
    have serves := of_decide_eq_true (List.mem_filter.mp served).2
    rw [RouteGroup.placedCall, serves]
  rw [placed]
  cases made : Source.caseOf? types operation group with
  | none =>
      rw [(Source.caseOf?_eq_none_iff types operation group).mp made]
      rfl
  | some arm =>
      obtain ⟨_, _, rfl⟩ := (Source.caseOf?_eq_some_iff types operation group arm).mp made
      rw [Option.toList_some, List.flatMap_singleton, Source.SwitchCase.map, List.map_map,
        List.map_map]
      rfl

/-- **An entry point has the calls of the routes for its operation.** -/
theorem placedCalls_entryPointOf (operation : Operation) :
    ((Source.entryPointOf types router operation).map Guard.text).placedCalls operation =
      (router.placedCalls types).filter (·.operation = operation) := by
  rw [Source.EntryPoint.placedCalls, Source.EntryPoint.map, Source.entryPointOf, List.flatMap_map,
    List.filterMap_eq_flatMap_toList, List.flatMap_assoc, placedCalls, List.filter_flatMap]
  apply List.flatMap_congr
  intro group _
  rw [calls_caseOf?, List.filter_map]
  rfl

/-- **Every route is written once**, in the place that it has in the router. -/
theorem placedCalls_perm :
    (((Source.ofRouter types router).map Guard.text).placedCalls router.operations).Perm
      (router.placedCalls types) := by
  have covered : ∀ call ∈ router.placedCalls types, call.operation ∈ router.operations := by
    intro call listed
    obtain ⟨group, grouped, inside⟩ := List.mem_flatMap.mp listed
    obtain ⟨route, routed, rfl⟩ := List.mem_map.mp inside
    apply (router.mem_operations_iff _).mpr
    exact ⟨route, List.mem_flatMap.mpr ⟨group, grouped, routed⟩, rfl⟩
  have perm := flatMap_filter_perm Source.PlacedCall.operation router.operations_nodup covered
  simp only [← placedCalls_entryPointOf] at perm
  rw [Source.RouterSource.placedCalls, Source.RouterSource.map, Source.ofRouter]
  dsimp only
  rw [List.map_map, ← List.map_id router.operations, List.map_map, List.zip_map', List.flatMap_map]
  exact perm

end Calls

section Constants

variable (types : TypeNames) {settings : Settings} {manifest : Manifest} {router : Router}
  (made : router ∈ (processManifest settings manifest).2.routers)
include made

private theorem map_constant_matchers_nodup :
    ((Source.ofRouter types router).matchers.map (·.constant)).Nodup := by
  have constants :=
    (map_matcherId_groups_nodup made).map fun _ _ => Source.matcherConstant_injective
  rw [List.map_map] at constants
  rw [Source.ofRouter, List.map_map]
  exact constants

private theorem map_constant_cases_nodup (operation : Operation) :
    ((Source.entryPointOf types router operation).cases.map (·.constant)).Nodup := by
  have constants := map_constant_matchers_nodup types made
  rw [Source.ofRouter, List.map_map] at constants
  refine constants.sublist (map_filterMap_sublist ?_ router.groups)
  intro group arm found
  obtain ⟨_, _, rfl⟩ := (Source.caseOf?_eq_some_iff types operation group arm).mp found
  rfl

end Constants

/-- **The law of written routes** for the source of a router. -/
structure PartitionLaw (types : TypeNames) (router : Router)
    (source : Source.RouterSource String) : Prop where
  /-- The operations of a router are those of its routes. -/
  operation_iff : ∀ operation, operation ∈ router.operations ↔
    ∃ route ∈ router.routes, route.operation = operation
  /-- They stand in the order of all operations, each once. -/
  ordered : router.operations.Sublist Operation.all
  distinct : router.operations.Nodup
  /-- There is an entry point for each of them. -/
  entryPoints : source.entryPoints.map (·.signature) =
    router.operations.map (Source.signature types)
  /-- Every route is written once, in the entry point of its operation and under the constant of its
  group. -/
  placed : (source.placedCalls router.operations).Perm (router.placedCalls types)
  /-- The cases of an entry point have different constants. -/
  constants : ∀ entry ∈ source.entryPoints, (entry.cases.map (·.constant)).Nodup
  /-- The constant of a case is declared once, with the matcher id of the group whose routes the
  case has. -/
  declared : ∀ entry ∈ source.entryPoints, ∀ arm ∈ entry.cases,
    ∃ operation ∈ router.operations, ∃ group ∈ router.groups, ∃ matcher,
      arm.routes = (group.routesFor operation).map (Source.writtenCall types) ∧
        source.matchers.filter (·.constant == arm.constant) = [matcher] ∧
        matcher.id = group.matcherId
  /-- Every constant that is declared is the constant of a case. -/
  used : ∀ matcher ∈ source.matchers, ∃ entry ∈ source.entryPoints, ∃ arm ∈ entry.cases,
    arm.constant = matcher.constant

/-- **Writing a router neither loses nor repeats a route**, for every manifest and all settings. -/
theorem partition_law (settings : Settings) (manifest : Manifest) (router : Router)
    (made : router ∈ (processManifest settings manifest).2.routers) (types : TypeNames) :
    PartitionLaw types router ((Source.ofRouter types router).map Guard.text) where
  operation_iff := router.mem_operations_iff
  ordered := router.operations_sublist
  distinct := router.operations_nodup
  entryPoints := by
    rw [Source.RouterSource.map, Source.ofRouter, List.map_map, List.map_map]
    rfl
  placed := router.placedCalls_perm types
  constants := by
    intro entry entered
    obtain ⟨_, listed, rfl⟩ := List.mem_map.mp entered
    obtain ⟨operation, _, rfl⟩ := List.mem_map.mp listed
    rw [Source.EntryPoint.map, List.map_map]
    exact map_constant_cases_nodup types made operation
  declared := by
    intro entry entered arm inside
    obtain ⟨_, listed, rfl⟩ := List.mem_map.mp entered
    obtain ⟨operation, serves, rfl⟩ := List.mem_map.mp listed
    obtain ⟨group, grouped, _, _, rfl⟩ := (Source.mem_cases_iff types).mp inside
    refine ⟨operation, serves, group, grouped, Source.matcherEntry group, rfl, ?_, rfl⟩
    exact filter_key_eq_singleton Source.MatcherEntry.constant
      (map_constant_matchers_nodup types made) (List.mem_map_of_mem grouped)
  used := by
    intro matcher listed
    obtain ⟨group, grouped, rfl⟩ := List.mem_map.mp listed
    -- A group has a route, and the entry point of its operation has a case for the group.
    obtain ⟨route, routed⟩ := List.exists_mem_of_ne_nil _ (routes_ne_nil made grouped)
    have served := RouteGroup.mem_routesFor routed
    obtain ⟨last, isLast⟩ := Option.ne_none_iff_exists'.mp
      (List.getLast?_eq_none_iff.not.mpr (List.ne_nil_of_mem served))
    have serves : route.operation ∈ router.operations := (router.mem_operations_iff _).mpr
      ⟨route, List.mem_flatMap.mpr ⟨group, grouped, routed⟩, rfl⟩
    refine ⟨_, List.mem_map_of_mem (List.mem_map_of_mem serves), _,
      (Source.mem_cases_iff types).mpr ⟨group, grouped, last, isLast, rfl⟩, rfl⟩

/-- A path that is served for two operations, and a path that is served for one of them. -/
theorem partition_law_of_two :
    let add : Method := { name := "add", operation := .insert, template := "n" }
    let list : Method := { name := "list", operation := .query, template := "n" }
    let one : Method := { name := "one", operation := .query, template := "n/1" }
    let manifest : Manifest :=
      ⟨[{ className := "P", authority := "a", methods := [add, list, one] }]⟩
    ∃ router ∈ (processManifest {} manifest).2.routers,
      (router.placedCalls {}).map (fun placed =>
          (placed.operation, placed.constant, placed.call.call)) =
        [(.insert, "MATCHER_1", "add()"), (.query, "MATCHER_1", "list()"),
          (.query, "MATCHER_2", "one()")] ∧
      (((Source.ofRouter {} router).map Guard.text).placedCalls router.operations).map
          (·.call.call) =
        ["list()", "one()", "add()"] ∧
      PartitionLaw {} router ((Source.ofRouter {} router).map Guard.text) := by
  intro add list one manifest
  have made : (processManifest {} manifest).2.routers.map (fun router =>
      ((router.placedCalls {}).map (fun placed =>
          (placed.operation, placed.constant, placed.call.call)),
        (((Source.ofRouter {} router).map Guard.text).placedCalls router.operations).map
          (·.call.call))) =
      [([(.insert, "MATCHER_1", "add()"), (.query, "MATCHER_1", "list()"),
          (.query, "MATCHER_2", "one()")], ["list()", "one()", "add()"])] := by
    decide +kernel
  obtain ⟨router, routers, both⟩ := List.map_eq_singleton_iff.mp made
  obtain ⟨asked, written⟩ := Prod.mk.inj both
  have member : router ∈ (processManifest {} manifest).2.routers := by simp [routers]
  exact ⟨router, member, asked, written, partition_law {} manifest router member {}⟩

end Router

end ContentRouter
