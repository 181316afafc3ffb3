import ContentRouter.Proofs.Round.Acceptance

/-!
# The router model as an image of the registry

The registry and the delegates of a round are built side by side, and the router model joins them
again by class and ordinal. Nothing goes astray: every entry of the registry is placed exactly once
in the router model, under the class of its owner and with the id and the path of its bucket, and it
is paired with the delegate of its owner (`Round.image_law`).
-/

namespace ContentRouter

/-- An entry with the class under which it is found and the bucket in which it is found there. -/
structure Placement where
  className : String
  matcherId : MatcherId
  normalizedPath : String
  registration : Registration
  deriving DecidableEq, Repr

/-- The entries of a registry, each under the class of its owner. -/
def Registry.placements (registry : Registry) : List Placement :=
  registry.buckets.flatMap fun bucket => bucket.entries.map fun entry =>
    ⟨entry.owner.className, bucket.id, bucket.normalizedPath, entry⟩

/-- The entries that a router model leads to, each under the class of its router. -/
def RouterModel.placements (model : RouterModel) : List Placement :=
  model.routers.flatMap fun router =>
    router.groups.flatMap fun group =>
      group.routes.map fun route =>
        ⟨router.qualifiedName, group.matcherId, group.normalizedPath, route.registration⟩

namespace Round

/-- Buckets without routes add nothing to what is collected from the groups of a router. -/
theorem flatMap_groupsOf {α : Type} (accepted : AcceptedProvider) (registry : Registry)
    {collect : RouteGroup → List α} (nothing : ∀ id path, collect ⟨id, path, []⟩ = []) :
    (groupsOf accepted registry).flatMap collect =
      registry.buckets.flatMap fun bucket =>
        collect ⟨bucket.id, bucket.normalizedPath, routesOf accepted bucket⟩ := by
  rw [groupsOf, List.filterMap_eq_flatMap_toList, List.flatMap_assoc]
  apply List.flatMap_congr
  intro bucket _
  by_cases none : (routesOf accepted bucket).isEmpty = true
  · rw [if_pos none, List.isEmpty_iff.mp none, nothing]
    rfl
  · rw [if_neg none, Option.toList_some, List.flatMap_singleton]

section Settled

variable {settings : Settings} {providers : List Provider} {round : Round}
  (settled : Settled settings providers round)
include settled

private theorem Settled.map_provider_accepted_sublist :
    (round.accepted.map (·.provider)).Sublist (effective settings providers) := by
  rw [settled.accepted]
  conv => rhs; rw [← List.map_id (effective settings providers)]
  exact map_filterMap_sublist (fun _ _ made => (acceptedOf_eq_some_iff.mp made).1) _

private theorem Settled.map_className_accepted_nodup :
    (round.accepted.map (·.provider.className)).Nodup := by
  have names := settled.map_provider_accepted_sublist.map (·.className)
  rw [List.map_map] at names
  exact (map_className_effective_nodup providers).sublist names

private theorem Settled.delegates_ne_nil {accepted : AcceptedProvider}
    (member : accepted ∈ round.accepted) : accepted.delegates ≠ [] := by
  rw [settled.accepted] at member
  obtain ⟨provider, _, made⟩ := List.mem_filterMap.mp member
  exact (acceptedOf_eq_some_iff.mp made).2.2

/-- The class of every owner of an entry is accepted. -/
theorem Settled.exists_accepted_of_entry {entry : Registration}
    (entered : entry ∈ round.registry.entries) :
    ∃ accepted ∈ round.accepted, accepted.provider.className = entry.owner.className := by
  rw [settled.represents.entries_perm.mem_iff] at entered
  obtain ⟨admission, admitted, rfl⟩ := List.mem_map.mp entered
  obtain ⟨accepted, member, provider, _⟩ := settled.exists_accepted admitted
  exact ⟨accepted, member, congrArg Provider.className provider⟩

private theorem Settled.placements_finish :
    (round.finish settings).placements =
      round.accepted.flatMap fun accepted =>
        round.registry.placements.filter (·.className = accepted.provider.className) := by
  unfold RouterModel.placements finish
  rw [List.flatMap_map]
  apply List.flatMap_congr
  intro accepted member
  dsimp only [routerOf]
  rw [flatMap_groupsOf accepted round.registry (fun _ _ => rfl), Registry.placements,
    List.filter_flatMap]
  apply List.flatMap_congr
  intro bucket inside
  have owned : (bucket.entries.filter (·.owner.className == accepted.provider.className)).map
      (fun entry =>
        Placement.mk accepted.provider.className bucket.id bucket.normalizedPath entry) =
        (bucket.entries.filter (·.owner.className == accepted.provider.className)).map fun entry =>
          ⟨entry.owner.className, bucket.id, bucket.normalizedPath, entry⟩ := by
    apply List.map_congr_left
    intro entry own
    rw [beq_iff_eq.mp (List.mem_filter.mp own).2]
  rw [List.filter_map]
  refine Eq.trans ?_ owned
  rw [← settled.map_registration_routesOf member inside, List.map_map]
  rfl

/-- **Every entry is placed exactly once.** -/
theorem Settled.placements_perm :
    (round.finish settings).placements.Perm round.registry.placements := by
  have covered : ∀ placement ∈ round.registry.placements,
      placement.className ∈ round.accepted.map (·.provider.className) := by
    intro placement placed
    obtain ⟨bucket, inside, listed⟩ := List.mem_flatMap.mp placed
    obtain ⟨entry, entered, rfl⟩ := List.mem_map.mp listed
    obtain ⟨accepted, member, own⟩ :=
      settled.exists_accepted_of_entry (Registry.mem_entries.mpr ⟨bucket, inside, entered⟩)
    exact List.mem_map.mpr ⟨accepted, member, own⟩
  have grouped :=
    flatMap_filter_perm Placement.className settled.map_className_accepted_nodup covered
  rwa [List.flatMap_map, ← settled.placements_finish] at grouped

/-- No handler owns two entries. -/
theorem Settled.map_owner_entries_nodup : (round.registry.entries.map (·.owner)).Nodup := by
  rw [(settled.represents.entries_perm.map _).nodup_iff, List.map_map]
  exact map_handler_admissions_nodup providers

/-- A bucket is made for an admission, which is one of its entries. -/
theorem Settled.entries_ne_nil {bucket : Bucket} (inside : bucket ∈ round.registry.buckets) :
    bucket.entries ≠ [] := by
  have made := List.mem_map_of_mem (f := Bucket.address) inside
  rw [settled.represents.map_address_buckets, List.mem_eraseDups] at made
  obtain ⟨admission, admitted, same⟩ := List.mem_map.mp made
  obtain ⟨home, listed, entered⟩ := Registry.mem_entries.mp (settled.represents.entry_mem admitted)
  have address := settled.represents.wellFormed.homed home listed _ entered
  have own : home = bucket :=
    settled.represents.wellFormed.eq_of_address listed inside (address.symm.trans same)
  rw [← own]
  exact List.ne_nil_of_mem entered

/-- A router has a group, since its provider has a delegate. -/
theorem Settled.groupsOf_ne_nil {accepted : AcceptedProvider} (member : accepted ∈ round.accepted) :
    groupsOf accepted round.registry ≠ [] := by
  obtain ⟨delegate, delegated⟩ := List.exists_mem_of_ne_nil _ (settled.delegates_ne_nil member)
  rw [(settled.delegates_eq member).2] at delegated
  obtain ⟨admission, own, _⟩ := List.mem_map.mp delegated
  obtain ⟨admitted, provider⟩ := List.mem_filter.mp own
  obtain ⟨bucket, inside, entered⟩ :=
    Registry.mem_entries.mp (settled.represents.entry_mem admitted)
  have owned : admission.entry round.registry ∈
      bucket.entries.filter (·.owner.className == accepted.provider.className) := by
    refine List.mem_filter.mpr ⟨entered, beq_iff_eq.mpr ?_⟩
    rw [← of_decide_eq_true provider]
    rfl
  rw [← settled.map_registration_routesOf member inside] at owned
  obtain ⟨route, routed, _⟩ := List.mem_map.mp owned
  exact List.ne_nil_of_mem ((mem_groupsOf accepted round.registry).mpr
    ⟨bucket, inside, List.ne_nil_of_mem routed, rfl⟩)

/-- The groups of a router have rising matcher ids. -/
theorem Settled.groupsOf_rises (accepted : AcceptedProvider) :
    (groupsOf accepted round.registry).Pairwise (·.matcherId < ·.matcherId) :=
  List.pairwise_map.mp (settled.represents.wellFormed.ids_rise.sublist
    (map_matcherId_groupsOf_sublist accepted round.registry))

end Settled

/-- **The router model of a round is the image of its registry.** -/
structure ImageLaw (settings : Settings) (manifest : Manifest) : Prop where
  /-- The router model leads to the entries of the registry: to each of them once, from the router
  of its owner's class, in a group with the id and the path of its bucket, and with a delegate that
  has the class, the name, the ordinal and the operation of its owner. -/
  placed : (processManifest settings manifest).2.placements.Perm
    (processManifest settings manifest).1.registry.placements
  /-- No two entries have the same owner. -/
  owners : ((processManifest settings manifest).1.registry.entries.map (·.owner)).Nodup
  /-- The delegate of a route is the one delegate of its class with its handler. -/
  delegate : ∀ router ∈ (processManifest settings manifest).2.routers, ∀ route ∈ router.routes,
    ∃ accepted ∈ (processManifest settings manifest).1.accepted,
      accepted.provider.className = router.qualifiedName ∧ route.delegate ∈ accepted.delegates ∧
        (accepted.delegates.map (·.handler)).Nodup
  /-- A route has the template of its delegate, the id of its group and the authority of its
  router. -/
  agrees : ∀ router ∈ (processManifest settings manifest).2.routers,
    ∀ group ∈ router.groups, ∀ route ∈ group.routes,
      route.delegate.template = route.model.text ∧ route.delegate.matcherId = group.matcherId ∧
        route.model.authority = router.authority
  /-- The groups of a router have rising matcher ids. -/
  rises : ∀ router ∈ (processManifest settings manifest).2.routers,
    router.groups.Pairwise (·.matcherId < ·.matcherId)
  /-- The routes of a group are the entries of the class in a bucket, in the order of the bucket. -/
  order : ∀ router ∈ (processManifest settings manifest).2.routers, ∀ group ∈ router.groups,
    ∃ bucket ∈ (processManifest settings manifest).1.registry.buckets,
      bucket.id = group.matcherId ∧ bucket.normalizedPath = group.normalizedPath ∧
        group.routes.map Route.registration =
          bucket.entries.filter (·.owner.className == router.qualifiedName)
  bucket_ne_nil : ∀ bucket ∈ (processManifest settings manifest).1.registry.buckets,
    bucket.entries ≠ []
  group_ne_nil : ∀ router ∈ (processManifest settings manifest).2.routers,
    ∀ group ∈ router.groups, group.routes ≠ []
  router_ne_nil : ∀ router ∈ (processManifest settings manifest).2.routers, router.groups ≠ []
  /-- No two routers are for the same class. -/
  names : ((processManifest settings manifest).2.routers.map (·.qualifiedName)).Nodup

/-- No two routers of a model are for the same class. -/
theorem map_qualifiedName_routers_nodup (settings : Settings) (manifest : Manifest) :
    ((processManifest settings manifest).2.routers.map (·.qualifiedName)).Nodup := by
  have names := (settled_ofManifest settings manifest).map_className_accepted_nodup
  rw [processManifest, finish, List.map_map]
  exact names

/-- **No entry is lost, repeated or paired with another delegate** on the way from the registry to
the router model, for every manifest and all settings. -/
theorem image_law (settings : Settings) (manifest : Manifest) : ImageLaw settings manifest := by
  have settled := settled_ofManifest settings manifest
  have wellFormed := settled.represents.wellFormed
  exact {
    placed := settled.placements_perm
    owners := settled.map_owner_entries_nodup
    delegate := by
      intro router made route routed
      obtain ⟨accepted, member, rfl⟩ := List.mem_map.mp made
      obtain ⟨bucket, _, inside⟩ := (mem_routes_routerOf accepted _ settings).mp routed
      exact ⟨accepted, member, rfl, delegate_mem_of_mem_routesOf accepted inside,
        settled.map_handler_delegates_nodup member⟩
    agrees := by
      intro router made group grouped route routed
      obtain ⟨accepted, member, rfl⟩ := List.mem_map.mp made
      obtain ⟨bucket, inside, _, rfl⟩ := (mem_groupsOf accepted _).mp grouped
      -- The model of a route carries the address of the bucket in which its entry lies.
      obtain ⟨admission, admitted, provider, entered, rfl⟩ :=
        settled.exists_admission_of_route member inside routed
      obtain ⟨text, authority⟩ := Candidate.model_of_offer? (mem_admissionsAfter admitted).2
      have address := (wellFormed.homed bucket inside _ entered).symm
      refine ⟨text.symm, wellFormed.idFor_eq inside address, ?_⟩
      rw [routerOf, ← provider]
      exact authority
    rises := by
      intro router made
      obtain ⟨accepted, _, rfl⟩ := List.mem_map.mp made
      exact settled.groupsOf_rises accepted
    order := by
      intro router made group grouped
      obtain ⟨accepted, member, rfl⟩ := List.mem_map.mp made
      obtain ⟨bucket, inside, _, rfl⟩ := (mem_groupsOf accepted _).mp grouped
      exact ⟨bucket, inside, rfl, rfl, settled.map_registration_routesOf member inside⟩
    bucket_ne_nil := fun bucket => settled.entries_ne_nil
    group_ne_nil := by
      intro router made group grouped
      obtain ⟨accepted, _, rfl⟩ := List.mem_map.mp made
      obtain ⟨bucket, _, some, rfl⟩ := (mem_groupsOf accepted _).mp grouped
      exact some
    router_ne_nil := by
      intro router made
      obtain ⟨accepted, member, rfl⟩ := List.mem_map.mp made
      exact settled.groupsOf_ne_nil member
    names := map_qualifiedName_routers_nodup settings manifest }

end Round

end ContentRouter
