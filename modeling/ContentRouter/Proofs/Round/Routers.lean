import ContentRouter.Proofs.Lists.Keys
import ContentRouter.Proofs.Round.Settlement

/-!
# The routers of a round

A router has a group for every bucket of the registry in which its class owns an entry. The routes
of the group are the entries of the class, in the order of the bucket, each with the delegate of its
handler: no entry is left without one (`Round.Settled.map_registration_routesOf`). So the groups
have different matcher ids, and their routes stand in the order of falling numbers of query pairs.
They share an address, and no two of them serve the same requests for one operation.

A route comes from one admission, which has given both its entry and its delegate
(`Round.Settled.exists_admission_of_route`).
-/

namespace ContentRouter

/-- The entry that a route comes from. -/
def Route.registration (route : Route) : Registration := ⟨route.model, route.delegate.handler⟩

namespace Round

section Groups

variable (accepted : AcceptedProvider) (registry : Registry)

/-- The groups of a provider are the buckets in which it has routes. -/
theorem mem_groupsOf {group : RouteGroup} :
    group ∈ groupsOf accepted registry ↔
      ∃ bucket ∈ registry.buckets, routesOf accepted bucket ≠ [] ∧
        group = ⟨bucket.id, bucket.normalizedPath, routesOf accepted bucket⟩ := by
  rw [groupsOf, List.mem_filterMap]
  refine exists_congr fun bucket => and_congr Iff.rfl ?_
  dsimp only
  rw [ne_eq, ← List.isEmpty_iff]
  split
  · rename_i none
    exact iff_of_false nofun (fun both => both.1 none)
  · rename_i some
    rw [Option.some.injEq, eq_comm]
    exact (and_iff_right some).symm

/-- The groups have their matcher ids in the order of the registry. -/
theorem map_matcherId_groupsOf_sublist :
    ((groupsOf accepted registry).map (·.matcherId)).Sublist (registry.buckets.map (·.id)) := by
  apply map_filterMap_sublist
  intro bucket group made
  dsimp only at made
  split at made
  · cases made
  · cases made
    rfl

/-- The routes of a router are those of the buckets. -/
theorem mem_routes_routerOf (settings : Settings) {route : Route} :
    route ∈ (routerOf settings registry accepted).routes ↔
      ∃ bucket ∈ registry.buckets, route ∈ routesOf accepted bucket := by
  rw [Router.routes, List.mem_flatMap]
  constructor
  · rintro ⟨group, grouped, inside⟩
    obtain ⟨bucket, listed, _, rfl⟩ := (mem_groupsOf accepted registry).mp grouped
    exact ⟨bucket, listed, inside⟩
  · rintro ⟨bucket, listed, inside⟩
    refine ⟨_, (mem_groupsOf accepted registry).mpr ⟨bucket, listed, ?_, rfl⟩, inside⟩
    exact List.ne_nil_of_mem inside

/-- A route leads to a delegate of the provider. -/
theorem delegate_mem_of_mem_routesOf {bucket : Bucket} {route : Route}
    (member : route ∈ routesOf accepted bucket) : route.delegate ∈ accepted.delegates := by
  obtain ⟨entry, _, made⟩ := List.mem_filterMap.mp member
  obtain ⟨delegate, found, rfl⟩ := Option.map_eq_some_iff.mp made
  exact List.mem_of_find?_eq_some found

end Groups

section Routes

variable {settings : Settings} {providers : List Provider} {round : Round}
  (settled : Settled settings providers round)
include settled

/-- The delegates of an accepted provider are those of its admissions, in their order. -/
theorem Settled.delegates_eq {accepted : AcceptedProvider} (member : accepted ∈ round.accepted) :
    accepted.provider ∈ effective settings providers ∧
      accepted.delegates = ((admissions settings (candidates settings providers)).filter
        (·.candidate.provider = accepted.provider)).map (·.delegate round.registry) := by
  rw [settled.accepted] at member
  obtain ⟨provider, listed, made⟩ := List.mem_filterMap.mp member
  obtain ⟨rfl, delegates, _⟩ := acceptedOf_eq_some_iff.mp made
  exact ⟨listed, delegates⟩

/-- The handler of a delegate is of the class of its provider. -/
theorem Settled.className_of_delegate {accepted : AcceptedProvider}
    (member : accepted ∈ round.accepted) {delegate : Delegate}
    (delegated : delegate ∈ accepted.delegates) :
    delegate.handler.className = accepted.provider.className := by
  rw [(settled.delegates_eq member).2] at delegated
  obtain ⟨admission, own, rfl⟩ := List.mem_map.mp delegated
  exact congrArg Provider.className (of_decide_eq_true (List.mem_filter.mp own).2)

/-- No two delegates of a provider have the same handler. -/
theorem Settled.map_handler_delegates_nodup {accepted : AcceptedProvider}
    (member : accepted ∈ round.accepted) : (accepted.delegates.map (·.handler)).Nodup := by
  rw [(settled.delegates_eq member).2, List.map_map]
  exact (map_handler_admissions_nodup providers).sublist (List.filter_sublist.map _)

/-- The delegates of a provider are told apart by their ordinals. -/
theorem Settled.map_ordinal_delegates_nodup {accepted : AcceptedProvider}
    (member : accepted ∈ round.accepted) :
    (accepted.delegates.map (·.handler.ordinal)).Nodup := by
  have distinct := List.Nodup.of_map _ (settled.map_handler_delegates_nodup member)
  refine List.Nodup.map_on ?_ distinct
  intro delegate delegated other otherDelegated ordinals
  rw [(settled.delegates_eq member).2] at delegated otherDelegated
  obtain ⟨admission, own, rfl⟩ := List.mem_map.mp delegated
  obtain ⟨rival, rivalOwn, rfl⟩ := List.mem_map.mp otherDelegated
  obtain ⟨admitted, provider⟩ := List.mem_filter.mp own
  obtain ⟨rivalAdmitted, rivalProvider⟩ := List.mem_filter.mp rivalOwn
  have place : admission.candidate.place = rival.candidate.place := by
    rw [Candidate.place, of_decide_eq_true provider, ← of_decide_eq_true rivalProvider]
    exact congrArg (Prod.mk _) ordinals
  have same : admission.candidate = rival.candidate :=
    List.inj_on_of_nodup_map (map_place_candidates_nodup settings providers)
      (mem_admissionsAfter admitted).1 (mem_admissionsAfter rivalAdmitted).1 place
  rw [admission_eq_of_handler_eq admitted rivalAdmitted (congrArg Candidate.handler same)]

/-- An entry of an accepted provider's class finds the delegate of its own handler. -/
theorem Settled.find?_delegates {accepted : AcceptedProvider} (member : accepted ∈ round.accepted)
    {entry : Registration} (entered : entry ∈ round.registry.entries)
    (own : entry.owner.className = accepted.provider.className) :
    ∃ delegate, accepted.delegates.find? (·.handler.ordinal == entry.owner.ordinal) =
        some delegate ∧ delegate.handler = entry.owner := by
  obtain ⟨listed, delegates⟩ := settled.delegates_eq member
  rw [settled.represents.entries_perm.mem_iff] at entered
  obtain ⟨admission, admitted, rfl⟩ := List.mem_map.mp entered
  have provider := provider_eq_of_className_eq admitted listed own
  have present : admission.delegate round.registry ∈ accepted.delegates := by
    rw [delegates]
    exact List.mem_map_of_mem (List.mem_filter.mpr ⟨admitted, decide_eq_true provider⟩)
  refine ⟨admission.delegate round.registry, ?_, rfl⟩
  exact (find?_key_eq_some_iff (fun delegate : Delegate => delegate.handler.ordinal)
    (settled.map_ordinal_delegates_nodup member)).mpr ⟨present, rfl⟩

/-- **The routes of a bucket** come from the entries that the class owns there, in their order. -/
theorem Settled.map_registration_routesOf {accepted : AcceptedProvider}
    (member : accepted ∈ round.accepted) {bucket : Bucket}
    (inside : bucket ∈ round.registry.buckets) :
    (routesOf accepted bucket).map Route.registration =
      bucket.entries.filter (·.owner.className == accepted.provider.className) := by
  rw [routesOf, List.map_filterMap]
  conv => rhs; rw [← List.filterMap_some (l := bucket.entries.filter _)]
  apply List.filterMap_congr
  intro entry owned
  obtain ⟨listed, own⟩ := List.mem_filter.mp owned
  obtain ⟨delegate, found, handler⟩ := settled.find?_delegates member
    (Registry.mem_entries.mpr ⟨bucket, inside, listed⟩) (beq_iff_eq.mp own)
  rw [found, Option.map_some, Option.map_some, Route.registration, handler]

/-- Routes with more query pairs come first. -/
theorem Settled.routesOf_falls {accepted : AcceptedProvider} (member : accepted ∈ round.accepted)
    {bucket : Bucket} (inside : bucket ∈ round.registry.buckets) :
    (routesOf accepted bucket).Pairwise fun first second =>
      second.model.queryCount ≤ first.model.queryCount := by
  have run := settled.represents.run
  have contents : bucket.entries = Bucket.inOrder _ :=
    (Run.sound_ofCalls _).contents bucket (run ▸ inside)
  have falls : (bucket.entries.filter
      (·.owner.className == accepted.provider.className)).Pairwise fun first second =>
        second.model.queryCount ≤ first.model.queryCount := by
    rw [contents]
    exact (Bucket.inOrder_falls _).filter _
  rw [← settled.map_registration_routesOf member inside] at falls
  exact List.pairwise_map.mp falls

private theorem Settled.map_matcherId_groupsOf_nodup (accepted : AcceptedProvider) :
    ((groupsOf accepted round.registry).map (·.matcherId)).Nodup :=
  settled.represents.wellFormed.ids_nodup.sublist (map_matcherId_groupsOf_sublist _ _)

private theorem Settled.registration_mem_entries {accepted : AcceptedProvider}
    (member : accepted ∈ round.accepted) {bucket : Bucket}
    (inside : bucket ∈ round.registry.buckets) {route : Route}
    (routed : route ∈ routesOf accepted bucket) : route.registration ∈ bucket.entries := by
  have owned := List.mem_map_of_mem (f := Route.registration) routed
  rw [settled.map_registration_routesOf member inside] at owned
  exact (List.mem_filter.mp owned).1

/-- A route has the authority and the path of its bucket. -/
theorem Settled.address_of_mem_routesOf {accepted : AcceptedProvider}
    (member : accepted ∈ round.accepted) {bucket : Bucket}
    (inside : bucket ∈ round.registry.buckets) {route : Route}
    (routed : route ∈ routesOf accepted bucket) : route.model.address = bucket.address :=
  settled.represents.wellFormed.homed bucket inside _
    (settled.registration_mem_entries member inside routed)

omit settled in
private theorem isBuilt_of_mem_calls {call : Call}
    (called : call ∈ (admissions settings (candidates settings providers)).map Admission.call) :
    call.model.IsBuilt := by
  obtain ⟨admission, admitted, rfl⟩ := List.mem_map.mp called
  exact Candidate.isBuilt_of_offer? (mem_admissionsAfter admitted).2

/-- The model of a route was built from a template. -/
theorem Settled.isBuilt_of_mem_routesOf {accepted : AcceptedProvider}
    (member : accepted ∈ round.accepted) {bucket : Bucket}
    (inside : bucket ∈ round.registry.buckets) {route : Route}
    (routed : route ∈ routesOf accepted bucket) : route.model.IsBuilt := by
  have entered : route.registration ∈ round.registry.entries :=
    Registry.mem_entries.mpr ⟨bucket, inside, settled.registration_mem_entries member inside routed⟩
  rw [settled.represents.entries_perm.mem_iff, ← settled.represents.registrations] at entered
  exact Run.isBuilt_of_mem_registrations (fun _ => isBuilt_of_mem_calls) entered

/-- No two routes of a bucket serve the same requests for one operation. -/
theorem Settled.routesOf_apart {accepted : AcceptedProvider} (member : accepted ∈ round.accepted)
    {bucket : Bucket} (inside : bucket ∈ round.registry.buckets) :
    (routesOf accepted bucket).Pairwise fun first second =>
      first.operation = second.operation → first.model.fullyEquals second.model = false := by
  have run := settled.represents.run
  have apart := (Run.entries_pairwise (fun _ => isBuilt_of_mem_calls) (run ▸ inside)).filter
    (·.owner.className == accepted.provider.className)
  rw [← settled.map_registration_routesOf member inside] at apart
  refine (List.pairwise_map.mp apart).imp ?_
  intro first second apart same
  exact (apart same).1

/-- **A route comes from one admission**, which has given both its entry and its delegate. -/
theorem Settled.exists_admission_of_route {accepted : AcceptedProvider}
    (member : accepted ∈ round.accepted) {bucket : Bucket}
    (inside : bucket ∈ round.registry.buckets) {route : Route}
    (routed : route ∈ routesOf accepted bucket) :
    ∃ admission ∈ admissions settings (candidates settings providers),
      admission.candidate.provider = accepted.provider ∧
        admission.entry round.registry ∈ bucket.entries ∧
        route = ⟨(admission.entry round.registry).model, admission.delegate round.registry⟩ := by
  have delegated := delegate_mem_of_mem_routesOf accepted routed
  rw [(settled.delegates_eq member).2] at delegated
  obtain ⟨admission, own, delegate⟩ := List.mem_map.mp delegated
  obtain ⟨admitted, provider⟩ := List.mem_filter.mp own
  have entered := settled.registration_mem_entries member inside routed
  have known := Registry.mem_entries.mpr ⟨bucket, inside, entered⟩
  rw [settled.represents.entries_perm.mem_iff] at known
  obtain ⟨rival, rivalAdmitted, entry⟩ := List.mem_map.mp known
  -- The entry and the delegate have one handler, and no two admissions have the same.
  have handlers : rival.handler = admission.handler :=
    (congrArg Registration.owner entry).trans (congrArg Delegate.handler delegate).symm
  obtain rfl := admission_eq_of_handler_eq rivalAdmitted admitted handlers
  refine ⟨rival, admitted, of_decide_eq_true provider, by rwa [entry], ?_⟩
  rw [entry, delegate]
  rfl

end Routes

end Round

namespace Router

variable {settings : Settings} {manifest : Manifest} {router : Router}
  (made : router ∈ (processManifest settings manifest).2.routers)
include made

/-- No two groups of a router have the same matcher id. -/
theorem map_matcherId_groups_nodup : (router.groups.map (·.matcherId)).Nodup := by
  obtain ⟨accepted, _, rfl⟩ := List.mem_map.mp made
  exact (Round.settled_ofManifest settings manifest).map_matcherId_groupsOf_nodup accepted

section Group

variable {group : RouteGroup} (grouped : group ∈ router.groups)
include grouped

/-- No group of a router is empty. -/
theorem routes_ne_nil : group.routes ≠ [] := by
  obtain ⟨accepted, _, rfl⟩ := List.mem_map.mp made
  obtain ⟨_, _, some, rfl⟩ := (Round.mem_groupsOf accepted _).mp grouped
  exact some

/-- A route comes from an admission under the router's class and authority and the group's path. -/
theorem exists_admission {route : Route} (routed : route ∈ group.routes) :
    ∃ admission ∈ admissions settings (candidates settings manifest.providers),
      admission.candidate.provider.className = router.qualifiedName ∧
        admission.model.address = (router.authority, group.normalizedPath) ∧
        route = ⟨(admission.entry (processManifest settings manifest).1.registry).model,
          admission.delegate (processManifest settings manifest).1.registry⟩ := by
  have settled := Round.settled_ofManifest settings manifest
  obtain ⟨accepted, member, rfl⟩ := List.mem_map.mp made
  obtain ⟨bucket, inside, _, rfl⟩ := (Round.mem_groupsOf accepted _).mp grouped
  obtain ⟨admission, admitted, provider, entered, same⟩ :=
    settled.exists_admission_of_route member inside routed
  have address : admission.model.address = bucket.address :=
    settled.represents.wellFormed.homed bucket inside _ entered
  have authority := authority_of_mem_admissionsAfter admitted
  have path : admission.model.normalizedPath = bucket.normalizedPath := congrArg Prod.snd address
  rw [provider] at authority
  exact ⟨admission, admitted, congrArg Provider.className provider, Prod.ext authority path, same⟩

end Group

end Router

end ContentRouter
