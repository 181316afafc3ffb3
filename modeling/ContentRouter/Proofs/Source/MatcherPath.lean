import ContentRouter.Proofs.Round.Account
import ContentRouter.Proofs.Round.Image
import ContentRouter.Proofs.Source.Literal
import ContentRouter.Proofs.Source.UriMatcher

/-!
# Paths of matcher ids

A router registers every matcher id under a path. Two of its ids have the same path exactly if their
normalized paths differ in empty segments only, and then all handlers of one of them have been
warned about: what the framework has registered in the end is the later one of the two ids.

What a request finds is up to the framework's URI matcher. Whatever is known of it
(`Source.UriMatcher`), the earlier one of two ids under one path is never returned. In a router
without such warnings no call overrides another, and every id whose path has a segment is returned
for some request, unless the path of an earlier id has an asterisk where its own has a text
(`Router.matcherPath_law`).
-/

namespace ContentRouter

namespace Source

/-- A registered path has no characters that its normalized path may not have. -/
theorem allowed_matcherPath {path : String}
    (allowed : ∀ c ∈ path.toList, Model.isForbiddenInPath c = false) :
    ∀ c ∈ (matcherPath path).toList, Model.isForbiddenInPath c = false := by
  intro c member
  rcases Text.mem_of_mem_joinWith member with slash | ⟨segment, listed, inside⟩
  · obtain rfl : c = '/' := by simpa using slash
    decide
  · exact allowed c (Text.mem_of_mem_pieces '/' (List.mem_of_mem_filter listed) inside)

private theorem path_matcherEntry_eq_iff (group other : RouteGroup) :
    (matcherEntry group).path = (matcherEntry other).path ↔
      filledSegments group.normalizedPath = filledSegments other.normalizedPath :=
  literal_inj.trans (matcherPath_eq_iff _ _)

end Source

/-- The warning about the handler of a route with an empty segment. -/
def Route.segmentWarning (router : Router) (route : Route) : Diagnostic :=
  .warning (.method router.qualifiedName route.delegate.handler.method) "EmptySegment"
    s!"template '{route.model.text}' has an empty path segment; URI matching ignores it"

/-- Whether all handlers of a group of a router were warned about. -/
def Router.WarnsOf (diagnostics : List Diagnostic) (router : Router) (group : RouteGroup) : Prop :=
  ∀ route ∈ group.routes, route.segmentWarning router ∈ diagnostics

/-- Whether no handler of a router was warned about. -/
def Router.IsQuiet (diagnostics : List Diagnostic) (router : Router) : Prop :=
  ∀ route ∈ router.routes, route.segmentWarning router ∉ diagnostics

private theorem Round.notices_subset {settings : Settings} {manifest : Manifest}
    {admission : Admission}
    (admitted : admission ∈ admissions settings (candidates settings manifest.providers)) :
    admission.notices settings ⊆ (ofManifest settings manifest).reporter.diagnostics := by
  have accounts := List.mem_map_of_mem (f := Admission.account settings) admitted
  rw [← filter_accepted_accounts] at accounts
  intro diagnostic noticed
  apply (diagnostics_accounts_sublist settings manifest).subset
  exact List.mem_flatMap.mpr ⟨_, List.mem_of_mem_filter accounts, noticed⟩

namespace Router

/-- The calls by which a router registers the paths of its ids, in their order. -/
def registrations (router : Router) : List (String × MatcherId) :=
  router.groups.map fun group => (Source.matcherPath group.normalizedPath, group.matcherId)

/-- The normalized paths of a router's groups with their ids. -/
private def addresses (router : Router) : List (String × MatcherId) :=
  router.groups.map fun group => (group.normalizedPath, group.matcherId)

private theorem registrations_eq_map_addresses (router : Router) : router.registrations =
    router.addresses.map fun address => (Source.matcherPath address.1, address.2) := by
  rw [registrations, addresses, List.map_map]
  rfl

/-- The entries of a router's source are its calls, with their paths as literals. -/
theorem map_matchers_ofRouter (types : TypeNames) (router : Router) :
    (Source.ofRouter types router).matchers.map (fun entry => (entry.path, entry.id)) =
      router.registrations.map fun call => (Source.literal call.1, call.2) := by
  rw [Source.ofRouter, registrations, List.map_map, List.map_map]
  rfl

section Groups

variable {settings : Settings} {manifest : Manifest} {router : Router}
  (made : router ∈ (processManifest settings manifest).2.routers) {group other : RouteGroup}
  (grouped : group ∈ router.groups)
include made grouped

private theorem exists_bucket : ∃ bucket ∈ (processManifest settings manifest).1.registry.buckets,
    bucket.id = group.matcherId ∧ bucket.address = (router.authority, group.normalizedPath) := by
  obtain ⟨route, routed⟩ := List.exists_mem_of_ne_nil _ (routes_ne_nil made grouped)
  obtain ⟨admission, _, _, address, rfl⟩ := exists_admission made grouped routed
  have settled := Round.settled_ofManifest settings manifest
  obtain ⟨accepted, member, rfl⟩ := List.mem_map.mp made
  obtain ⟨bucket, inside, _, rfl⟩ := (Round.mem_groupsOf accepted _).mp grouped
  have home := settled.address_of_mem_routesOf member inside routed
  exact ⟨bucket, inside, rfl, home.symm.trans address⟩

section Other

variable (otherGrouped : other ∈ router.groups)
include otherGrouped

/-- The groups of a router have different paths, since they have one authority. -/
theorem matcherId_eq_of_normalizedPath (same : group.normalizedPath = other.normalizedPath) :
    group.matcherId = other.matcherId := by
  have settled := Round.settled_ofManifest settings manifest
  obtain ⟨bucket, inside, id, home⟩ := exists_bucket made grouped
  obtain ⟨otherBucket, otherInside, otherId, otherHome⟩ := exists_bucket made otherGrouped
  rw [same, ← otherHome] at home
  rw [← id, ← otherId, settled.represents.wellFormed.eq_of_address inside otherInside home]

end Other

section Warnings

variable (visible : settings.output.wildcard ≠ "") (whole : '/' ∉ settings.output.wildcard.toList)
include visible whole

/-- If a group is registered under another path than its own, all of its handlers were warned
about. -/
theorem warnsOf_of_matcherPath_ne
    (other : "/" ++ Source.matcherPath group.normalizedPath ≠ group.normalizedPath) :
    router.WarnsOf (processManifest settings manifest).1.reporter.diagnostics group := by
  intro route routed
  obtain ⟨admission, admitted, className, address, rfl⟩ := exists_admission made grouped routed
  have path : admission.model.normalizedPath = group.normalizedPath := congrArg Prod.snd address
  obtain ⟨_, built, _, _⟩ := Candidate.offer?_eq_some_iff.mp (mem_admissionsAfter admitted).2
  rw [← path, ← Model.hasEmptySegment_iff visible whole built] at other
  apply Round.notices_subset admitted
  rw [Admission.notices, Round.segmentWarnings, if_pos other, Route.segmentWarning, ← className]
  exact List.mem_append_left _ (List.mem_append_left _ List.mem_cons_self)

variable (otherGrouped : other ∈ router.groups)
  (same : (Source.matcherEntry group).path = (Source.matcherEntry other).path)
include otherGrouped same

/-- Of two groups with one registered path, one has had all of its handlers warned about. -/
theorem warnsOf_or_warnsOf (apart : group.matcherId ≠ other.matcherId) :
    router.WarnsOf (processManifest settings manifest).1.reporter.diagnostics group ∨
      router.WarnsOf (processManifest settings manifest).1.reporter.diagnostics other := by
  rw [Source.path_matcherEntry_eq_iff, ← Source.matcherPath_eq_iff] at same
  -- A group with a path as it stands was not warned about, but then the other one has another path.
  by_cases plain : "/" ++ Source.matcherPath group.normalizedPath = group.normalizedPath
  · refine .inr (warnsOf_of_matcherPath_ne made otherGrouped visible whole ?_)
    intro otherPlain
    rw [← same, plain] at otherPlain
    exact apart (matcherId_eq_of_normalizedPath made grouped otherGrouped otherPlain)
  · exact .inl (warnsOf_of_matcherPath_ne made grouped visible whole plain)

private theorem matcherId_eq_of_isQuiet
    (quiet : router.IsQuiet (processManifest settings manifest).1.reporter.diagnostics) :
    group.matcherId = other.matcherId := by
  have silent {group : RouteGroup} (grouped : group ∈ router.groups) :
      ¬ router.WarnsOf (processManifest settings manifest).1.reporter.diagnostics group := by
    intro all
    obtain ⟨route, routed⟩ := List.exists_mem_of_ne_nil _ (routes_ne_nil made grouped)
    exact quiet route (List.mem_flatMap.mpr ⟨group, grouped, routed⟩) (all route routed)
  by_contra apart
  rcases warnsOf_or_warnsOf made grouped visible whole otherGrouped same apart with all | all
  · exact silent grouped all
  · exact silent otherGrouped all

omit grouped otherGrouped same in
/-- A router without warnings registers no path twice. -/
theorem map_path_registrations_nodup
    (quiet : router.IsQuiet (processManifest settings manifest).1.reporter.diagnostics) :
    (router.registrations.map (·.1)).Nodup := by
  have ids := map_matcherId_groups_nodup made
  rw [registrations, List.map_map]
  refine List.Nodup.map_on ?_ (List.Nodup.of_map _ ids)
  intro group grouped other otherGrouped same
  exact List.inj_on_of_nodup_map ids grouped otherGrouped
    (matcherId_eq_of_isQuiet made grouped visible whole otherGrouped (Source.literal_inj.mpr same)
      quiet)

end Warnings

end Groups

section Matching

variable {settings : Settings} {manifest : Manifest} {router : Router}
  (made : router ∈ (processManifest settings manifest).2.routers)
include made

/-- The groups of a router have rising matcher ids. -/
theorem groups_rise : router.groups.Pairwise (·.matcherId < ·.matcherId) := by
  obtain ⟨accepted, _, rfl⟩ := List.mem_map.mp made
  exact (Round.settled_ofManifest settings manifest).groupsOf_rises accepted

/-- What a router registers can be registered as it stands. -/
theorem isRegistrable_registrations :
    ∀ call ∈ router.registrations, Source.IsRegistrable call.1 := by
  intro call registered
  obtain ⟨group, grouped, rfl⟩ := List.mem_map.mp registered
  obtain ⟨route, routed⟩ := List.exists_mem_of_ne_nil _ (routes_ne_nil made grouped)
  obtain ⟨admission, admitted, _, address, rfl⟩ := exists_admission made grouped routed
  have path : admission.model.normalizedPath = group.normalizedPath := congrArg Prod.snd address
  obtain ⟨_, built, _, _⟩ := Candidate.offer?_eq_some_iff.mp (mem_admissionsAfter admitted).2
  have allowed := Source.allowed_matcherPath (Model.allowed_of_build built)
  rw [path] at allowed
  refine ⟨(Source.matcherPath_eq_iff _ _).mpr (Source.filledSegments_matcherPath _), ?_⟩
  exact fun inside => absurd (allowed _ inside) (by decide)

variable (matcher : Source.UriMatcher) {group : RouteGroup} (grouped : group ∈ router.groups)
include grouped

/-- An id is never returned if a later id is registered under the same path. -/
theorem code_ne_of_later {other : RouteGroup} (otherGrouped : other ∈ router.groups)
    (same : (Source.matcherEntry group).path = (Source.matcherEntry other).path)
    (later : group.matcherId < other.matcherId) {request : List String} (whole : "" ∉ request) :
    matcher.code? router.registrations request ≠ some group.matcherId := by
  have registrable := isRegistrable_registrations made
  have ids := map_matcherId_groups_nodup made
  have rise := groups_rise made
  rw [registrations] at registrable ⊢
  obtain ⟨before, after, cut⟩ := List.append_of_mem grouped
  rw [cut] at rise ids otherGrouped registrable ⊢
  -- Ids rise along the calls, so a later id is registered by a later call.
  have behind : other ∈ after := by
    rcases List.mem_append.mp otherGrouped with earlier | here
    · have order := (List.pairwise_append.mp rise).2.2 other earlier group List.mem_cons_self
      exact absurd order (Nat.lt_asymm later)
    · exact (List.mem_cons.mp here).resolve_left fun equal =>
        Nat.lt_irrefl _ (equal ▸ later)
  rw [List.map_append, List.map_cons] at registrable ⊢
  refine matcher.code_ne_of_overridden registrable whole ?_ ?_
  · rw [List.map_map]
    exact List.mem_map.mpr ⟨other, behind, (Source.literal_inj.mp same).symm⟩
  · simpa [Function.comp_def] using ids

/-- An id is returned for some request if its path has a segment, no other id has its path and no
path of an earlier id rivals it. -/
theorem exists_request (distinct : (router.registrations.map (·.1)).Nodup)
    (deep : Source.filledSegments group.normalizedPath ≠ [])
    (free : ∀ other ∈ router.groups, other.matcherId < group.matcherId →
      ¬ Source.Rivals (Source.filledSegments other.normalizedPath)
        (Source.filledSegments group.normalizedPath)) :
    ∃ request, "" ∉ request ∧
      matcher.code? router.registrations request = some group.matcherId := by
  have registrable := isRegistrable_registrations made
  have rise := groups_rise made
  rw [registrations] at registrable distinct ⊢
  obtain ⟨before, after, cut⟩ := List.append_of_mem grouped
  rw [cut] at rise free registrable distinct ⊢
  rw [List.map_append, List.map_cons] at registrable distinct ⊢
  refine matcher.exists_request_of_not_rivals registrable ?_ ?_ ?_
  · rw [List.map_append, List.map_cons] at distinct
    exact (List.nodup_cons.mp (List.nodup_append.mp distinct).2.1).1
  · rwa [Source.filledSegments_matcherPath]
  · intro call earlier
    obtain ⟨other, member, rfl⟩ := List.mem_map.mp earlier
    have order := (List.pairwise_append.mp rise).2.2 other member group List.mem_cons_self
    rw [Source.filledSegments_matcherPath, Source.filledSegments_matcherPath]
    exact free other (List.mem_append_left _ member) order

end Matching

/-- **The law of registered paths** for a router of the round over a manifest, before any URI
matcher. -/
structure MatcherPathLaw (matcher : Source.UriMatcher) (types : TypeNames)
    (diagnostics : List Diagnostic) (router : Router) : Prop where
  /-- Two ids have the same path exactly if their normalized paths have the same segments with
  text. -/
  path_eq_iff : ∀ group ∈ router.groups, ∀ other ∈ router.groups,
    (Source.matcherEntry group).path = (Source.matcherEntry other).path ↔
      Source.filledSegments group.normalizedPath = Source.filledSegments other.normalizedPath
  /-- If they are two ids, all handlers of one of them were warned about. -/
  warned : ∀ group ∈ router.groups, ∀ other ∈ router.groups,
    (Source.matcherEntry group).path = (Source.matcherEntry other).path →
      group.matcherId ≠ other.matcherId →
        router.WarnsOf diagnostics group ∨ router.WarnsOf diagnostics other
  /-- Without such warnings no path is registered twice. -/
  distinct : router.IsQuiet diagnostics →
    ((Source.ofRouter types router).matchers.map (·.path)).Nodup
  /-- The entries of the source are the calls, with their paths as literals. -/
  calls : (Source.ofRouter types router).matchers.map (fun entry => (entry.path, entry.id)) =
    router.registrations.map fun call => (Source.literal call.1, call.2)
  /-- The earlier one of two ids with the same path is never returned. -/
  overridden : ∀ group ∈ router.groups, ∀ other ∈ router.groups,
    (Source.matcherEntry group).path = (Source.matcherEntry other).path →
      group.matcherId < other.matcherId → ∀ request, "" ∉ request →
        matcher.code? router.registrations request ≠ some group.matcherId
  /-- Without such warnings an id is returned for some request if its path has a segment and no path
  of an earlier id has an asterisk where its own has a text. -/
  returned : router.IsQuiet diagnostics → ∀ group ∈ router.groups,
    Source.filledSegments group.normalizedPath ≠ [] →
      (∀ other ∈ router.groups, other.matcherId < group.matcherId →
        ¬ Source.Rivals (Source.filledSegments other.normalizedPath)
          (Source.filledSegments group.normalizedPath)) →
      ∃ request, "" ∉ request ∧
        matcher.code? router.registrations request = some group.matcherId

/-- **Under which paths a router registers its ids**, for every manifest and every URI matcher. Two
ids have one path only if their normalized paths differ in empty segments, and then all handlers of
one of them were warned about and the earlier one is never returned. In a router without such
warnings every id has a path of its own, and it is returned for some request unless its path has no
segment or an earlier path takes all of its requests away. -/
theorem matcherPath_law (matcher : Source.UriMatcher) (manifest : Manifest) (router : Router)
    (member : router ∈ (processManifest {} manifest).2.routers) (types : TypeNames) :
    MatcherPathLaw matcher types (processManifest {} manifest).1.reporter.diagnostics router := by
  have visible : (({} : Settings).output.wildcard) ≠ "" := by decide
  have whole : '/' ∉ ({} : Settings).output.wildcard.toList := by decide
  have calls := map_matchers_ofRouter types router
  exact {
    path_eq_iff := fun group _ other _ => Source.path_matcherEntry_eq_iff group other
    warned := fun _ grouped _ => warnsOf_or_warnsOf member grouped visible whole
    distinct := by
      intro quiet
      have paths := congrArg (List.map Prod.fst) calls
      rw [List.map_map, List.map_map] at paths
      have literals := (map_path_registrations_nodup member visible whole quiet).map
        fun _ _ => Source.literal_inj.mp
      rw [List.map_map] at literals
      exact paths ▸ literals
    calls
    overridden := fun _ grouped _ otherGrouped same later _ =>
      code_ne_of_later member matcher grouped otherGrouped same later
    returned := fun quiet _ grouped => exists_request member matcher grouped
      (map_path_registrations_nodup member visible whole quiet) }

/-- Of two providers the one has no empty segments, and the other has two ids under one path. A
matcher that never comes back does not find the first and the last id of the first one: no request
has an empty segment, and the id before the last one is found in its place. -/
theorem matcherPath_law_of_two :
    let handler (name template : String) : Method := { name, operation := .query, template }
    let plain : Provider :=
      { className := "P", authority := "a",
        methods := [handler "root" "/", handler "any" "/a/\x7bx\x7d", handler "one" "/a/b"] }
    let doubled : Provider :=
      { className := "Q", authority := "b",
        methods := [handler "plain" "/a/b", handler "doubled" "/a//b"] }
    let made : Round × RouterModel := processManifest {} ⟨[plain, doubled]⟩
    ∃ first second, made.2.routers = [first, second] ∧
      first.IsQuiet made.1.reporter.diagnostics ∧
      first.registrations = [("", 1), ("a/*", 2), ("a/b", 3)] ∧
      second.registrations = [("a/b", 4), ("a/b", 5)] ∧
      MatcherPathLaw Source.firstTokenMatcher {} made.1.reporter.diagnostics first ∧
      MatcherPathLaw Source.firstTokenMatcher {} made.1.reporter.diagnostics second ∧
      (∃ request, "" ∉ request ∧
        Source.firstTokenMatcher.code? first.registrations request = some 2) ∧
      ∀ request, "" ∉ request → ∀ id ∈ [1, 3],
        Source.firstTokenMatcher.code? first.registrations request ≠ some id := by
  intro handler plain doubled made
  have routers : made.2.routers.map (fun router =>
      (router.routes.all (fun route => route.segmentWarning router ∉ made.1.reporter.diagnostics),
        router.addresses)) =
      [(true, [("/", 1), ("/a/*", 2), ("/a/b", 3)]), (false, [("/a/b", 4), ("/a//b", 5)])] := by
    decide +kernel
  obtain ⟨first, rest, routers, one, others⟩ := List.map_eq_cons_iff.mp routers
  obtain ⟨second, rfl, two⟩ := List.map_eq_singleton_iff.mp others
  obtain ⟨quiet, groups⟩ := Prod.mk.inj one
  obtain ⟨_, otherGroups⟩ := Prod.mk.inj two
  simp only [List.all_eq_true, decide_eq_true_eq] at quiet
  have calls : first.registrations = [("", 1), ("a/*", 2), ("a/b", 3)] := by
    rw [registrations_eq_map_addresses, groups]
    decide +kernel
  have otherCalls : second.registrations = [("a/b", 4), ("a/b", 5)] := by
    rw [registrations_eq_map_addresses, otherGroups]
    decide +kernel
  have law := matcherPath_law Source.firstTokenMatcher ⟨[plain, doubled]⟩ first
    (routers ▸ List.mem_cons_self) {}
  have otherLaw := matcherPath_law Source.firstTokenMatcher ⟨[plain, doubled]⟩ second
    (routers ▸ List.mem_cons_of_mem first List.mem_cons_self) {}
  refine ⟨first, second, routers, quiet, calls, otherCalls, law, otherLaw, ?_, ?_⟩
  · have listed : ("/a/*", 2) ∈ first.addresses := by
      rw [groups]
      decide
    obtain ⟨any, grouped, same⟩ := List.mem_map.mp listed
    obtain ⟨path, id⟩ := Prod.mk.inj same
    have found := law.returned quiet any grouped
    rw [path, id] at found
    have free : ∀ address ∈ first.addresses, address.2 < 2 →
        ¬ Source.Rivals (Source.filledSegments address.1) (Source.filledSegments "/a/*") := by
      rw [groups]
      decide +kernel
    exact found (by decide) fun other otherGrouped => free _ (List.mem_map_of_mem otherGrouped)
  · intro request whole id listed found
    rw [calls] at found
    obtain ⟨call, registered, rfl, fits⟩ := Source.exists_fits_of_firstTokenMatcher found
    simp only [List.mem_cons, List.not_mem_nil, or_false] at registered
    rcases registered with rfl | rfl | rfl
    · obtain rfl := Source.eq_of_fits (by decide) fits
      exact whole (by decide)
    · revert listed
      decide
    · obtain rfl := Source.eq_of_fits (by decide) fits
      revert found
      decide

/-- **Two ids can have one path**, if they differ in an empty segment. No URI matcher returns the
earlier one of them. -/
theorem exists_path_twice :
    let plain : Method := { name := "plain", operation := .query, template := "/a/b" }
    let doubled : Method := { name := "doubled", operation := .query, template := "/a//b" }
    let manifest : Manifest :=
      ⟨[{ className := "P", authority := "a", methods := [plain, doubled] }]⟩
    ∃ router ∈ (processManifest {} manifest).2.routers, ∃ first second,
      (Source.ofRouter {} router).matchers = [first, second] ∧ first.id ≠ second.id ∧
        first.path = second.path ∧
        ∀ matcher : Source.UriMatcher, ∀ request, "" ∉ request →
          matcher.code? router.registrations request ≠ some first.id := by
  intro plain doubled manifest
  have made : (processManifest {} manifest).2.routers.map addresses =
      [[("/a/b", 1), ("/a//b", 2)]] := by
    decide +kernel
  obtain ⟨router, routers, both⟩ := List.map_eq_singleton_iff.mp made
  obtain ⟨first, rest, groups, one, others⟩ := List.map_eq_cons_iff.mp both
  obtain ⟨second, rfl, two⟩ := List.map_eq_singleton_iff.mp others
  obtain ⟨firstPath, firstId⟩ := Prod.mk.inj one
  obtain ⟨secondPath, secondId⟩ := Prod.mk.inj two
  have member : router ∈ (processManifest {} manifest).2.routers := by simp [routers]
  have same : (Source.matcherEntry first).path = (Source.matcherEntry second).path := by
    rw [Source.path_matcherEntry_eq_iff, firstPath, secondPath]
    decide
  refine ⟨router, member, Source.matcherEntry first, Source.matcherEntry second, ?_, ?_, same, ?_⟩
  · rw [Source.ofRouter, groups]
    rfl
  · change first.matcherId ≠ second.matcherId
    rw [firstId, secondId]
    decide
  · intro matcher request whole
    refine code_ne_of_later member matcher ?_ ?_ same ?_ whole
    · simp [groups]
    · simp [groups]
    · rw [firstId, secondId]
      decide

end Router

end ContentRouter
