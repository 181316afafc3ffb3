import ContentRouter.Proofs.Round.Authority
import ContentRouter.Proofs.Round.Image
import ContentRouter.Proofs.Round.Kept
import ContentRouter.Proofs.Routing.Renaming

/-!
# Authorities do not interfere

The round over the declarations under an authority is the part under it of the round over the whole
manifest. The addresses under the authority come in the same order, so that one strictly increasing
renaming leads from the ids of the part to those of the whole
(`Registry.Represents.exists_renaming`). Buckets have what was admitted at their address, and that
is the same. Delegates and routes follow the buckets, so that the accepted providers and the routers
are renamed alike (`authority_law`).
-/

namespace ContentRouter

/-- The part of a manifest under an authority. -/
def Manifest.under (authority : String) (manifest : Manifest) : Manifest where
  providers := manifest.providers.filter (·.authority = authority)

/-- The buckets of a registry under an authority, in their order. -/
def Registry.bucketsUnder (authority : String) (registry : Registry) : List Bucket :=
  registry.buckets.filter (·.authority = authority)

/-- The accepted provider with the ids of its delegates renamed. -/
def AcceptedProvider.mapId (name : MatcherId → MatcherId) (accepted : AcceptedProvider) :
    AcceptedProvider :=
  { accepted with delegates := accepted.delegates.map (·.mapId name) }

namespace Registry.Represents

variable {registry other : Registry} {admitted : List Admission} {authority : String}
  (whole : registry.Represents admitted)
  (part : other.Represents (admitted.filter (·.model.authority = authority)))
include whole part

private theorem map_address_bucketsUnder :
    (registry.bucketsUnder authority).map Bucket.address = other.buckets.map Bucket.address := by
  have own : (admitted.filter (·.model.authority = authority)).map (·.model.address) =
      (admitted.map (·.model.address)).filter (·.1 = authority) := by
    rw [List.filter_map]
    rfl
  rw [part.map_address_buckets, own, eraseDups_filter, ← whole.map_address_buckets,
    List.filter_map]
  rfl

/-- The labels under an authority are those of its part with the ids renamed. -/
theorem exists_strictMono_label :
    ∃ name : MatcherId → MatcherId, StrictMono name ∧
      (registry.bucketsUnder authority).map Bucket.label =
        other.buckets.map fun bucket => (name bucket.id, bucket.address) := by
  have inside : ((registry.bucketsUnder authority).map (·.id)).Sublist
      (registry.buckets.map (·.id)) := List.filter_sublist.map _
  have positive : ∀ id ∈ (registry.bucketsUnder authority).map (·.id), 0 < id := by
    intro id member
    have counted := inside.subset member
    rw [whole.wellFormed.ids, List.mem_range'_1] at counted
    exact counted.1
  obtain ⟨name, increasing, values⟩ :=
    exists_strictMono_map_range' (whole.wellFormed.ids_rise.sublist inside) positive
  have addresses := whole.map_address_bucketsUnder part
  -- The ids of the part run from one on, and there are as many of them.
  have lengths := congrArg List.length addresses
  rw [List.length_map, List.length_map, part.wellFormed.length_buckets] at lengths
  rw [List.length_map, lengths, ← part.wellFormed.ids, List.map_map] at values
  have labels := congrArg₂ List.zip values addresses.symm
  rw [List.zip_map', List.zip_map'] at labels
  exact ⟨name, increasing, labels.symm⟩

variable (unmarked : ∀ admission ∈ admitted, admission.model.matcherId = none)
include unmarked

/-- A bucket has the entries of the part's bucket at its address, with their ids renamed. -/
theorem entries_eq_map {name : MatcherId → MatcherId} {bucket origin : Bucket}
    (inside : bucket ∈ registry.bucketsUnder authority) (member : origin ∈ other.buckets)
    (label : bucket.label = (name origin.id, origin.address)) :
    bucket.entries = origin.entries.map (·.mapId name) := by
  obtain ⟨listed, own⟩ := List.mem_filter.mp inside
  obtain ⟨id, address⟩ := Prod.mk.inj label
  have here : (admitted.filter (·.model.authority = authority)).filter
        (·.model.address = origin.address) =
      admitted.filter (·.model.address = origin.address) := by
    -- An address of the part is one under the authority.
    apply filter_filter_of_imp
    intro admission _ same
    have addresses := (of_decide_eq_true same).trans address.symm
    exact decide_eq_true ((congrArg Prod.fst addresses).trans (of_decide_eq_true own))
  rw [whole.entries_eq listed, part.entries_eq member, here, address, id,
    ← Bucket.inOrder_map_mapId, List.map_map]
  refine congrArg Bucket.inOrder (List.map_congr_left ?_)
  intro admission kept
  rw [Function.comp_apply, Registration.mapId,
    Model.mapId_withMatcherId name (unmarked admission (List.mem_filter.mp kept).1)]

/-- **The buckets under an authority** are those of its part under one strictly increasing renaming
of the ids, with the same entries in the same order. -/
theorem exists_renaming :
    ∃ name : MatcherId → MatcherId, StrictMono name ∧
      registry.bucketsUnder authority = other.buckets.map (·.mapId name) := by
  obtain ⟨name, increasing, labels⟩ := whole.exists_strictMono_label part
  refine ⟨name, increasing, eq_map_of_keys _ _ labels ?_⟩
  intro bucket inside origin member label
  exact Bucket.eq_mapId name label (whole.entries_eq_map part unmarked inside member label)

omit unmarked

variable {name : MatcherId → MatcherId}
  (buckets : registry.bucketsUnder authority = other.buckets.map (·.mapId name))
include buckets

/-- The id of an address of the part is renamed as its bucket is. -/
theorem idFor_of_renaming {admission : Admission}
    (listed : admission ∈ admitted.filter (·.model.authority = authority)) :
    registry.idFor admission.model = name (other.idFor admission.model) := by
  obtain ⟨bucket, member, id, address⟩ := Registry.mem_labels.mp (part.label_mem listed)
  have renamed := List.mem_map_of_mem (f := (·.mapId name)) member
  rw [← buckets] at renamed
  rw [← id]
  exact whole.wellFormed.idFor_eq (List.mem_filter.mp renamed).1 address

private theorem map_delegate_of_renaming {admissions : List Admission}
    (inside : admissions ⊆ admitted.filter (·.model.authority = authority)) :
    admissions.map (·.delegate registry) =
      (admissions.map (·.delegate other)).map (·.mapId name) := by
  rw [List.map_map]
  apply List.map_congr_left
  intro admission member
  rw [Admission.delegate, whole.idFor_of_renaming part buckets (inside member)]
  rfl

end Registry.Represents

namespace Round

section Renaming

variable (name : MatcherId → MatcherId)

private theorem routesOf_mapId (accepted : AcceptedProvider) (bucket : Bucket) :
    routesOf (accepted.mapId name) (bucket.mapId name) =
      (routesOf accepted bucket).map (·.mapId name) := by
  rw [routesOf, routesOf, Bucket.mapId, List.filter_map, List.filterMap_map, List.map_filterMap]
  apply List.filterMap_congr
  intro entry _
  rw [Function.comp_apply, AcceptedProvider.mapId, List.find?_map, Option.map_map, Option.map_map]
  rfl

private theorem groupsOf_mapId (accepted : AcceptedProvider) (lastId : MatcherId)
    (registry : Registry) :
    groupsOf (accepted.mapId name) ⟨lastId, registry.buckets.map (·.mapId name)⟩ =
      (groupsOf accepted registry).map (·.mapId name) := by
  rw [groupsOf, groupsOf, List.filterMap_map, List.map_filterMap]
  apply List.filterMap_congr
  intro bucket _
  rw [Function.comp_apply, routesOf_mapId]
  dsimp only
  rw [List.isEmpty_map]
  split <;> rfl

end Renaming

section Parts

variable {settings : Settings} {providers : List Provider} {round other : Round}
  {authority : String} (whole : Settled settings providers round)

section Groups

include whole

private theorem Settled.routesOf_eq_nil {accepted : AcceptedProvider}
    (member : accepted ∈ round.accepted)
    {bucket : Bucket} (inside : bucket ∈ round.registry.buckets)
    (apart : bucket.authority ≠ accepted.provider.authority) : routesOf accepted bucket = [] := by
  apply List.eq_nil_iff_forall_not_mem.mpr
  intro route routed
  obtain ⟨admission, admitted, provider, entered, _⟩ :=
    whole.exists_admission_of_route member inside routed
  have address := whole.represents.wellFormed.homed bucket inside _ entered
  have own := authority_of_mem_admissionsAfter admitted
  rw [provider] at own
  exact apart ((congrArg Prod.fst address).symm.trans own)

/-- The groups of a provider come from the buckets of its authority. -/
theorem Settled.groupsOf_bucketsUnder {accepted : AcceptedProvider}
    (member : accepted ∈ round.accepted) :
    groupsOf accepted round.registry =
      groupsOf accepted ⟨round.registry.lastId,
        round.registry.bucketsUnder accepted.provider.authority⟩ := by
  rw [groupsOf, groupsOf, Registry.bucketsUnder, List.filterMap_filter]
  apply List.filterMap_congr
  intro bucket inside
  by_cases own : bucket.authority = accepted.provider.authority
  · rw [if_pos (decide_eq_true own)]
  · rw [whole.routesOf_eq_nil member inside own]
    simp [own]

end Groups

variable (part : Settled settings (providers.filter (·.authority = authority)) other)
  (distinct : (providers.map (·.className)).Nodup)
include whole part distinct

/-- **The handlers under an authority** are accepted in the part as in the whole. -/
theorem Settled.handlers_under :
    other.handlers = round.handlers.filter fun handler =>
      handler.className ∈ (providers.filter (·.authority = authority)).map (·.className) := by
  rw [part.handlers_eq, whole.handlers_eq, admissions_under distinct, List.filter_map]
  refine congrArg (List.map Admission.handler) (List.filter_congr ?_)
  intro admission admitted
  have declared := (effective_sublist providers).subset (provider_mem_of_mem_admissions admitted)
  rw [Function.comp_apply, decide_eq_decide, authority_of_mem_admissionsAfter admitted,
    List.mem_map]
  constructor
  · intro own
    exact ⟨_, List.mem_filter.mpr ⟨declared, decide_eq_true own⟩, rfl⟩
  · rintro ⟨provider, kept, same⟩
    obtain ⟨listed, own⟩ := List.mem_filter.mp kept
    rw [← List.inj_on_of_nodup_map distinct listed declared same]
    exact of_decide_eq_true own

private theorem Settled.exists_renaming :
    ∃ name : MatcherId → MatcherId, StrictMono name ∧
      round.registry.bucketsUnder authority = other.registry.buckets.map (·.mapId name) :=
  whole.represents.exists_renaming (part.represents_under distinct) fun _ admitted =>
    Candidate.matcherId_of_offer? (mem_admissionsAfter admitted).2

section Renamed

variable {name : MatcherId → MatcherId}
  (buckets : round.registry.bucketsUnder authority = other.registry.buckets.map (·.mapId name))
include buckets

private theorem Settled.acceptedOf_under {provider : Provider}
    (own : provider.authority = authority) :
    acceptedOf (admissions settings (candidates settings providers)) round.registry provider =
      (acceptedOf (admissions settings (candidates settings
        (providers.filter (·.authority = authority)))) other.registry provider).map
          (·.mapId name) := by
  have kept : ((admissions settings (candidates settings providers)).filter
        (·.model.authority = authority)).filter (·.candidate.provider = provider) =
      (admissions settings (candidates settings providers)).filter
        (·.candidate.provider = provider) := by
    apply filter_filter_of_imp
    intro admission admitted provided
    rw [authority_of_mem_admissionsAfter admitted, of_decide_eq_true provided]
    exact decide_eq_true own
  have delegates := whole.represents.map_delegate_of_renaming (part.represents_under distinct)
    buckets (kept ▸ List.filter_subset_self _)
  unfold acceptedOf
  rw [admissions_under distinct, kept, delegates]
  dsimp only
  rw [List.isEmpty_map]
  split <;> rfl

/-- **The accepted providers under an authority** are those of its part with their ids renamed. -/
theorem Settled.accepted_under :
    round.accepted.filter (·.provider.authority = authority) =
      other.accepted.map (·.mapId name) := by
  rw [whole.accepted, part.accepted, effective_under distinct, List.filter_filterMap,
    List.filterMap_filter, List.map_filterMap]
  apply List.filterMap_congr
  intro provider _
  by_cases own : provider.authority = authority
  · rw [if_pos (decide_eq_true own), ← whole.acceptedOf_under part distinct buckets own]
    apply Option.ext
    intro accepted
    rw [Option.filter_eq_some_iff]
    refine and_iff_left_of_imp fun made => ?_
    rw [(acceptedOf_eq_some_iff.mp made).1]
    exact decide_eq_true own
  · rw [if_neg (by simpa using own), Option.map_none]
    apply Option.filter_eq_none_iff.mpr
    intro accepted made
    rw [(acceptedOf_eq_some_iff.mp made).1]
    simpa using own

/-- **The routers under an authority** are those of its part with their ids renamed. -/
theorem Settled.routers_under :
    (round.finish settings).routers.filter (·.authority = authority) =
      (other.finish settings).routers.map (·.mapId name) := by
  have accepted := whole.accepted_under part distinct buckets
  have own : (round.finish settings).routers.filter (·.authority = authority) =
      (round.accepted.filter (·.provider.authority = authority)).map
        (routerOf settings round.registry) := by
    rw [finish, List.filter_map]
    rfl
  rw [own, accepted, finish, List.map_map, List.map_map]
  apply List.map_congr_left
  intro origin listed
  have renamed := List.mem_map_of_mem (f := (·.mapId name)) listed
  rw [← accepted] at renamed
  obtain ⟨member, under⟩ := List.mem_filter.mp renamed
  have groups : groupsOf (origin.mapId name) round.registry =
      (groupsOf origin other.registry).map (·.mapId name) := by
    rw [whole.groupsOf_bucketsUnder member, of_decide_eq_true under, buckets, groupsOf_mapId]
  rw [Function.comp_apply, Function.comp_apply, routerOf, groups]
  rfl

end Renamed

end Parts

/-- **A round under an authority is the part of a round that is under it.** -/
structure AuthorityLaw (settings : Settings) (manifest : Manifest) (authority : String) : Prop where
  /-- Taking in a declaration under the authority records the same in both rounds, and all of it is
  about its class. -/
  recorded : ∀ earlier provider later, manifest.providers = earlier ++ provider :: later →
    provider.authority = authority →
      ∃ new : List Diagnostic,
        (∀ diagnostic ∈ new, diagnostic.element.className = provider.className) ∧
        (ofManifest settings ⟨earlier ++ [provider]⟩).reporter.diagnostics =
          (ofManifest settings ⟨earlier⟩).reporter.diagnostics ++ new ∧
        (ofManifest settings (.under authority ⟨earlier ++ [provider]⟩)).reporter.diagnostics =
          (ofManifest settings (.under authority ⟨earlier⟩)).reporter.diagnostics ++ new
  /-- The part records what the whole records about the classes of the part. -/
  diagnostics : (processManifest settings (manifest.under authority)).1.reporter.diagnostics =
    (processManifest settings manifest).1.reporter.diagnostics.filter
      (·.concerns (manifest.under authority).providers)
  /-- The part accepts the handlers that the whole accepts in the classes of the part. -/
  handlers : (processManifest settings (manifest.under authority)).1.handlers =
    (processManifest settings manifest).1.handlers.filter
      (·.className ∈ (manifest.under authority).providers.map (·.className))
  /-- One strictly increasing renaming of the ids leads from the buckets of the part to those of the
  whole under the authority, from its accepted providers to theirs, and from its routers to theirs,
  each in the same order. -/
  renamed : ∃ name : MatcherId → MatcherId, StrictMono name ∧
    (processManifest settings manifest).1.registry.bucketsUnder authority =
      (processManifest settings (manifest.under authority)).1.registry.buckets.map (·.mapId name) ∧
    (processManifest settings manifest).1.accepted.filter (·.provider.authority = authority) =
      (processManifest settings (manifest.under authority)).1.accepted.map (·.mapId name) ∧
    (processManifest settings manifest).2.routers.filter (·.authority = authority) =
      (processManifest settings (manifest.under authority)).2.routers.map (·.mapId name)

/-- **Authorities do not interfere**: for every manifest without repeated classes, all settings and
every authority. -/
theorem authority_law (settings : Settings) (manifest : Manifest) (authority : String)
    (distinct : (manifest.providers.map (·.className)).Nodup) :
    AuthorityLaw settings manifest authority := by
  have whole := settled_ofManifest settings manifest
  have part := settled_ofManifest settings (manifest.under authority)
  exact {
    recorded := by
      rintro earlier provider later split rfl
      have before : ((earlier ++ [provider]).map (·.className)).Nodup := by
        rw [split, List.append_cons] at distinct
        exact distinct.sublist ((List.sublist_append_left _ _).map _)
      have same := (settled_ofManifest settings ⟨earlier⟩).recordedOf_under before
        (settled_ofManifest settings (.under provider.authority ⟨earlier⟩))
      refine ⟨_, className_recordedOf settings (ofManifest settings ⟨earlier⟩) provider, ?_, ?_⟩
      · rw [ofManifest_append_singleton, diagnostics_processProvider]
      · rw [← same, Manifest.under, List.filter_append, List.filter_cons_of_pos (by simp),
          List.filter_nil, ofManifest_append_singleton, diagnostics_processProvider]
        rfl
    diagnostics := diagnostics_under distinct authority
    handlers := whole.handlers_under part distinct
    renamed := by
      obtain ⟨name, increasing, buckets⟩ := whole.exists_renaming part distinct
      exact ⟨name, increasing, buckets, whole.accepted_under part distinct buckets,
        whole.routers_under part distinct buckets⟩ }

/-- The ids of an authority are greater beside another one, with which it shares a path. -/
theorem authority_law_of_two :
    let query (name template : String) : Method := { name, operation := .query, template }
    let manifest : Manifest := ⟨[
      { className := "Books", authority := "b", methods := [query "list" "n", query "all" "x"] },
      { className := "Notes", authority := "a", methods := [query "list" "n", query "bad" "n?k"] },
      { className := "Shelf", authority := "b", methods := [query "again" "x"] },
      { className := "Tags", authority := "a", methods := [query "tags" "t", query "twice" "n"] }]⟩
    (manifest.providers.map (·.className)).Nodup ∧ AuthorityLaw {} manifest "a" ∧
      ((processManifest {} manifest).1.registry.bucketsUnder "a").map (·.id) = [3, 4] ∧
      (processManifest {} (manifest.under "a")).1.registry.buckets.map (·.id) = [1, 2] ∧
      (processManifest {} (manifest.under "a")).1.reporter.diagnostics.length = 2 := by
  intro query manifest
  have distinct : (manifest.providers.map (·.className)).Nodup := by decide
  exact ⟨distinct, authority_law {} manifest "a" distinct, by decide +kernel, by decide +kernel,
    by decide +kernel⟩

end Round

end ContentRouter
