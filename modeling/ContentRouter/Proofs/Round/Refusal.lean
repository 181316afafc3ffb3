import ContentRouter.Proofs.Round.Account
import ContentRouter.Proofs.Round.Image
import ContentRouter.Proofs.Round.Kept
import ContentRouter.Proofs.Routing.Renumbering

/-!
# What is refused leaves no trace

A round over the kept manifest comes to what the round over the whole manifest has come to: the same
registry, the same accepted providers and the same router model, with every handler under its rank.
Nothing is refused any more, and what is recorded are the warnings about the accepted handlers
(`Round.refusal_law`).

Both rounds are settled, so that each is given by what it admits, and that is the same
(`Round.admissions_kept`).
-/

namespace ContentRouter

/-- The accepted provider of a kept declaration. -/
def AcceptedProvider.kept (round : Round) (accepted : AcceptedProvider) : AcceptedProvider where
  provider := accepted.provider.kept round
  delegates := accepted.delegates.map (·.renumber round.rank)

private theorem Admission.delegate_kept (round : Round) (admission : Admission)
    (registry : Registry) :
    (admission.kept round).delegate (registry.renumber round.rank) =
      (admission.delegate registry).renumber round.rank := by
  rw [delegate, Registry.idFor_renumber]
  rfl

namespace Round

section Ranks

private theorem mem_handlersOf_iff {round : Round} {className : String} {handler : Handler} :
    handler ∈ round.handlersOf className ↔
      round.HasDelegate handler ∧ handler.className = className := by
  simp only [handlersOf, handlers, List.mem_filter, List.mem_flatMap, List.mem_map,
    decide_eq_true_eq, HasDelegate]

variable {settings : Settings} {providers : List Provider} {round : Round}
  (settled : Settled settings providers round)
include settled

/-- The delegates of a declaration have rising ordinals. -/
theorem Settled.handlersOf_rises {provider : Provider}
    (counts : provider ∈ effective settings providers) :
    (round.handlersOf provider.className).Pairwise (·.ordinal < ·.ordinal) := by
  have ordinals := provider.map_ordinal_candidates 0 provider.methods
  have rising : (List.range' 0 provider.methods.length).Pairwise (· < ·) := List.pairwise_lt_range'
  rw [← ordinals, List.pairwise_map] at rising
  rw [settled.handlersOf_eq counts, List.pairwise_map]
  exact rising.filter _

/-- **Ranks keep the order of ordinals.** -/
theorem Settled.rank_lt_rank_iff {handler other : Handler} (delegated : round.HasDelegate handler)
    (otherDelegated : round.HasDelegate other) (same : handler.className = other.className) :
    round.rank handler < round.rank other ↔ handler.ordinal < other.ordinal := by
  obtain ⟨admission, admitted, rfl⟩ :=
    List.mem_map.mp ((settled.hasDelegate_iff handler).mp delegated)
  rw [rank, rank, ← same]
  exact idxOf_lt_idxOf_iff (settled.handlersOf_rises (provider_mem_of_mem_admissions admitted))
    (mem_handlersOf_iff.mpr ⟨delegated, rfl⟩) (mem_handlersOf_iff.mpr ⟨otherDelegated, same.symm⟩)

omit settled in
/-- No two delegates of a class have the same rank. -/
theorem eq_of_rank_eq {handler other : Handler} (delegated : round.HasDelegate handler)
    (same : handler.className = other.className) (ranks : round.rank handler = round.rank other) :
    handler = other := by
  rw [rank, rank, ← same] at ranks
  exact (List.idxOf_inj (mem_handlersOf_iff.mpr ⟨delegated, rfl⟩)).mp ranks

end Ranks

section Routers

variable {settings : Settings} {providers : List Provider} {round : Round}
  (settled : Settled settings providers round)
include settled

omit settled in
/-- What is accepted of a kept declaration is what was accepted of the declaration. -/
theorem acceptedOf_kept {provider : Provider}
    (counts : provider ∈ effective settings providers) :
    acceptedOf ((admissions settings (candidates settings providers)).map (·.kept round))
        (round.registry.renumber round.rank) (provider.kept round) =
      (acceptedOf (admissions settings (candidates settings providers)) round.registry
        provider).map (·.kept round) := by
  have own : ((admissions settings (candidates settings providers)).map (·.kept round)).filter
        (·.candidate.provider = provider.kept round) =
      ((admissions settings (candidates settings providers)).filter
        (·.candidate.provider = provider)).map (·.kept round) := by
    rw [List.filter_map]
    refine congrArg (List.map _) (List.filter_congr ?_)
    intro admission admitted
    rw [Function.comp_apply, decide_eq_decide]
    constructor
    · intro same
      have names := congrArg Provider.className same
      exact provider_eq_of_className_eq admitted counts names
    · exact congrArg (Provider.kept round)
  have delegates : (((admissions settings (candidates settings providers)).filter
        (·.candidate.provider = provider)).map (·.kept round)).map
          (·.delegate (round.registry.renumber round.rank)) =
      (((admissions settings (candidates settings providers)).filter
        (·.candidate.provider = provider)).map (·.delegate round.registry)).map
          (·.renumber round.rank) := by
    rw [List.map_map, List.map_map]
    apply List.map_congr_left
    intro admission _
    exact admission.delegate_kept round round.registry
  rw [acceptedOf, acceptedOf, own, delegates, List.isEmpty_map]
  split <;> rfl

/-- A declaration that is left without handlers had nothing accepted. -/
theorem Settled.acceptedOf_eq_none {provider : Provider}
    (counts : provider ∈ effective settings providers)
    (none : (provider.kept round).methods = []) :
    acceptedOf (admissions settings (candidates settings providers)) round.registry provider =
      Option.none := by
  have methods : (provider.keptCandidates round).map (·.method) = [] := none
  rw [settled.keptCandidates_eq counts, List.map_eq_nil_iff, List.map_eq_nil_iff] at methods
  rw [acceptedOf, methods]
  rfl

private theorem Settled.map_rank_delegates_nodup {accepted : AcceptedProvider}
    (member : accepted ∈ round.accepted) :
    (accepted.delegates.map fun delegate => round.rank delegate.handler).Nodup := by
  have distinct := List.Nodup.of_map _ (settled.map_handler_delegates_nodup member)
  refine List.Nodup.map_on ?_ distinct
  intro delegate delegated other otherDelegated ranks
  have same := (settled.className_of_delegate member delegated).trans
    (settled.className_of_delegate member otherDelegated).symm
  exact List.inj_on_of_nodup_map (settled.map_handler_delegates_nodup member) delegated
    otherDelegated (eq_of_rank_eq ⟨accepted, member, delegate, delegated, rfl⟩ same ranks)

/-- The routes of a bucket lead to the renumbered delegates. -/
theorem Settled.routesOf_kept {accepted : AcceptedProvider} (member : accepted ∈ round.accepted)
    {bucket : Bucket} (inside : bucket ∈ round.registry.buckets) :
    routesOf (accepted.kept round) (bucket.renumber round.rank) =
      (routesOf accepted bucket).map (·.renumber round.rank) := by
  have entries : (bucket.renumber round.rank).entries.filter
        (·.owner.className == (accepted.kept round).provider.className) =
      (bucket.entries.filter (·.owner.className == accepted.provider.className)).map
        (·.renumber round.rank) := by
    rw [Bucket.renumber, List.filter_map]
    rfl
  rw [routesOf, routesOf, entries, List.filterMap_map, List.map_filterMap]
  apply List.filterMap_congr
  intro entry owned
  obtain ⟨listed, own⟩ := List.mem_filter.mp owned
  obtain ⟨delegate, found, handler⟩ := settled.find?_delegates member
    (Registry.mem_entries.mpr ⟨bucket, inside, listed⟩) (beq_iff_eq.mp own)
  -- The delegate that was found by its ordinal is found again by its rank.
  have again := (find?_key_eq_some_iff (fun delegate : Delegate => round.rank delegate.handler)
    (settled.map_rank_delegates_nodup member)).mpr
      ⟨List.mem_of_find?_eq_some found, congrArg round.rank handler⟩
  have search : (accepted.kept round).delegates.find?
        (·.handler.ordinal == (entry.renumber round.rank).owner.ordinal) =
      some (delegate.renumber round.rank) := by
    rw [AcceptedProvider.kept, List.find?_map]
    exact congrArg (Option.map _) again
  rw [Function.comp_apply, search, found]
  rfl

private theorem Settled.groupsOf_kept {accepted : AcceptedProvider}
    (member : accepted ∈ round.accepted) :
    groupsOf (accepted.kept round) (round.registry.renumber round.rank) =
      (groupsOf accepted round.registry).map (·.renumber round.rank) := by
  rw [groupsOf, groupsOf, Registry.renumber, List.filterMap_map, List.map_filterMap]
  apply List.filterMap_congr
  intro bucket inside
  rw [Function.comp_apply]
  dsimp only
  rw [settled.routesOf_kept member inside, List.isEmpty_map]
  split <;> rfl

private theorem Settled.routerOf_kept {accepted : AcceptedProvider}
    (member : accepted ∈ round.accepted) :
    routerOf settings (round.registry.renumber round.rank) (accepted.kept round) =
      (routerOf settings round.registry accepted).renumber round.rank := by
  rw [routerOf, settled.groupsOf_kept member]
  rfl

end Routers

section Rounds

variable (settings : Settings) (manifest : Manifest)

private theorem registry_kept :
    (ofManifest settings (manifest.kept settings)).registry =
      (ofManifest settings manifest).registry.renumber (ofManifest settings manifest).rank := by
  rw [(settled_ofManifest settings (manifest.kept settings)).represents.run, admissions_kept,
    List.map_map, (settled_ofManifest settings manifest).represents.run,
    ← Run.registry_ofCalls_renumber, List.map_map]
  rfl

private theorem accepted_kept :
    (ofManifest settings (manifest.kept settings)).accepted =
      (ofManifest settings manifest).accepted.map (·.kept (ofManifest settings manifest)) := by
  have settled := settled_ofManifest settings manifest
  rw [(settled_ofManifest settings (manifest.kept settings)).accepted, admissions_kept,
    registry_kept, effective_kept, Manifest.kept, List.filterMap_filter, List.filterMap_map,
    settled.accepted, List.map_filterMap]
  apply List.filterMap_congr
  intro provider counts
  rw [Function.comp_apply, acceptedOf_kept counts]
  by_cases none : (provider.kept (ofManifest settings manifest)).methods = []
  · rw [settled.acceptedOf_eq_none counts none, Option.map_none]
    exact ite_self Option.none
  · have some : (!(provider.kept (ofManifest settings manifest)).methods.isEmpty) = true := by
      rwa [Bool.not_eq_true', ← Bool.not_eq_true, List.isEmpty_iff]
    rw [if_pos some]

/-- **The router model of the kept manifest** is the one of the whole manifest, with every handler
under its rank. -/
theorem finish_kept :
    (ofManifest settings (manifest.kept settings)).finish settings =
      ((ofManifest settings manifest).finish settings).renumber
        (ofManifest settings manifest).rank := by
  rw [finish, finish, accepted_kept, registry_kept, RouterModel.renumber, List.map_map,
    List.map_map, RouterModel.mk.injEq]
  apply List.map_congr_left
  intro accepted member
  exact (settled_ofManifest settings manifest).routerOf_kept member

/-- What is recorded about the kept manifest is what was recorded about the handlers that became
delegates. -/
theorem diagnostics_kept :
    (ofManifest settings (manifest.kept settings)).reporter.diagnostics =
      ((accounts settings manifest).filter (·.accepted)).flatMap (·.diagnostics) := by
  have handlers : ∀ provider ∈ (manifest.kept settings).providers, provider.methods ≠ [] := by
    intro provider member
    have some := (List.mem_filter.mp member).2
    rwa [Bool.not_eq_true', ← Bool.not_eq_true, List.isEmpty_iff] at some
  -- Every candidate is admitted, so there are no more accounts than admissions.
  have all : (accounts settings (manifest.kept settings)).filter (·.accepted) =
      accounts settings (manifest.kept settings) := by
    apply List.filter_sublist.eq_of_length
    have listed := congrArg List.length (map_handler_accounts settings (manifest.kept settings))
    rw [List.length_map, List.length_map, candidates_kept, List.length_map] at listed
    rw [filter_accepted_accounts, admissions_kept, List.length_map, List.length_map, listed]
  have recorded := diagnostics_ofManifest (effective_kept settings manifest) handlers
  refine recorded.trans ?_
  change (accounts settings (manifest.kept settings)).flatMap _ = _
  rw [← all, filter_accepted_accounts, filter_accepted_accounts, admissions_kept, List.map_map,
    List.flatMap_map, List.flatMap_map]
  rfl

private theorem severity_diagnostics_kept :
    ∀ diagnostic ∈ (ofManifest settings (manifest.kept settings)).reporter.diagnostics,
      diagnostic.severity = .warn := by
  intro diagnostic recorded
  rw [diagnostics_kept, filter_accepted_accounts, List.flatMap_map] at recorded
  obtain ⟨admission, admitted, noticed⟩ := List.mem_flatMap.mp recorded
  exact severity_notices (mem_admissionsAfter admitted).2 diagnostic noticed

end Rounds

/-- **The law of refusal** for the round over a manifest and the round over what is kept of it. -/
structure RefusalLaw (settings : Settings) (manifest : Manifest) : Prop where
  /-- The accounts tell of every candidate, in the order of the manifest. -/
  told : (accounts settings manifest).map (·.handler) =
    (candidates settings manifest.providers).map Candidate.handler
  /-- They tell truly which handlers became delegates. -/
  truly : ∀ account ∈ accounts settings manifest,
    (account.accepted = true ↔ (ofManifest settings manifest).HasDelegate account.handler)
  /-- What they tell was recorded in their order. -/
  recorded : ((accounts settings manifest).flatMap (·.diagnostics)).Sublist
    (processManifest settings manifest).1.reporter.diagnostics
  /-- No error is recorded about the kept manifest. -/
  errors : (processManifest settings (manifest.kept settings)).1.reporter.hasErrors = false
  /-- What is recorded about the kept manifest is what was recorded while the handlers that became
  delegates were taken in. -/
  diagnostics : (processManifest settings (manifest.kept settings)).1.reporter.diagnostics =
    ((accounts settings manifest).filter (·.accepted)).flatMap (·.diagnostics)
  /-- All of it are warnings. -/
  warnings :
    ∀ diagnostic ∈ (processManifest settings (manifest.kept settings)).1.reporter.diagnostics,
      diagnostic.severity = .warn
  /-- The registries differ in the numbers of the handlers only. -/
  registry : (processManifest settings (manifest.kept settings)).1.registry =
    (processManifest settings manifest).1.registry.renumber (ofManifest settings manifest).rank
  /-- So do the router models. -/
  model : (processManifest settings (manifest.kept settings)).2 =
    (processManifest settings manifest).2.renumber (ofManifest settings manifest).rank
  /-- The new numbers keep the order of the handlers of a class. -/
  rank : ∀ handler other, (ofManifest settings manifest).HasDelegate handler →
    (ofManifest settings manifest).HasDelegate other → handler.className = other.className →
      ((ofManifest settings manifest).rank handler < (ofManifest settings manifest).rank other ↔
        handler.ordinal < other.ordinal)
  /-- Every provider has the same source. -/
  source : ∀ types, (processManifest settings (manifest.kept settings)).2.routers.map
      (fun router => (router.qualifiedName, Source.render types router)) =
    (processManifest settings manifest).2.routers.map
      (fun router => (router.qualifiedName, Source.render types router))

/-- **Declarations that are refused do not touch what is generated**, for every manifest and all
settings. -/
theorem refusal_law (settings : Settings) (manifest : Manifest) : RefusalLaw settings manifest := by
  have settled := settled_ofManifest settings manifest
  have model := finish_kept settings manifest
  exact {
    told := map_handler_accounts settings manifest
    truly := fun _ => accepted_iff_hasDelegate settings manifest
    recorded := diagnostics_accounts_sublist settings manifest
    errors := by
      rw [Reporter.hasErrors, ← Bool.not_eq_true, List.any_eq_true]
      rintro ⟨diagnostic, recorded, error⟩
      have warning := severity_diagnostics_kept settings manifest diagnostic recorded
      rw [Diagnostic.isError, warning] at error
      cases error
    diagnostics := diagnostics_kept settings manifest
    warnings := severity_diagnostics_kept settings manifest
    registry := registry_kept settings manifest
    model := model
    rank := fun _ _ => settled.rank_lt_rank_iff
    source := by
      intro types
      rw [processManifest, model, RouterModel.renumber, List.map_map]
      apply List.map_congr_left
      intro router _
      exact Prod.ext rfl (Source.render_renumber _ types router) }

end Round

end ContentRouter
