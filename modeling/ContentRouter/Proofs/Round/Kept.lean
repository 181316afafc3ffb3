import ContentRouter.Proofs.Lists.Filters
import ContentRouter.Proofs.Lists.Keys
import ContentRouter.Proofs.Round.Acceptance

/-!
# What is kept of a manifest

The kept manifest has the effective declarations with the handlers that became delegates, and no
declaration that is left without handlers. The place of a handler in its kept declaration is its
rank, the number of delegates of its class before it (`Settled.candidates_kept`).

An offer depends on the authority, the template and the parameters, which all stay. So what is
admitted of the kept manifest are the same admissions, in the same order and with the same models
and bindings (`Settled.admissions_kept`).
-/

namespace ContentRouter

namespace Round

instance (round : Round) (handler : Handler) : Decidable (round.HasDelegate handler) :=
  inferInstanceAs (Decidable (∃ accepted ∈ round.accepted, ∃ delegate ∈ accepted.delegates,
    delegate.handler = handler))

/-- The handlers of the delegates, in their order. -/
def handlers (round : Round) : List Handler :=
  round.accepted.flatMap fun accepted => accepted.delegates.map (·.handler)

/-- The handlers of the delegates of a class, in their order. -/
def handlersOf (round : Round) (className : String) : List Handler :=
  round.handlers.filter (·.className = className)

/-- The place of a handler among the delegates of its class. -/
def rank (round : Round) (handler : Handler) : Nat :=
  (round.handlersOf handler.className).idxOf handler

end Round

section Definitions

variable (round : Round)

/-- The candidates of a declaration that became delegates of a round. -/
def Provider.keptCandidates (provider : Provider) : List Candidate :=
  (provider.candidates 0 provider.methods).filter fun candidate =>
    round.HasDelegate candidate.handler

/-- The declaration without the handlers that a round refused. -/
def Provider.kept (provider : Provider) : Provider :=
  { provider with methods := (provider.keptCandidates round).map (·.method) }

/-- A candidate where its kept declaration has it. -/
def Candidate.kept (candidate : Candidate) : Candidate where
  provider := candidate.provider.kept round
  ordinal := round.rank candidate.handler
  method := candidate.method

/-- The admission of a candidate where its kept declaration has it. -/
def Admission.kept (admission : Admission) : Admission :=
  { admission with candidate := admission.candidate.kept round }

end Definitions

/-- **The kept manifest**: without the declarations that are not effective, without the handlers
that the round over the manifest refuses, and without the declarations that then have no handler. -/
def Manifest.kept (settings : Settings) (manifest : Manifest) : Manifest where
  providers :=
    ((effective settings manifest.providers).map
      (·.kept (Round.ofManifest settings manifest))).filter (!·.methods.isEmpty)

section Admitting

variable {settings : Settings}

/-- What is admitted serves none of each other's requests. -/
theorem admissionsAfter_pairwise {admitted : List Admission}
    (apart : admitted.Pairwise fun earlier later => earlier.forestalls later = false)
    (candidates : List Candidate) :
    (admitted ++ admissionsAfter settings admitted candidates).Pairwise fun earlier later =>
      earlier.forestalls later = false := by
  induction candidates generalizing admitted with
  | nil => rwa [admissionsAfter_nil, List.append_nil]
  | cons candidate rest ih =>
      rw [admissionsAfter_cons, ← List.append_assoc]
      apply ih
      cases found : candidate.admission? settings admitted with
      | none => rwa [Option.toList_none, List.append_nil]
      | some admission =>
          obtain ⟨_, free⟩ := Candidate.admission?_eq_some_iff.mp found
          rw [Option.toList_some, List.pairwise_append]
          refine ⟨apart, List.pairwise_singleton _ _, ?_⟩
          intro earlier member later single
          rw [List.mem_singleton.mp single]
          exact free earlier member

/-- A kept candidate offers what it offered. -/
theorem Candidate.offer?_kept (round : Round) {candidate : Candidate} {offer : Admission}
    (offered : candidate.offer? settings = some offer) :
    (candidate.kept round).offer? settings = some (offer.kept round) := by
  obtain ⟨bound, built, parameters, same⟩ := offer?_eq_some_iff.mp offered
  exact offer?_eq_some_iff.mpr ⟨bound, built, parameters, congrArg (Admission.kept round) same⟩

/-- Admissions are admitted again where they are kept. -/
theorem admissionsAfter_kept (round : Round) {before later : List Admission}
    (apart : (before ++ later).Pairwise fun earlier next => earlier.forestalls next = false)
    (offered : ∀ admission ∈ later, admission.candidate.offer? settings = some admission) :
    admissionsAfter settings (before.map (·.kept round)) (later.map (·.candidate.kept round)) =
      later.map (·.kept round) := by
  induction later generalizing before with
  | nil => rfl
  | cons admission rest ih =>
      have offer := Candidate.offer?_kept round (offered admission List.mem_cons_self)
      have free : ∀ earlier ∈ before.map (·.kept round),
          earlier.forestalls (admission.kept round) = false := by
        intro earlier member
        obtain ⟨original, inside, rfl⟩ := List.mem_map.mp member
        exact (List.pairwise_append.mp apart).2.2 original inside admission List.mem_cons_self
      have admitted := Candidate.admission?_eq_some_iff.mpr ⟨offer, free⟩
      rw [List.append_cons] at apart
      have onward := ih apart fun next member => offered next (List.mem_cons_of_mem _ member)
      rw [List.map_append, List.map_singleton] at onward
      rw [List.map_cons, List.map_cons, admissionsAfter_cons, admitted, Option.toList_some, onward,
        List.singleton_append]

end Admitting

namespace Round

section Settled

variable {settings : Settings} {providers : List Provider} {round : Round}
  (settled : Settled settings providers round)
include settled

/-- The candidates that became delegates are those of the admissions. -/
theorem Settled.filter_hasDelegate_candidates :
    (candidates settings providers).filter (fun candidate => round.HasDelegate candidate.handler) =
      (admissions settings (candidates settings providers)).map (·.candidate) := by
  have distinct := List.Nodup.of_map _ (map_place_candidates_nodup settings providers)
  apply filter_eq_of_sublist (map_candidate_admissionsAfter_sublist [] _) distinct
  intro candidate listed
  rw [decide_eq_true_eq, List.mem_map]
  constructor
  · exact settled.admission_of_hasDelegate listed
  · rintro ⟨admission, admitted, rfl⟩
    exact (settled.hasDelegate_iff _).mpr (List.mem_map_of_mem admitted)

omit settled in
/-- The candidates of an effective declaration are those that have it as their provider. -/
theorem filter_provider_candidates {provider : Provider}
    (counts : provider ∈ effective settings providers) :
    (candidates settings providers).filter (·.provider = provider) =
      provider.candidates 0 provider.methods := by
  have distinct := List.Nodup.of_map _ (map_place_candidates_nodup settings providers)
  have inside : (provider.candidates 0 provider.methods).Sublist
      (candidates settings providers) := by
    rw [candidates, List.flatMap_def]
    exact List.sublist_flatten_of_mem
      (List.mem_map_of_mem (f := fun provider => provider.candidates 0 provider.methods) counts)
  apply filter_eq_of_sublist inside distinct
  intro candidate listed
  rw [decide_eq_true_eq]
  constructor
  · rintro rfl
    obtain ⟨provider, _, member⟩ := List.mem_flatMap.mp listed
    rw [Provider.provider_of_mem_candidates member]
    exact member
  · exact Provider.provider_of_mem_candidates

/-- What is kept of an effective declaration are the candidates of its admissions. -/
theorem Settled.keptCandidates_eq {provider : Provider}
    (counts : provider ∈ effective settings providers) :
    provider.keptCandidates round =
      ((admissions settings (candidates settings providers)).filter
        (·.candidate.provider = provider)).map (·.candidate) := by
  have own : (fun admission : Admission => decide (admission.candidate.provider = provider)) =
      (fun candidate : Candidate => decide (candidate.provider = provider)) ∘ (·.candidate) := rfl
  rw [own, ← List.filter_map, ← settled.filter_hasDelegate_candidates, List.filter_comm,
    filter_provider_candidates counts]
  rfl

private theorem Settled.flatMap_keptCandidates :
    ((effective settings providers).flatMap fun provider => provider.keptCandidates round) =
      (admissions settings (candidates settings providers)).map (·.candidate) := by
  rw [← settled.filter_hasDelegate_candidates, candidates, List.filter_flatMap]
  rfl

/-- The handlers of the delegates are those of the admissions, in their order. -/
theorem Settled.handlers_eq :
    round.handlers =
      (admissions settings (candidates settings providers)).map Admission.handler := by
  have grouped : ∀ provider ∈ effective settings providers,
      (acceptedOf (admissions settings (candidates settings providers)) round.registry
          provider).toList.flatMap (fun accepted => accepted.delegates.map (·.handler)) =
        (provider.keptCandidates round).map Candidate.handler := by
    intro provider counts
    rw [settled.keptCandidates_eq counts, acceptedOf]
    split
    · rename_i none
      rw [List.isEmpty_iff, List.map_eq_nil_iff] at none
      rw [none]
      rfl
    · rw [Option.toList_some, List.flatMap_singleton, List.map_map, List.map_map]
      rfl
  rw [handlers, settled.accepted, List.filterMap_eq_flatMap_toList, List.flatMap_assoc,
    List.flatMap_congr grouped, ← List.map_flatMap, settled.flatMap_keptCandidates, List.map_map]
  rfl

/-- The delegates of a class are what is kept of its declaration. -/
theorem Settled.handlersOf_eq {provider : Provider}
    (counts : provider ∈ effective settings providers) :
    round.handlersOf provider.className =
      (provider.keptCandidates round).map Candidate.handler := by
  rw [handlersOf, settled.handlers_eq, settled.keptCandidates_eq counts, List.map_map,
    List.filter_map]
  refine congrArg (List.map _) (List.filter_congr ?_)
  intro admission admitted
  rw [Function.comp_apply, decide_eq_decide]
  constructor
  · exact provider_eq_of_className_eq admitted counts
  · exact congrArg Provider.className

/-- **The candidates of a kept declaration** are those that are kept, each at its rank. -/
theorem Settled.candidates_provider_kept {provider : Provider}
    (counts : provider ∈ effective settings providers) :
    (provider.kept round).candidates 0 (provider.kept round).methods =
      (provider.keptCandidates round).map (·.kept round) := by
  have handlers := settled.handlersOf_eq counts
  have distinct : ((provider.keptCandidates round).map Candidate.handler).Nodup := by
    rw [← handlers, handlersOf, settled.handlers_eq]
    exact (map_handler_admissions_nodup providers).filter _
  have numbered := map_zipIdx_of_nodup Candidate.handler distinct fun candidate ordinal =>
    Candidate.mk (provider.kept round) ordinal candidate.method
  rw [← handlers] at numbered
  have methods : (provider.kept round).methods =
      (provider.keptCandidates round).map (·.method) := rfl
  rw [Provider.candidates, methods, List.zipIdx_map, List.map_map]
  refine Eq.trans numbered ?_
  apply List.map_congr_left
  intro candidate member
  obtain rfl := Provider.provider_of_mem_candidates (List.mem_filter.mp member).1
  rfl

end Settled

section Manifests

variable (settings : Settings) (manifest : Manifest)

/-- All declarations of a kept manifest count. -/
theorem effective_kept :
    effective settings (manifest.kept settings).providers =
      (manifest.kept settings).providers := by
  apply effective_eq_self
  · rw [Manifest.kept]
    refine List.Nodup.sublist (List.filter_sublist.map _) ?_
    rw [List.map_map]
    exact map_className_effective_nodup manifest.providers
  · intro provider member
    obtain ⟨original, counts, rfl⟩ := List.mem_map.mp (List.mem_filter.mp member).1
    have lawful := authority_of_mem_effective counts
    exact lawful

/-- **The candidates of a kept manifest** are those that became delegates, each at its rank. -/
theorem candidates_kept :
    candidates settings (manifest.kept settings).providers =
      (admissions settings (candidates settings manifest.providers)).map
        (·.candidate.kept (ofManifest settings manifest)) := by
  have settled := settled_ofManifest settings manifest
  have idle : ∀ provider : Provider, (!provider.methods.isEmpty) = false →
      provider.candidates 0 provider.methods = [] := by
    intro provider none
    rw [Bool.not_eq_false', List.isEmpty_iff] at none
    rw [none, Provider.candidates_nil]
  rw [candidates, effective_kept, Manifest.kept, flatMap_filter_of_nil idle, List.flatMap_map,
    List.flatMap_congr fun provider => settled.candidates_provider_kept, ← List.map_flatMap,
    settled.flatMap_keptCandidates, List.map_map]
  rfl

-- A malformed template, requests that are served already and a repeated class are left out.
example :
    let query (name template : String) : Method := { name, operation := .query, template }
    let first : Provider :=
      { className := "P", authority := "a",
        methods := [query "bad" "n?k", query "list" "n", query "again" "n", query "tags" "t"] }
    let second : Provider := { className := "P", authority := "a", methods := [query "rest" "r"] }
    (candidates {} (Manifest.kept {} ⟨[first, second]⟩).providers).map
        (fun candidate => (candidate.method.name, candidate.ordinal)) =
      [("list", 0), ("tags", 1)] := by decide +kernel

/-- **What is admitted of a kept manifest** is what was admitted. -/
theorem admissions_kept :
    admissions settings (candidates settings (manifest.kept settings).providers) =
      (admissions settings (candidates settings manifest.providers)).map
        (·.kept (ofManifest settings manifest)) := by
  rw [candidates_kept]
  have apart := @admissionsAfter_pairwise settings [] List.Pairwise.nil
    (candidates settings manifest.providers)
  exact admissionsAfter_kept _ apart fun admission admitted => (mem_admissionsAfter admitted).2

end Manifests

end Round

end ContentRouter
