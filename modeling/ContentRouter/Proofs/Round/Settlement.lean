import ContentRouter.Proofs.Routing.Contents
import ContentRouter.Proofs.Round.Handler

/-!
# What a round has come to

A registry *represents* admissions if calling it for each of them in turn leads to it, with every
call answered. A round over declarations is *settled* if its registry represents what is admitted of
their candidates, and its accepted providers are the effective declarations that have something
admitted, each with the delegates of its admissions in their order.

Every step of a round keeps this: a handler because it enters the registry exactly if it is
admitted, and a declaration because the ids of what was admitted before never change. So a round
over any manifest is settled (`Round.settled_ofManifest`).
-/

namespace ContentRouter

/-- A registry that is led to by admissions. -/
structure Registry.Represents (registry : Registry) (admitted : List Admission) : Prop where
  run : registry = (Run.ofCalls (admitted.map Admission.call)).registry
  registrations : (Run.ofCalls (admitted.map Admission.call)).registrations =
    admitted.map (·.entry registry)

namespace Registry

private theorem perform_call (registry : Registry) {admission : Admission}
    (free : registry.conflict? admission.model admission.handler.operation = none) :
    registry.perform admission.call =
      (.ok (registry.idFor admission.model),
        (registry.withBucketFor admission.model).insert (registry.idFor admission.model)
          (admission.entry registry)) := by
  rw [Admission.call, perform, registerExact_eq, free]
  rfl

private theorem represents_nil : Represents {} [] where
  run := rfl
  registrations := rfl

namespace Represents

variable {registry : Registry} {admitted : List Admission}
  (represents : registry.Represents admitted)
include represents

/-- A registry that represents admissions is well-formed. -/
theorem wellFormed : registry.WellFormed := by
  rw [represents.run]
  exact (Run.sound_ofCalls _).wellFormed

/-- The entries of the registry are those of the admissions. -/
theorem entries_perm : registry.entries.Perm (admitted.map (·.entry registry)) := by
  rw [← represents.registrations, represents.run]
  exact (Run.sound_ofCalls _).entries_perm

/-- There is a bucket for every admitted address, in the order in which they first came. -/
theorem map_address_buckets :
    registry.buckets.map Bucket.address = (admitted.map (·.model.address)).eraseDups := by
  have addresses := (Run.sound_ofCalls (admitted.map Admission.call)).addresses
  rwa [← represents.run, Run.addresses_ofCalls, List.map_map] at addresses

/-- The model of an admission has its id under its own authority and path. -/
theorem label_mem {admission : Admission} (member : admission ∈ admitted) :
    (registry.idFor admission.model, admission.model.address) ∈ registry.labels := by
  have entered : admission.entry registry ∈
      (Run.ofCalls (admitted.map Admission.call)).registrations := by
    rw [represents.registrations]
    exact List.mem_map_of_mem member
  obtain ⟨bucket, inside, same⟩ := (Run.sound_ofCalls _).exists_bucket entered
  rw [← represents.run] at inside
  rw [Registry.mem_labels]
  exact ⟨bucket, inside, (represents.wellFormed.idFor_eq inside same).symm, same⟩

/-- Every admission has an entry. -/
theorem entry_mem {admission : Admission} (member : admission ∈ admitted) :
    admission.entry registry ∈ registry.entries := by
  rw [represents.entries_perm.mem_iff]
  exact List.mem_map_of_mem member

/-- A bucket has what was admitted at its address, marked with its id and in stable order. -/
theorem entries_eq {bucket : Bucket} (inside : bucket ∈ registry.buckets) :
    bucket.entries = Bucket.inOrder
      ((admitted.filter (·.model.address = bucket.address)).map fun admission =>
        ⟨admission.model.withMatcherId bucket.id, admission.handler⟩) := by
  have contents := (Run.sound_ofCalls (admitted.map Admission.call)).contents bucket
    (represents.run ▸ inside)
  rw [contents, Run.registrationsAt, represents.registrations, List.filter_map]
  refine congrArg Bucket.inOrder (List.map_congr_left ?_)
  intro admission here
  have same : bucket.address = admission.model.address :=
    (of_decide_eq_true (List.mem_filter.mp here).2).symm
  rw [Admission.entry, represents.wellFormed.idFor_eq inside same]

/-- What was admitted keeps its id in every registry that goes on from this one. -/
theorem idFor_eq {admission : Admission} (member : admission ∈ admitted) {other : Registry}
    (wellFormed : other.WellFormed) (further : registry.labels <+: other.labels) :
    other.idFor admission.model = registry.idFor admission.model :=
  wellFormed.idFor_eq_of_label (further.subset (represents.label_mem member))

private theorem map_delegate_eq {admissions : List Admission} (inside : admissions ⊆ admitted)
    {other : Registry} (wellFormed : other.WellFormed)
    (further : registry.labels <+: other.labels) :
    admissions.map (·.delegate other) = admissions.map (·.delegate registry) := by
  apply List.map_congr_left
  intro admission member
  rw [Admission.delegate, represents.idFor_eq (inside member) wellFormed further]
  rfl

private theorem map_entry_eq {other : Registry} (wellFormed : other.WellFormed)
    (further : registry.labels <+: other.labels) :
    admitted.map (·.entry other) = admitted.map (·.entry registry) := by
  apply List.map_congr_left
  intro admission member
  rw [Admission.entry, represents.idFor_eq member wellFormed further]
  rfl

/-- A candidate finds a conflict exactly if an admission forestalls it. -/
theorem entrant?_eq (settings : Settings) (candidate : Candidate) :
    candidate.entrant? settings registry = candidate.admission? settings admitted := by
  apply Option.ext
  intro offer
  rw [Candidate.entrant?_eq_some_iff, Candidate.admission?_eq_some_iff,
    represents.wellFormed.conflict?_eq_none_iff]
  simp only [represents.entries_perm.mem_iff, List.forall_mem_map,
    Admission.forestalls_eq_false_iff]
  rfl

/-- A further admission enters the registry, which goes on from what it was. -/
theorem perform {admission : Admission}
    (free : registry.conflict? admission.model admission.handler.operation = none) :
    (registry.perform admission.call).2.Represents (admitted ++ [admission]) ∧
      registry.labels <+: (registry.perform admission.call).2.labels ∧
      (registry.perform admission.call).2.idFor admission.model =
        registry.idFor admission.model := by
  have wellFormed := represents.wellFormed.perform admission.call
  have answer : (registry.perform admission.call).1 = .ok (registry.idFor admission.model) := by
    rw [registry.perform_call free]
  have further : registry.labels <+: (registry.perform admission.call).2.labels := by
    rw [labels_perform]
    exact registry.labels_withBucketFor admission.model
  have id : (registry.perform admission.call).2.idFor admission.model =
      registry.idFor admission.model :=
    wellFormed.idFor_eq_of_label (perform_answer answer).2
  have entry : admission.entry (registry.perform admission.call).2 = admission.entry registry := by
    rw [Admission.entry, id]
    rfl
  refine ⟨⟨?_, ?_⟩, further, id⟩
  · rw [List.map_append, List.map_singleton, Run.ofCalls_append_singleton, Run.take,
      ← represents.run]
  · rw [List.map_append, List.map_singleton, Run.ofCalls_append_singleton,
      Run.registrations_take, represents.registrations, ← represents.run, answer,
      List.map_append, represents.map_entry_eq wellFormed further, List.map_singleton, entry]
    rfl

end Represents

end Registry

namespace Round

section Handlers

variable (settings : Settings) {round : Round} {admitted : List Admission}

/-- **One handler.** It becomes a delegate exactly if it is admitted, and then enters the registry.
-/
theorem processMethod_represents (represents : round.registry.Represents admitted)
    (candidate : Candidate) :
    let new := (candidate.admission? settings admitted).toList
    let after := round.processMethod settings candidate.provider candidate.ordinal candidate.method
    after.1.registry.Represents (admitted ++ new) ∧
      round.registry.labels <+: after.1.registry.labels ∧
      after.2.toList = new.map (·.delegate after.1.registry) := by
  have result := processMethod_eq settings round candidate
  rw [represents.entrant?_eq] at result
  dsimp only at result ⊢
  rw [result]
  cases found : candidate.admission? settings admitted with
  | none =>
      rw [Option.toList_none, List.append_nil]
      exact ⟨represents, List.prefix_rfl, rfl⟩
  | some admission =>
      rw [← represents.entrant?_eq] at found
      obtain ⟨_, free⟩ := Candidate.entrant?_eq_some_iff.mp found
      obtain ⟨entered, further, id⟩ := represents.perform free
      rw [round.registry.perform_call free] at entered further id
      refine ⟨entered, further, ?_⟩
      rw [Option.toList_some, Option.toList_some, List.map_singleton, Admission.delegate,
        Admission.delegate, id]

/-- **The handlers of a declaration.** Those that are admitted become delegates, in their order. -/
theorem processMethods_represents (represents : round.registry.Represents admitted)
    (provider : Provider) (ordinal : Nat) (methods : List Method) :
    let new := admissionsAfter settings admitted (provider.candidates ordinal methods)
    let after := processMethods settings provider round ordinal methods
    after.1.registry.Represents (admitted ++ new) ∧
      round.registry.labels <+: after.1.registry.labels ∧
      after.2 = new.map (·.delegate after.1.registry) := by
  induction methods generalizing round admitted ordinal with
  | nil =>
      simp only [processMethods, Provider.candidates_nil, admissionsAfter_nil, List.append_nil]
      exact ⟨represents, List.prefix_rfl, rfl⟩
  | cons method rest ih =>
      obtain ⟨first, further, delegate⟩ :=
        processMethod_represents settings represents ⟨provider, ordinal, method⟩
      obtain ⟨all, onward, delegates⟩ := ih first (ordinal + 1)
      rw [Provider.candidates_cons, admissionsAfter_cons]
      dsimp only
      rw [← List.append_assoc]
      refine ⟨all, further.trans onward, ?_⟩
      have kept := first.map_delegate_eq (List.subset_append_right _ _) all.wellFormed onward
      rw [processMethods, List.map_append]
      dsimp only at delegate delegates kept ⊢
      rw [delegates, delegate, kept]

private theorem declared_processMethods (provider : Provider) (round : Round) (ordinal : Nat)
    (methods : List Method) :
    (processMethods settings provider round ordinal methods).1.declared = round.declared := by
  induction methods generalizing round ordinal with
  | nil => rfl
  | cons method rest ih =>
      rw [processMethods]
      dsimp only
      rw [ih, declared_processMethod settings round ⟨provider, ordinal, method⟩]

private theorem accepted_processMethods (provider : Provider) (round : Round) (ordinal : Nat)
    (methods : List Method) :
    (processMethods settings provider round ordinal methods).1.accepted = round.accepted := by
  induction methods generalizing round ordinal with
  | nil => rfl
  | cons method rest ih =>
      rw [processMethods]
      dsimp only
      rw [ih, accepted_processMethod settings round ⟨provider, ordinal, method⟩]

end Handlers

/-- The accepted provider of a declaration: it has the delegates of its admissions, and there has to
be one. -/
def acceptedOf (admitted : List Admission) (registry : Registry) (provider : Provider) :
    Option AcceptedProvider :=
  let delegates :=
    (admitted.filter (·.candidate.provider = provider)).map (·.delegate registry)
  if delegates.isEmpty then none else some { provider, delegates }

/-- A provider is accepted with the delegates of its admissions, if there are any. -/
theorem acceptedOf_eq_some_iff {admitted : List Admission} {registry : Registry}
    {provider : Provider} {accepted : AcceptedProvider} :
    acceptedOf admitted registry provider = some accepted ↔
      accepted.provider = provider ∧
        accepted.delegates =
          (admitted.filter (·.candidate.provider = provider)).map (·.delegate registry) ∧
        accepted.delegates ≠ [] := by
  obtain ⟨owner, delegates⟩ := accepted
  unfold acceptedOf
  dsimp only
  constructor
  · intro made
    split at made
    · cases made
    · rename_i some
      cases made
      exact ⟨rfl, rfl, fun none => some (List.isEmpty_iff.mpr none)⟩
  · rintro ⟨rfl, rfl, some⟩
    exact if_neg fun none => some (List.isEmpty_iff.mp none)

/-- What holds of a round over declarations after every one of them. -/
structure Settled (settings : Settings) (providers : List Provider) (round : Round) : Prop where
  declared : round.declared = providers.map (·.className)
  represents : round.registry.Represents (admissions settings (candidates settings providers))
  accepted : round.accepted =
    (effective settings providers).filterMap
      (acceptedOf (admissions settings (candidates settings providers)) round.registry)

section Declarations

variable {settings : Settings} {round : Round} {providers : List Provider}

private theorem settled_empty : Settled settings [] {} where
  declared := rfl
  represents := Registry.represents_nil
  accepted := rfl

/-- A declaration passes exactly if it is effective. -/
theorem providerFault?_eq_none_iff (declared : round.declared = providers.map (·.className))
    (provider : Provider) :
    round.providerFault? settings provider = none ↔ provider.IsEffective settings providers := by
  unfold providerFault? Provider.IsEffective
  rw [declared]
  by_cases known : provider.className ∈ providers.map (·.className)
  · rw [if_pos (List.contains_iff_mem.mpr known)]
    exact iff_of_false nofun (fun both => both.1 known)
  · rw [if_neg (fun found => known (List.contains_iff_mem.mp found))]
    cases Authority.check settings.output.uriScheme provider.authority with
    | ok accepted => exact iff_of_true rfl ⟨known, rfl⟩
    | error fault => exact iff_of_false nofun (fun both => nomatch both.2)

/-- A declaration that is not effective leaves one error and nothing else. -/
theorem processProvider_of_fault {provider : Provider} {fault : Fault}
    (found : round.providerFault? settings provider = some fault) :
    round.processProvider settings provider =
      (round.declare provider).record [.ofFault (.provider provider.className) fault] := by
  unfold processProvider
  rw [found]

/-- A declaration that passes has its handlers taken in. -/
theorem processProvider_of_none {provider : Provider}
    (passes : round.providerFault? settings provider = none) :
    let taken := processMethods settings provider (round.declare provider) 0 provider.methods
    let after := round.processProvider settings provider
    after.declared = round.declared ++ [provider.className] ∧
      after.registry = taken.1.registry ∧
      after.accepted = round.accepted ++
        if taken.2.isEmpty then [] else [{ provider, delegates := taken.2 }] := by
  have declared := declared_processMethods settings provider (round.declare provider) 0
    provider.methods
  have accepted := accepted_processMethods settings provider (round.declare provider) 0
    provider.methods
  unfold processProvider
  rw [passes]
  dsimp only
  by_cases none : provider.methods.isEmpty = true
  · rw [if_pos none, List.isEmpty_iff.mp none]
    exact ⟨rfl, rfl, (List.append_nil _).symm⟩
  · rw [if_neg none]
    by_cases nothing : (processMethods settings provider (round.declare provider) 0
        provider.methods).2.isEmpty = true
    · rw [if_pos nothing, if_pos nothing, List.append_nil]
      exact ⟨declared, rfl, accepted⟩
    · rw [if_neg nothing, if_neg nothing]
      exact ⟨declared, rfl, by rw [accepted]; rfl⟩

private theorem effective_of_not_isEffective {provider : Provider}
    (idle : ¬ provider.IsEffective settings providers) :
    effective settings (providers ++ [provider]) = effective settings providers := by
  rw [effective_append_singleton, if_neg idle, List.append_nil]

/-- A declaration without effect brings no candidates. -/
theorem candidates_of_not_isEffective {provider : Provider}
    (idle : ¬ provider.IsEffective settings providers) :
    candidates settings (providers ++ [provider]) = candidates settings providers := by
  rw [candidates, effective_of_not_isEffective idle]
  rfl

/-- An effective declaration brings its methods, behind all other candidates. -/
theorem candidates_of_isEffective {provider : Provider}
    (counts : provider.IsEffective settings providers) :
    candidates settings (providers ++ [provider]) =
      candidates settings providers ++ provider.candidates 0 provider.methods := by
  rw [candidates, effective_append_singleton, if_pos counts, List.flatMap_append,
    List.flatMap_singleton]
  rfl

/-- Only effective declarations have admissions. -/
theorem provider_mem_of_mem_admissions {admission : Admission}
    (member : admission ∈ admissions settings (candidates settings providers)) :
    admission.candidate.provider ∈ effective settings providers := by
  obtain ⟨provider, listed, inside⟩ := List.mem_flatMap.mp (mem_admissionsAfter member).1
  rw [Provider.provider_of_mem_candidates inside]
  exact listed

/-- The class of an admission tells its declaration. -/
theorem provider_eq_of_className_eq {admission : Admission} {provider : Provider}
    (admitted : admission ∈ admissions settings (candidates settings providers))
    (counts : provider ∈ effective settings providers)
    (same : admission.candidate.provider.className = provider.className) :
    admission.candidate.provider = provider :=
  List.inj_on_of_nodup_map (map_className_effective_nodup providers)
    (provider_mem_of_mem_admissions admitted) counts same

/-- Admissions of another declaration leave an accepted provider as it is. -/
theorem acceptedOf_append_of_ne {registry other : Registry} {admitted new : List Admission}
    (represents : registry.Represents admitted) (wellFormed : other.WellFormed)
    (further : registry.labels <+: other.labels) {provider : Provider}
    (apart : ∀ admission ∈ new, admission.candidate.provider ≠ provider) :
    acceptedOf (admitted ++ new) other provider = acceptedOf admitted registry provider := by
  have none : new.filter (·.candidate.provider = provider) = [] := by
    apply List.filter_eq_nil_iff.mpr
    intro admission member same
    exact apart admission member (of_decide_eq_true same)
  rw [acceptedOf, List.filter_append, none, List.append_nil,
    represents.map_delegate_eq (List.filter_subset_self _) wellFormed further]
  rfl

/-- The first admissions of a declaration make its accepted provider. -/
theorem acceptedOf_append_self {registry : Registry} {admitted new : List Admission}
    {provider : Provider} (fresh : ∀ admission ∈ admitted, admission.candidate.provider ≠ provider)
    (own : ∀ admission ∈ new, admission.candidate.provider = provider) :
    acceptedOf (admitted ++ new) registry provider =
      if (new.map (·.delegate registry)).isEmpty then none
      else some { provider, delegates := new.map (·.delegate registry) } := by
  have none : admitted.filter (·.candidate.provider = provider) = [] := by
    apply List.filter_eq_nil_iff.mpr
    intro admission member same
    exact fresh admission member (of_decide_eq_true same)
  have all : new.filter (·.candidate.provider = provider) = new := by
    apply List.filter_eq_self.mpr
    intro admission member
    exact decide_eq_true (own admission member)
  rw [acceptedOf, List.filter_append, none, all, List.nil_append]

/-- **One declaration** keeps a round settled. -/
theorem Settled.processProvider (settled : Settled settings providers round)
    (provider : Provider) :
    Settled settings (providers ++ [provider]) (round.processProvider settings provider) := by
  have passes : round.providerFault? settings provider = none ↔
      provider.IsEffective settings providers :=
    providerFault?_eq_none_iff settled.declared provider
  cases found : round.providerFault? settings provider with
  | some fault =>
      have idle : ¬ provider.IsEffective settings providers := by
        rw [← passes, found]
        exact nofun
      have same := effective_of_not_isEffective idle
      have listed := candidates_of_not_isEffective idle
      rw [processProvider_of_fault found]
      constructor
      · rw [declared_record, declare, settled.declared, List.map_append, List.map_singleton]
      · rw [listed]
        exact settled.represents
      · rw [listed, same]
        exact settled.accepted
  | none =>
      have counts := passes.mp found
      obtain ⟨declared, registry, accepted⟩ := processProvider_of_none found
      have represents : (round.declare provider).registry.Represents
          (admissions settings (candidates settings providers)) := settled.represents
      obtain ⟨all, further, delegates⟩ :=
        processMethods_represents settings represents provider 0 provider.methods
      rw [← registry] at all further delegates
      constructor
      · rw [declared, settled.declared, List.map_append, List.map_singleton]
      · rw [candidates_of_isEffective counts, admissions_append]
        exact all
      · rw [accepted, delegates, settled.accepted, candidates_of_isEffective counts,
          admissions_append, effective_append_singleton, if_pos counts, List.filterMap_append]
        -- The class is new, so no earlier declaration is this one: what was admitted before stands
        -- under the others, and what is admitted now under this one.
        have old : ∀ other ∈ effective settings providers, other ≠ provider := by
          rintro other listed rfl
          exact counts.1 (List.mem_map_of_mem ((effective_sublist providers).subset listed))
        have own : ∀ admission ∈ admissionsAfter settings
            (admissions settings (candidates settings providers))
            (provider.candidates 0 provider.methods), admission.candidate.provider = provider := by
          intro admission member
          exact Provider.provider_of_mem_candidates (mem_admissionsAfter member).1
        congr 1
        · apply List.filterMap_congr
          intro other listed
          refine (acceptedOf_append_of_ne settled.represents all.wellFormed further ?_).symm
          intro admission member same
          exact old other listed (same.symm.trans (own admission member))
        · rw [List.filterMap_cons, acceptedOf_append_self _ own]
          · split <;> rfl
          · intro admission member
            exact old _ (provider_mem_of_mem_admissions member)

/-- **Every round is settled.** -/
theorem settled_ofManifest (settings : Settings) (manifest : Manifest) :
    Settled settings manifest.providers (ofManifest settings manifest) := by
  obtain ⟨providers⟩ := manifest
  induction providers using List.reverseRecOn with
  | nil => exact settled_empty
  | append_singleton providers last ih =>
      rw [ofManifest, List.foldl_append]
      exact ih.processProvider last

end Declarations

end Round

end ContentRouter
