import ContentRouter.Proofs.Round.Account
import ContentRouter.Proofs.Routing.Growth
import ContentRouter.Source.Rendering

/-!
# Rounds that go on

A round only appends. Declarations that come later record their diagnostics behind those that are
there, under their own class; they add buckets behind the others and entries between the others;
and they are accepted behind the others.

Later handlers may well enter the buckets of an accepted provider. But they belong to other classes,
so that the routes which lead from a bucket to the provider stay what they were
(`Round.groupsOf_insert`), and with them its router and its source (`Round.extension_law`).
-/

namespace ContentRouter

namespace Round

section Groups

variable (accepted : AcceptedProvider)

/-- A new bucket leads nowhere. -/
theorem groupsOf_withBucketFor (registry : Registry) (model : Model) :
    groupsOf accepted (registry.withBucketFor model) = groupsOf accepted registry := by
  obtain ⟨_, _, _, _, same⟩ | ⟨_, _, same⟩ := registry.withBucketFor_cases model
  · rw [same]
  · rw [same, groupsOf, List.filterMap_append]
    exact List.append_nil _

variable {accepted} {entry : Registration}
  (foreign : entry.owner.className ≠ accepted.provider.className)
include foreign

private theorem routesOf_insert (bucket : Bucket) :
    routesOf accepted (bucket.insert entry) = routesOf accepted bucket := by
  have same :
      (Bucket.place entry bucket.entries).filter
          (·.owner.className == accepted.provider.className) =
        bucket.entries.filter (·.owner.className == accepted.provider.className) := by
    apply Bucket.filter_place_of_neg
    exact beq_eq_false_iff_ne.mpr foreign
  rw [routesOf, Bucket.entries_insert, same]
  rfl

/-- **The entry of another class** changes no group of a provider. -/
theorem groupsOf_insert (registry : Registry) (id : MatcherId) :
    groupsOf accepted (registry.insert id entry) = groupsOf accepted registry := by
  rw [groupsOf, Registry.insert, List.filterMap_map]
  apply List.filterMap_congr
  intro bucket _
  dsimp only [Function.comp_apply]
  split
  · rw [routesOf_insert foreign]
    rfl
  · rfl

end Groups

section Handlers

variable (settings : Settings) (provider : Provider) (round : Round)

private theorem registry_enter (ordinal : Nat) (method : Method) (model : Model)
    (bindings : List Binding) :
    (round.enter provider ordinal method model bindings).1.registry =
      (round.registry.registerExact model (handlerOf provider ordinal method)).2 := by
  unfold enter
  dsimp only
  rcases round.registry.registerExact model (handlerOf provider ordinal method) with
    ⟨fault | matcherId, registry⟩
  · rfl
  · rfl

private theorem growsTo_processMethod (ordinal : Nat) (method : Method) :
    round.registry.GrowsTo
      (round.processMethod settings provider ordinal method).1.registry := by
  unfold processMethod
  dsimp only
  split
  · rw [registry_enter]
    exact round.registry.growsTo_registerExact _ _
  · exact .refl round.registry

private theorem growsTo_processMethods (ordinal : Nat) (methods : List Method) :
    round.registry.GrowsTo
      (processMethods settings provider round ordinal methods).1.registry := by
  induction methods generalizing round ordinal with
  | nil => exact .refl round.registry
  | cons method rest ih =>
      exact (growsTo_processMethod settings provider round ordinal method).trans
        (ih _ (ordinal + 1))

variable {accepted : AcceptedProvider} (foreign : provider.className ≠ accepted.provider.className)
include foreign

private theorem groupsOf_processMethod (ordinal : Nat) (method : Method) :
    groupsOf accepted (round.processMethod settings provider ordinal method).1.registry =
      groupsOf accepted round.registry := by
  have result := processMethod_eq settings round ⟨provider, ordinal, method⟩
  dsimp only at result
  rw [result]
  cases found : Candidate.entrant? settings round.registry ⟨provider, ordinal, method⟩ with
  | none => rfl
  | some entrant =>
      have own := Candidate.candidate_of_offer? (Candidate.entrant?_eq_some_iff.mp found).1
      have owner : (entrant.entry round.registry).owner.className = provider.className := by
        rw [Admission.entry, Admission.handler, own]
        rfl
      dsimp only
      rw [groupsOf_insert (owner ▸ foreign), groupsOf_withBucketFor]

private theorem groupsOf_processMethods (ordinal : Nat) (methods : List Method) :
    groupsOf accepted (processMethods settings provider round ordinal methods).1.registry =
      groupsOf accepted round.registry := by
  induction methods generalizing round ordinal with
  | nil => rfl
  | cons method rest ih =>
      rw [processMethods]
      dsimp only
      rw [ih, groupsOf_processMethod settings provider round foreign]

end Handlers

/-- Whether a round has gone on to another one. -/
structure GoesOn (round later : Round) : Prop where
  declared : round.declared <+: later.declared
  diagnostics : round.reporter.diagnostics <+: later.reporter.diagnostics
  registry : round.registry.GrowsTo later.registry
  /-- What is new among the accepted providers has a class that was not declared before. -/
  accepted : ∃ new, later.accepted = round.accepted ++ new ∧
    ∀ other ∈ new, other.provider.className ∉ round.declared
  groups : ∀ accepted ∈ round.accepted,
    groupsOf accepted later.registry = groupsOf accepted round.registry

namespace GoesOn

private theorem refl (round : Round) : round.GoesOn round where
  declared := List.prefix_rfl
  diagnostics := List.prefix_rfl
  registry := .refl round.registry
  accepted := ⟨[], (List.append_nil _).symm, nofun⟩
  groups := fun _ _ => rfl

private theorem trans {round later last : Round} (first : round.GoesOn later)
    (second : later.GoesOn last) : round.GoesOn last := by
  obtain ⟨new, appended, fresh⟩ := first.accepted
  obtain ⟨newer, appendedLater, fresher⟩ := second.accepted
  refine ⟨first.declared.trans second.declared, first.diagnostics.trans second.diagnostics,
    first.registry.trans second.registry, ⟨new ++ newer, ?_, ?_⟩, ?_⟩
  · rw [appendedLater, appended, List.append_assoc]
  · rw [List.forall_mem_append]
    refine ⟨fresh, ?_⟩
    intro other member known
    exact fresher other member (first.declared.subset known)
  · intro accepted member
    have kept : accepted ∈ later.accepted := appended ▸ List.mem_append_left new member
    rw [second.groups accepted kept, first.groups accepted member]

/-- The routers of a round that has gone on begin with those that were there. -/
theorem map_routerOf_eq {round later : Round} (goesOn : round.GoesOn later) (settings : Settings) :
    round.accepted.map (routerOf settings later.registry) =
      round.accepted.map (routerOf settings round.registry) := by
  apply List.map_congr_left
  intro accepted member
  rw [routerOf, goesOn.groups accepted member]
  rfl

private theorem routers_finish {round later : Round} (goesOn : round.GoesOn later)
    (settings : Settings) :
    (round.finish settings).routers <+: (later.finish settings).routers := by
  obtain ⟨new, appended, _⟩ := goesOn.accepted
  rw [finish, finish, appended, List.map_append, goesOn.map_routerOf_eq]
  exact List.prefix_append _ _

/-- A class that was declared has the router that it had, or still none. -/
theorem router?_finish {round later : Round} (goesOn : round.GoesOn later) (settings : Settings)
    {className : String} (known : className ∈ round.declared) :
    (later.finish settings).router? className = (round.finish settings).router? className := by
  obtain ⟨new, appended, fresh⟩ := goesOn.accepted
  have none : (new.map (routerOf settings later.registry)).find? (·.qualifiedName == className) =
      none := by
    rw [List.find?_eq_none, List.forall_mem_map]
    intro other member same
    have called : other.provider.className = className := beq_iff_eq.mp same
    exact fresh other member (called ▸ known)
  rw [RouterModel.router?, finish, appended, List.map_append, List.find?_append, none,
    Option.or_none, goesOn.map_routerOf_eq]
  rfl

end GoesOn

section Declarations

variable {settings : Settings} {providers : List Provider} {round : Round}

/-- **One declaration.** Its class is new if its handlers are taken in, so that they are foreign to
whatever was accepted before. -/
theorem Settled.goesOn_processProvider (settled : Settled settings providers round)
    (provider : Provider) : round.GoesOn (round.processProvider settings provider) := by
  have diagnostics : round.reporter.diagnostics <+:
      (round.processProvider settings provider).reporter.diagnostics := by
    rw [diagnostics_processProvider]
    exact List.prefix_append _ _
  cases found : round.providerFault? settings provider with
  | some fault =>
      rw [processProvider_of_fault found] at diagnostics ⊢
      exact ⟨List.prefix_append _ _, diagnostics, .refl round.registry,
        ⟨[], (List.append_nil _).symm, nofun⟩, fun _ _ => rfl⟩
  | none =>
      obtain ⟨declared, registry, accepted⟩ := processProvider_of_none found
      have counts := (providerFault?_eq_none_iff settled.declared provider).mp found
      rw [Provider.IsEffective, ← settled.declared] at counts
      refine ⟨declared ▸ List.prefix_append _ _, diagnostics, ?_, ⟨_, accepted, ?_⟩, ?_⟩
      · rw [registry]
        exact growsTo_processMethods settings provider (round.declare provider) 0 _
      · intro other new
        split at new
        · exact absurd new List.not_mem_nil
        · rw [List.mem_singleton.mp new]
          exact counts.1
      · intro other member
        have listed := (effective_sublist providers).subset (settled.delegates_eq member).1
        have known : other.provider.className ∈ round.declared := by
          rw [settled.declared]
          exact List.mem_map_of_mem listed
        -- The class is new, so none of its handlers goes to a router that was there before.
        have foreign : provider.className ≠ other.provider.className :=
          fun same => counts.1 (same ▸ known)
        rw [registry, groupsOf_processMethods settings provider _ foreign]
        rfl

/-- **A round goes on** with whatever declarations come later. -/
theorem goesOn_ofManifest (settings : Settings) (first more : List Provider) :
    (ofManifest settings ⟨first⟩).GoesOn (ofManifest settings ⟨first ++ more⟩) := by
  induction more using List.reverseRecOn with
  | nil =>
      rw [List.append_nil]
      exact .refl _
  | append_singleton more last ih =>
      rw [← List.append_assoc, ofManifest_append_singleton]
      exact ih.trans ((settled_ofManifest settings ⟨first ++ more⟩).goesOn_processProvider last)

end Declarations

/-- **The law of extension** for the rounds over declarations alone and with more behind them. -/
structure ExtensionLaw (settings : Settings) (first more : List Provider) : Prop where
  /-- Diagnostics are recorded behind those that are there. -/
  diagnostics :
    (processManifest settings ⟨first⟩).1.reporter.diagnostics <+:
      (processManifest settings ⟨first ++ more⟩).1.reporter.diagnostics
  /-- Whatever a round has come to, what it records about a declaration is about its class. -/
  recorded : ∀ (round : Round) (provider : Provider),
    ∃ recorded,
      (round.processProvider settings provider).reporter.diagnostics =
          round.reporter.diagnostics ++ recorded ∧
        ∀ diagnostic ∈ recorded, diagnostic.element.className = provider.className
  /-- A bucket stays where it is, with its label and its entries in their order. -/
  buckets : ∀ (index : Nat) bucket,
    (processManifest settings ⟨first⟩).1.registry.buckets[index]? = some bucket →
      ∃ later,
        (processManifest settings ⟨first ++ more⟩).1.registry.buckets[index]? = some later ∧
          later.id = bucket.id ∧ later.authority = bucket.authority ∧
          later.normalizedPath = bucket.normalizedPath ∧ bucket.entries.Sublist later.entries
  /-- The routers are those that were there, with others behind them. -/
  routers :
    (processManifest settings ⟨first⟩).2.routers <+:
      (processManifest settings ⟨first ++ more⟩).2.routers
  /-- Every declaration keeps its source, or stays without one. -/
  sources : ∀ provider ∈ first, ∀ types,
    ((processManifest settings ⟨first ++ more⟩).2.router? provider.className).map
        (Source.render types) =
      ((processManifest settings ⟨first⟩).2.router? provider.className).map (Source.render types)

/-- **A round only appends**, whatever was declared and whatever comes later. -/
theorem extension_law (settings : Settings) (first more : List Provider) :
    ExtensionLaw settings first more := by
  have goesOn := goesOn_ofManifest settings first more
  exact {
    diagnostics := goesOn.diagnostics
    recorded := fun round provider =>
      ⟨round.recordedOf settings provider, diagnostics_processProvider settings round provider,
        className_recordedOf settings round provider⟩
    buckets := by
      intro index bucket found
      obtain ⟨later, laterFound, label, entries⟩ := goesOn.registry index bucket found
      simp only [Bucket.label, Bucket.address, Prod.mk.injEq] at label
      exact ⟨later, laterFound, label.1, label.2.1, label.2.2, entries⟩
    routers := goesOn.routers_finish settings
    sources := by
      intro provider member types
      have declared := (settled_ofManifest settings ⟨first⟩).declared
      have known : provider.className ∈ (ofManifest settings ⟨first⟩).declared := by
        rw [declared]
        exact List.mem_map_of_mem member
      exact congrArg (Option.map (Source.render types)) (goesOn.router?_finish settings known) }

end Round

end ContentRouter
