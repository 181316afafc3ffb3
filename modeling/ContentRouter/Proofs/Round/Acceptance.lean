import ContentRouter.Proofs.Round.Routers

/-!
# Which handlers a round accepts

A round accepts a candidate exactly if its template forms a model, its parameters can be bound, and
no candidate accepted before it has the same operation and a fully equal template. A declaration
that is not effective leaves one error, and a handler that is refused leaves at least one
(`Round.acceptance_law`).
-/

namespace ContentRouter

/-- Whether a router leads to a handler. -/
def RouterModel.HasRoute (model : RouterModel) (handler : Handler) : Prop :=
  ∃ router ∈ model.routers, ∃ route ∈ router.routes, route.delegate.handler = handler

namespace Round

/-- Whether a round has a handler among its delegates. -/
def HasDelegate (round : Round) (handler : Handler) : Prop :=
  ∃ accepted ∈ round.accepted, ∃ delegate ∈ accepted.delegates, delegate.handler = handler

/-- Whether the registry of a round has an entry of a handler. -/
def HasEntry (round : Round) (handler : Handler) : Prop :=
  ∃ entry ∈ round.registry.entries, entry.owner = handler

section Accepted

variable {settings : Settings} {providers : List Provider} {round : Round}

/-- An admission is among the delegates of its provider. -/
theorem Settled.exists_accepted (settled : Settled settings providers round)
    {admission : Admission}
    (admitted : admission ∈ admissions settings (candidates settings providers)) :
    ∃ accepted ∈ round.accepted, accepted.provider = admission.candidate.provider ∧
      admission.delegate round.registry ∈ accepted.delegates := by
  have own : admission.delegate round.registry ∈
      ((admissions settings (candidates settings providers)).filter
        (·.candidate.provider = admission.candidate.provider)).map (·.delegate round.registry) :=
    List.mem_map_of_mem (List.mem_filter.mpr ⟨admitted, decide_eq_true rfl⟩)
  rw [settled.accepted]
  refine ⟨⟨admission.candidate.provider, _⟩, ?_, rfl, own⟩
  refine List.mem_filterMap.mpr ⟨_, provider_mem_of_mem_admissions admitted, ?_⟩
  rw [acceptedOf]
  exact if_neg (fun none => List.ne_nil_of_mem own (List.isEmpty_iff.mp none))

/-- The delegates of a settled round are those of its admissions. -/
theorem Settled.hasDelegate_iff (settled : Settled settings providers round) (handler : Handler) :
    round.HasDelegate handler ↔
      handler ∈ (admissions settings (candidates settings providers)).map Admission.handler := by
  rw [HasDelegate, List.mem_map]
  constructor
  · rintro ⟨accepted, member, delegate, inside, rfl⟩
    rw [(settled.delegates_eq member).2] at inside
    obtain ⟨admission, admitted, rfl⟩ := List.mem_map.mp inside
    exact ⟨admission, (List.mem_filter.mp admitted).1, rfl⟩
  · rintro ⟨admission, admitted, rfl⟩
    obtain ⟨accepted, member, _, inside⟩ := settled.exists_accepted admitted
    exact ⟨accepted, member, _, inside, rfl⟩

/-- A candidate that has a delegate was admitted. -/
theorem Settled.admission_of_hasDelegate (settled : Settled settings providers round)
    {candidate : Candidate} (listed : candidate ∈ candidates settings providers)
    (accepted : round.HasDelegate candidate.handler) :
    ∃ admission ∈ admissions settings (candidates settings providers),
      admission.candidate = candidate := by
  obtain ⟨admission, admitted, same⟩ :=
    List.mem_map.mp ((settled.hasDelegate_iff candidate.handler).mp accepted)
  refine ⟨admission, admitted, ?_⟩
  apply List.inj_on_of_nodup_map (map_place_candidates_nodup settings providers)
    (mem_admissionsAfter admitted).1 listed
  exact Candidate.place_eq_of_handler_eq same

private theorem Settled.hasEntry_iff (settled : Settled settings providers round)
    (handler : Handler) :
    round.HasEntry handler ↔
      handler ∈ (admissions settings (candidates settings providers)).map Admission.handler := by
  simp only [HasEntry, settled.represents.entries_perm.mem_iff, List.mem_map,
    exists_exists_and_eq_and]
  rfl

/-- The handlers that routers lead to are those of the delegates. -/
theorem Settled.hasRoute_iff (settled : Settled settings providers round) (handler : Handler) :
    (round.finish settings).HasRoute handler ↔ round.HasDelegate handler := by
  constructor
  · rintro ⟨router, made, route, routed, rfl⟩
    obtain ⟨accepted, member, rfl⟩ := List.mem_map.mp made
    obtain ⟨bucket, _, inside⟩ := (mem_routes_routerOf accepted _ settings).mp routed
    exact ⟨accepted, member, _, delegate_mem_of_mem_routesOf accepted inside, rfl⟩
  · intro delegated
    obtain ⟨admission, admitted, rfl⟩ :=
      List.mem_map.mp ((settled.hasDelegate_iff handler).mp delegated)
    obtain ⟨accepted, member, provider, _⟩ := settled.exists_accepted admitted
    obtain ⟨bucket, listed, inside⟩ :=
      Registry.mem_entries.mp (settled.represents.entry_mem admitted)
    have own : (admission.entry round.registry).owner.className = accepted.provider.className := by
      rw [provider]
      rfl
    have owned : admission.entry round.registry ∈
        (routesOf accepted bucket).map Route.registration := by
      rw [settled.map_registration_routesOf member listed]
      exact List.mem_filter.mpr ⟨inside, beq_iff_eq.mpr own⟩
    obtain ⟨route, routed, same⟩ := List.mem_map.mp owned
    refine ⟨_, List.mem_map_of_mem member, route, ?_, congrArg Registration.owner same⟩
    exact (mem_routes_routerOf accepted _ settings).mpr ⟨bucket, listed, routed⟩

end Accepted

/-- **The law of acceptance** for the round over a manifest. -/
structure AcceptanceLaw (settings : Settings) (manifest : Manifest) : Prop where
  /-- A candidate becomes a delegate exactly if its template forms a model, its parameters can be
  bound, and no delegate that comes before it has its operation and a fully equal template. -/
  delegate_iff : ∀ before candidate after,
    candidates settings manifest.providers = before ++ candidate :: after →
      ((ofManifest settings manifest).HasDelegate candidate.handler ↔
        ∃ model bound,
          settings.buildModel candidate.provider.authority candidate.method.template = .ok model ∧
            bindParameters settings.types model candidate.method.parameters = .ok bound ∧
            ∀ earlier ∈ before, (ofManifest settings manifest).HasDelegate earlier.handler →
              earlier.method.operation = candidate.method.operation →
                ∀ other,
                  settings.buildModel earlier.provider.authority earlier.method.template =
                      .ok other →
                    other.fullyEquals model = false)
  /-- A candidate that becomes a delegate enters the registry with its model, and stands among the
  delegates of its provider with its bindings. -/
  accepted : ∀ candidate ∈ candidates settings manifest.providers,
    (ofManifest settings manifest).HasDelegate candidate.handler →
      ∃ admission, candidate.offer? settings = some admission ∧
        admission.entry (ofManifest settings manifest).registry ∈
          (ofManifest settings manifest).registry.entries ∧
        ∃ accepted ∈ (ofManifest settings manifest).accepted,
          accepted.provider = candidate.provider ∧
            admission.delegate (ofManifest settings manifest).registry ∈ accepted.delegates
  /-- Delegates and owners of entries are the same handlers. -/
  entry_iff : ∀ handler,
    (ofManifest settings manifest).HasEntry handler ↔
      (ofManifest settings manifest).HasDelegate handler
  /-- Delegates and handlers that the router model leads to are the same handlers. -/
  route_iff : ∀ handler,
    (processManifest settings manifest).2.HasRoute handler ↔
      (ofManifest settings manifest).HasDelegate handler
  /-- Only candidates become delegates. -/
  candidate_of_delegate : ∀ handler, (ofManifest settings manifest).HasDelegate handler →
    ∃ candidate ∈ candidates settings manifest.providers, candidate.handler = handler
  /-- A handler becomes a delegate exactly if no error is recorded about it, whatever the round has
  come to. -/
  some_iff : ∀ (round : Round) (provider : Provider) (ordinal : Nat) (method : Method),
    ∃ recorded,
      (round.processMethod settings provider ordinal method).1.reporter.diagnostics =
          round.reporter.diagnostics ++ recorded ∧
        ((round.processMethod settings provider ordinal method).2.isSome = true ↔
          ∀ diagnostic ∈ recorded, diagnostic.isError = false)
  /-- A declaration that is not effective leaves exactly one diagnostic, which is an error. -/
  idle : ∀ earlier provider later, manifest.providers = earlier ++ provider :: later →
    ¬ provider.IsEffective settings earlier →
      ∃ diagnostic,
        (ofManifest settings ⟨earlier ++ [provider]⟩).reporter.diagnostics =
            (ofManifest settings ⟨earlier⟩).reporter.diagnostics ++ [diagnostic] ∧
          diagnostic.isError = true ∧
          (ofManifest settings ⟨earlier ++ [provider]⟩).registry =
            (ofManifest settings ⟨earlier⟩).registry ∧
          (ofManifest settings ⟨earlier ++ [provider]⟩).accepted =
            (ofManifest settings ⟨earlier⟩).accepted

section Law

variable (settings : Settings)

/-- The last declaration is processed after all others. -/
theorem ofManifest_append_singleton (earlier : List Provider) (provider : Provider) :
    ofManifest settings ⟨earlier ++ [provider]⟩ =
      (ofManifest settings ⟨earlier⟩).processProvider settings provider :=
  List.foldl_append

/-- Behind candidates of which some became delegates, a candidate is admitted exactly if none of
these has its operation and a fully equal template. -/
theorem isSome_admission?_iff {providers : List Provider} {round : Round}
    (settled : Settled settings providers round) {before : List Candidate} {candidate : Candidate}
    {after : List Candidate}
    (split : candidates settings providers = before ++ candidate :: after) :
    (candidate.admission? settings (admissions settings before)).isSome = true ↔
      ∃ model bound,
        settings.buildModel candidate.provider.authority candidate.method.template = .ok model ∧
          bindParameters settings.types model candidate.method.parameters = .ok bound ∧
          ∀ earlier ∈ before, round.HasDelegate earlier.handler →
            earlier.method.operation = candidate.method.operation →
              ∀ other,
                settings.buildModel earlier.provider.authority earlier.method.template =
                    .ok other →
                  other.fullyEquals model = false := by
  have distinct := map_place_candidates_nodup settings providers
  rw [Option.isSome_iff_exists]
  constructor
  · rintro ⟨admission, admitted⟩
    obtain ⟨offered, free⟩ := Candidate.admission?_eq_some_iff.mp admitted
    obtain ⟨bound, built, parameters, same⟩ := Candidate.offer?_eq_some_iff.mp offered
    refine ⟨admission.model, bound, built, parameters, ?_⟩
    intro earlier member accepted serves other otherBuilt
    have listed : earlier ∈ candidates settings providers := by
      rw [split]
      exact List.mem_append_left _ member
    -- The delegate was admitted before the candidate came, so it did not forestall it.
    obtain ⟨rival, rivalMember, rfl⟩ := settled.admission_of_hasDelegate listed accepted
    rw [split] at distinct rivalMember
    have apart := free rival (mem_admissions_of_mem distinct rivalMember member)
    obtain ⟨_, rivalBuilt, _, _⟩ :=
      Candidate.offer?_eq_some_iff.mp (mem_admissionsAfter rivalMember).2
    obtain rfl := Except.ok.inj (otherBuilt.symm.trans rivalBuilt)
    apply (Admission.forestalls_eq_false_iff rival admission).mp apart
    rw [same]
    exact serves
  · rintro ⟨model, bound, built, parameters, free⟩
    refine ⟨⟨candidate, model, bound.bindings⟩, Candidate.admission?_eq_some_iff.mpr ⟨?_, ?_⟩⟩
    · exact Candidate.offer?_eq_some_iff.mpr ⟨bound, built, parameters, rfl⟩
    · intro rival member
      obtain ⟨early, offered⟩ := mem_admissionsAfter member
      obtain ⟨_, rivalBuilt, _, _⟩ := Candidate.offer?_eq_some_iff.mp offered
      rw [Admission.forestalls_eq_false_iff]
      intro serves
      refine free rival.candidate early ?_ serves rival.model rivalBuilt
      rw [settled.hasDelegate_iff, split, admissions_append]
      exact List.mem_map_of_mem (List.mem_append_left _ member)

/-- **Which handlers a round accepts**, for every manifest and all settings. -/
theorem acceptance_law (manifest : Manifest) : AcceptanceLaw settings manifest := by
  have settled := settled_ofManifest settings manifest
  exact {
    delegate_iff := by
      intro before candidate after split
      have distinct := map_place_candidates_nodup settings manifest.providers
      rw [split] at distinct
      rw [← isSome_admission?_iff settings settled split, settled.hasDelegate_iff, split]
      exact mem_map_handler_admissions_iff distinct
    accepted := by
      intro candidate listed accepted
      obtain ⟨admission, admitted, rfl⟩ := settled.admission_of_hasDelegate listed accepted
      exact ⟨admission, (mem_admissionsAfter admitted).2, settled.represents.entry_mem admitted,
        settled.exists_accepted admitted⟩
    entry_iff := by
      intro handler
      rw [settled.hasEntry_iff, settled.hasDelegate_iff]
    route_iff := settled.hasRoute_iff
    candidate_of_delegate := by
      intro handler accepted
      rw [settled.hasDelegate_iff] at accepted
      obtain ⟨admission, member, rfl⟩ := List.mem_map.mp accepted
      exact ⟨admission.candidate, (mem_admissionsAfter member).1, rfl⟩
    some_iff := fun round provider ordinal method =>
      processMethod_isSome_iff settings round ⟨provider, ordinal, method⟩
    idle := by
      intro earlier provider later _ idle
      have declared := (settled_ofManifest settings ⟨earlier⟩).declared
      rw [← providerFault?_eq_none_iff declared, ← ne_eq, Option.ne_none_iff_exists'] at idle
      obtain ⟨fault, found⟩ := idle
      rw [ofManifest_append_singleton, processProvider_of_fault found]
      exact ⟨.ofFault (.provider provider.className) fault, diagnostics_record _ _, rfl, rfl, rfl⟩ }

end Law

end Round

end ContentRouter
