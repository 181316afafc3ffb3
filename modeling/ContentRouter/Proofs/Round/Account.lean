import ContentRouter.Proofs.Round.Acceptance

/-!
# What a round records about its handlers

An account tells of one handler whether it became a delegate and what the round recorded while it
was taken in. The accounts of a round follow its course, declaration by declaration and handler by
handler, so that the diagnostics of the round are those of its accounts, with those about whole
declarations between them.

What is recorded about a handler that became a delegate depends on nothing that came before it
(`Round.filter_accepted_accounts`).
-/

namespace ContentRouter

/-- What a round did with a handler. -/
structure Account where
  handler : Handler
  /-- Whether the handler became a delegate. -/
  accepted : Bool
  /-- What was recorded while the handler was taken in. -/
  diagnostics : List Diagnostic
  deriving DecidableEq, Repr

/-- What is noticed about a handler that is admitted. -/
def Admission.notices (settings : Settings) (admission : Admission) : List Diagnostic :=
  let method := admission.candidate.method
  let element := Round.elementOf admission.candidate.provider method
  Round.segmentWarnings element admission.model ++
    (Round.bindingFindings settings.types element admission.model method.parameters).1 ++
    Round.returnWarnings settings.types element method

/-- The account of a handler that is admitted. -/
def Admission.account (settings : Settings) (admission : Admission) : Account where
  handler := admission.handler
  accepted := true
  diagnostics := admission.notices settings

/-- A fault of an element is about the element's class, also if it is that of a parameter. -/
theorem Diagnostic.className_ofFault (element : Element) (fault : Fault) :
    (ofFault element fault).element.className = element.className := by
  unfold ofFault
  dsimp only
  split
  · exact element.className_narrow _
  · rfl

namespace Round

section Notices

variable {settings : Settings}

/-- All that is noticed about an offer are warnings. -/
theorem severity_notices {admission : Admission}
    (offered : admission.candidate.offer? settings = some admission) :
    ∀ diagnostic ∈ admission.notices settings, diagnostic.severity = .warn := by
  obtain ⟨bound, _, parameters, _⟩ := Candidate.offer?_eq_some_iff.mp offered
  rw [Admission.notices, bindingFindings, parameters, List.forall_mem_append,
    List.forall_mem_append, List.forall_mem_map]
  exact ⟨⟨severity_segmentWarnings _ _, fun _ _ => rfl⟩, severity_returnWarnings _ _ _⟩

end Notices

section Accounts

variable (settings : Settings)

/-- The account of the handler that comes next. -/
def account (round : Round) (candidate : Candidate) : Account :=
  let after := round.processMethod settings candidate.provider candidate.ordinal candidate.method
  { handler := candidate.handler
    accepted := after.2.isSome
    diagnostics := after.1.reporter.diagnostics.drop round.reporter.diagnostics.length }

/-- The accounts of handlers, of which the first has the given ordinal. -/
def accountsOfMethods (provider : Provider) : Round → Nat → List Method → List Account
  | _, _, [] => []
  | round, ordinal, method :: rest =>
      round.account settings ⟨provider, ordinal, method⟩ ::
        accountsOfMethods provider (round.processMethod settings provider ordinal method).1
          (ordinal + 1) rest

/-- The accounts of a declaration. One that is passed over has none. -/
def accountsOfProvider (round : Round) (provider : Provider) : List Account :=
  match round.providerFault? settings provider with
  | some _ => []
  | none => accountsOfMethods settings provider (round.declare provider) 0 provider.methods

/-- The accounts of declarations that come next. -/
def accountsOfProviders : Round → List Provider → List Account
  | _, [] => []
  | round, provider :: rest =>
      round.accountsOfProvider settings provider ++
        accountsOfProviders (round.processProvider settings provider) rest

/-- The accounts of the round over a manifest. -/
def accounts (manifest : Manifest) : List Account :=
  accountsOfProviders settings {} manifest.providers

private theorem accountsOfProviders_append (round : Round) (first second : List Provider) :
    accountsOfProviders settings round (first ++ second) =
      accountsOfProviders settings round first ++
        accountsOfProviders settings (first.foldl (processProvider settings) round) second := by
  induction first generalizing round with
  | nil => rfl
  | cons provider rest ih =>
      rw [List.cons_append, accountsOfProviders, accountsOfProviders, ih, List.foldl_cons,
        List.append_assoc]

/-- The last declaration is given account of behind all others. -/
theorem accounts_append_singleton (providers : List Provider) (last : Provider) :
    accounts settings ⟨providers ++ [last]⟩ =
      accounts settings ⟨providers⟩ ++
        (ofManifest settings ⟨providers⟩).accountsOfProvider settings last := by
  rw [accounts, accountsOfProviders_append, accountsOfProviders, accountsOfProviders,
    List.append_nil]
  rfl

end Accounts

section Recorded

variable (settings : Settings)

/-- The account of a candidate, by what its examination in the round finds. -/
theorem account_eq (round : Round) (candidate : Candidate) :
    round.account settings candidate =
      { handler := candidate.handler
        accepted := (candidate.entrant? settings round.registry).isSome
        diagnostics :=
          (examine settings round.registry candidate.provider candidate.method).diagnostics } := by
  rw [account, isSome_processMethod, diagnostics_processMethod, List.drop_left]

/-- The diagnostics of a round grow by those of the accounts. -/
theorem diagnostics_processMethods (provider : Provider) (round : Round) (ordinal : Nat)
    (methods : List Method) :
    (processMethods settings provider round ordinal methods).1.reporter.diagnostics =
      round.reporter.diagnostics ++
        (accountsOfMethods settings provider round ordinal methods).flatMap (·.diagnostics) := by
  induction methods generalizing round ordinal with
  | nil => exact (List.append_nil _).symm
  | cons method rest ih =>
      have first := diagnostics_processMethod settings round ⟨provider, ordinal, method⟩
      rw [processMethods, accountsOfMethods, List.flatMap_cons, account_eq]
      dsimp only at first ⊢
      rw [ih, first, List.append_assoc]

/-- What is recorded about a declaration as a whole: the fault that keeps it out, or that it has no
handlers. -/
def providerNotices (round : Round) (provider : Provider) : List Diagnostic :=
  match round.providerFault? settings provider with
  | some fault => [.ofFault (.provider provider.className) fault]
  | none =>
      if provider.methods.isEmpty then
        [.warning (.provider provider.className) "NoHandlers"
          s!"provider '{provider.className}' declares no handler methods"]
      else []

/-- What is recorded while a declaration is taken in. -/
def recordedOf (round : Round) (provider : Provider) : List Diagnostic :=
  round.providerNotices settings provider ++
    (round.accountsOfProvider settings provider).flatMap (·.diagnostics)

/-- **What is recorded about a declaration** goes behind what was recorded before. -/
theorem diagnostics_processProvider (round : Round) (provider : Provider) :
    (round.processProvider settings provider).reporter.diagnostics =
      round.reporter.diagnostics ++ round.recordedOf settings provider := by
  unfold processProvider recordedOf providerNotices accountsOfProvider
  cases found : round.providerFault? settings provider with
  | some fault =>
      rw [List.flatMap_nil, List.append_nil]
      exact diagnostics_record _ _
  | none =>
      dsimp only
      by_cases none : provider.methods.isEmpty = true
      · rw [if_pos none, if_pos none, List.isEmpty_iff.mp none, accountsOfMethods,
          List.flatMap_nil, List.append_nil]
        exact diagnostics_record _ _
      · have methods := diagnostics_processMethods settings provider (round.declare provider) 0
          provider.methods
        rw [if_neg none, if_neg none, List.nil_append]
        split
        · exact methods
        · exact methods

/-- Nothing is recorded about a declaration as a whole if it passes and has handlers. -/
theorem providerNotices_eq_nil {round : Round} {provider : Provider}
    (passes : round.providerFault? settings provider = none) (handlers : provider.methods ≠ []) :
    round.providerNotices settings provider = [] := by
  rw [providerNotices, passes]
  exact if_neg fun none => handlers (List.isEmpty_iff.mp none)

section Examined

variable {P : Diagnostic → Prop} (registry : Registry) {provider : Provider} {method : Method}

/-- Whatever an examination reports is a fault of the template, the conflict, a fault of the
parameters, or a warning. -/
theorem forall_mem_examine_of
    (unbuilt : ∀ faults, settings.buildModel provider.authority method.template = .error faults →
      ∀ fault ∈ faults, P (.ofFault (elementOf provider method) fault))
    (conflict : ∀ model existing,
      P (.ofFault (elementOf provider method) (Registry.duplicatePath model existing)))
    (unbound : ∀ model faults,
      bindParameters settings.types model method.parameters = .error faults →
      ∀ fault ∈ faults, P (.ofFault (elementOf provider method) fault))
    (warning : ∀ kind message, P (.warning (elementOf provider method) kind message)) :
    ∀ diagnostic ∈ (examine settings registry provider method).diagnostics, P diagnostic := by
  unfold examine
  cases built : settings.buildModel provider.authority method.template with
  | error found => exact List.forall_mem_map.mpr (unbuilt found built)
  | ok model =>
      dsimp only
      rw [List.forall_mem_append, List.forall_mem_append, List.forall_mem_append]
      refine ⟨⟨⟨?_, ?_⟩, ?_⟩, ?_⟩
      · unfold segmentWarnings
        split
        · exact List.forall_mem_singleton.mpr (warning _ _)
        · exact nofun
      · unfold conflictErrors
        split
        · exact List.forall_mem_singleton.mpr (conflict _ _)
        · exact nofun
      · unfold bindingFindings
        split
        · exact List.forall_mem_map.mpr fun _ _ => warning _ _
        · rename_i found refused
          exact List.forall_mem_map.mpr (unbound model found refused)
      · unfold returnWarnings
        dsimp only
        split
        · exact nofun
        · exact List.forall_mem_singleton.mpr (warning _ _)

/-- Whatever an examination reports is a fault of the handler or a warning about it. -/
theorem forall_mem_examine (fault : ∀ fault, P (.ofFault (elementOf provider method) fault))
    (warning : ∀ kind message, P (.warning (elementOf provider method) kind message)) :
    ∀ diagnostic ∈ (examine settings registry provider method).diagnostics, P diagnostic :=
  forall_mem_examine_of settings registry (fun _ _ _ _ => fault _) (fun _ _ => fault _)
    (fun _ _ _ _ _ => fault _) warning

end Examined

section Elements

variable {P : Diagnostic → Prop} {provider : Provider}
  (fault : ∀ (element : Element) fault, element.className = provider.className →
    P (.ofFault element fault))
  (warning : ∀ (element : Element) kind message, element.className = provider.className →
    P (.warning element kind message))
include fault warning

private theorem forall_mem_accountsOfMethods (round : Round) (ordinal : Nat)
    (methods : List Method) :
    ∀ diagnostic ∈
        (accountsOfMethods settings provider round ordinal methods).flatMap (·.diagnostics),
      P diagnostic := by
  induction methods generalizing round ordinal with
  | nil => exact nofun
  | cons method rest ih =>
      rw [accountsOfMethods, List.flatMap_cons, account_eq, List.forall_mem_append]
      refine ⟨?_, ih _ _⟩
      exact forall_mem_examine settings round.registry (fun _ => fault _ _ rfl)
        (fun _ _ => warning _ _ _ rfl)

/-- What is recorded while a declaration is taken in are faults and warnings about its class and its
methods. -/
theorem forall_mem_recordedOf (round : Round) :
    ∀ diagnostic ∈ round.recordedOf settings provider, P diagnostic := by
  rw [recordedOf, List.forall_mem_append]
  constructor
  · unfold providerNotices
    split
    · exact List.forall_mem_singleton.mpr (fault _ _ rfl)
    · split
      · exact List.forall_mem_singleton.mpr (warning _ _ _ rfl)
      · exact nofun
  · unfold accountsOfProvider
    split
    · exact nofun
    · exact forall_mem_accountsOfMethods settings fault warning _ 0 provider.methods

end Elements

/-- **What is recorded while a declaration is taken in is about its class.** -/
theorem className_recordedOf (round : Round) (provider : Provider) :
    ∀ diagnostic ∈ round.recordedOf settings provider,
      diagnostic.element.className = provider.className := by
  apply forall_mem_recordedOf
  · intro element fault same
    rw [Diagnostic.className_ofFault, same]
  · exact fun _ _ _ same => same

/-- What the accounts tell was recorded in their order. -/
theorem diagnostics_accounts_sublist (manifest : Manifest) :
    ((accounts settings manifest).flatMap (·.diagnostics)).Sublist
      (ofManifest settings manifest).reporter.diagnostics := by
  obtain ⟨providers⟩ := manifest
  induction providers using List.reverseRecOn with
  | nil => exact List.Sublist.refl []
  | append_singleton providers last ih =>
      rw [accounts_append_singleton, List.flatMap_append, ofManifest_append_singleton,
        diagnostics_processProvider, recordedOf]
      exact ih.append (List.sublist_append_right _ _)

end Recorded

section Effective

variable {settings : Settings}

/-- Where every declaration counts and has a handler, all that is recorded is what the accounts
tell. -/
theorem diagnostics_ofManifest {providers : List Provider}
    (all : effective settings providers = providers)
    (some : ∀ provider ∈ providers, provider.methods ≠ []) :
    (ofManifest settings ⟨providers⟩).reporter.diagnostics =
      (accounts settings ⟨providers⟩).flatMap (·.diagnostics) := by
  induction providers using List.reverseRecOn with
  | nil => rfl
  | append_singleton providers last ih =>
      obtain ⟨before, counts⟩ := effective_append_singleton_eq_self all
      have declared := (settled_ofManifest settings ⟨providers⟩).declared
      have passes := (providerFault?_eq_none_iff declared last).mpr counts
      have handlers := some last (List.mem_append_right _ List.mem_cons_self)
      rw [accounts_append_singleton, List.flatMap_append, ofManifest_append_singleton,
        diagnostics_processProvider, recordedOf, providerNotices_eq_nil settings passes handlers,
        List.nil_append]
      rw [ih before fun provider member => some provider (List.mem_append_left _ member)]

end Effective

section Accepted

variable {settings : Settings}

/-- An entrant has no conflict, so that all that is found about it are its notices. -/
theorem diagnostics_examine {registry : Registry} {candidate : Candidate} {entrant : Admission}
    (found : candidate.entrant? settings registry = some entrant) :
    (examine settings registry candidate.provider candidate.method).diagnostics =
      entrant.notices settings := by
  obtain ⟨offered, free⟩ := Candidate.entrant?_eq_some_iff.mp found
  obtain rfl := Candidate.candidate_of_offer? offered
  obtain ⟨bound, built, _, _⟩ := Candidate.offer?_eq_some_iff.mp offered
  have conflict (element : Element) :
      conflictErrors registry element entrant.model entrant.candidate.method.operation = [] := by
    rw [← List.isEmpty_iff, isEmpty_conflictErrors_iff]
    exact free
  rw [examine_of_build settings registry _ built, conflict, List.append_nil]
  rfl

section Steps

variable {round : Round} {admitted : List Admission}

private theorem filter_accepted_account (represents : round.registry.Represents admitted)
    (candidate : Candidate) :
    [round.account settings candidate].filter (·.accepted) =
      (candidate.admission? settings admitted).toList.map (·.account settings) := by
  rw [account_eq]
  cases found : candidate.entrant? settings round.registry with
  | none =>
      rw [represents.entrant?_eq] at found
      rw [found]
      rfl
  | some entrant =>
      have own := Candidate.candidate_of_offer? (Candidate.entrant?_eq_some_iff.mp found).1
      have notices := diagnostics_examine found
      rw [represents.entrant?_eq] at found
      rw [found, notices, ← own]
      rfl

private theorem filter_accepted_accountsOfMethods (represents : round.registry.Represents admitted)
    (provider : Provider) (ordinal : Nat) (methods : List Method) :
    (accountsOfMethods settings provider round ordinal methods).filter (·.accepted) =
      (admissionsAfter settings admitted (provider.candidates ordinal methods)).map
        (·.account settings) := by
  induction methods generalizing round admitted ordinal with
  | nil => rfl
  | cons method rest ih =>
      obtain ⟨after, _⟩ := processMethod_represents settings represents ⟨provider, ordinal, method⟩
      rw [accountsOfMethods, ← List.singleton_append, List.filter_append,
        filter_accepted_account represents, ih after, Provider.candidates_cons,
        admissionsAfter_cons, List.map_append]

private theorem map_handler_accountsOfMethods (provider : Provider) (round : Round) (ordinal : Nat)
    (methods : List Method) :
    (accountsOfMethods settings provider round ordinal methods).map (·.handler) =
      (provider.candidates ordinal methods).map Candidate.handler := by
  induction methods generalizing round ordinal with
  | nil => rfl
  | cons method rest ih =>
      rw [accountsOfMethods, List.map_cons, ih, Provider.candidates_cons, List.map_cons]
      rfl

end Steps

section Declarations

variable {round : Round} {providers : List Provider} {provider : Provider}
  (declared : round.declared = providers.map (·.className))
include declared

private theorem accountsOfProvider_of_isEffective
    (counts : provider.IsEffective settings providers) :
    round.accountsOfProvider settings provider =
      accountsOfMethods settings provider (round.declare provider) 0 provider.methods := by
  rw [accountsOfProvider, (providerFault?_eq_none_iff declared provider).mpr counts]

private theorem accountsOfProvider_of_not_isEffective
    (idle : ¬ provider.IsEffective settings providers) :
    round.accountsOfProvider settings provider = [] := by
  rw [← providerFault?_eq_none_iff declared, ← ne_eq, Option.ne_none_iff_exists'] at idle
  obtain ⟨fault, found⟩ := idle
  rw [accountsOfProvider, found]

end Declarations

variable (settings) (manifest : Manifest)

/-- There is one account for every candidate. -/
theorem map_handler_accounts :
    (accounts settings manifest).map (·.handler) =
      (candidates settings manifest.providers).map Candidate.handler := by
  obtain ⟨providers⟩ := manifest
  induction providers using List.reverseRecOn with
  | nil => rfl
  | append_singleton providers last ih =>
      have declared := (settled_ofManifest settings ⟨providers⟩).declared
      dsimp only at ih declared ⊢
      rw [accounts_append_singleton, List.map_append, ih]
      by_cases counts : last.IsEffective settings providers
      · rw [accountsOfProvider_of_isEffective declared counts, map_handler_accountsOfMethods,
          candidates_of_isEffective counts, List.map_append]
      · rw [accountsOfProvider_of_not_isEffective declared counts,
          candidates_of_not_isEffective counts, List.map_nil, List.append_nil]

/-- **The accounts of the handlers that became delegates** are those of the admissions. -/
theorem filter_accepted_accounts :
    (accounts settings manifest).filter (·.accepted) =
      (admissions settings (candidates settings manifest.providers)).map (·.account settings) := by
  obtain ⟨providers⟩ := manifest
  induction providers using List.reverseRecOn with
  | nil => rfl
  | append_singleton providers last ih =>
      have settled := settled_ofManifest settings ⟨providers⟩
      have declared := settled.declared
      dsimp only at ih declared ⊢
      rw [accounts_append_singleton, List.filter_append, ih]
      by_cases counts : last.IsEffective settings providers
      · have represents : ((ofManifest settings ⟨providers⟩).declare last).registry.Represents
            (admissions settings (candidates settings providers)) := settled.represents
        rw [accountsOfProvider_of_isEffective declared counts,
          filter_accepted_accountsOfMethods represents, candidates_of_isEffective counts,
          admissions_append, List.map_append]
      · rw [accountsOfProvider_of_not_isEffective declared counts,
          candidates_of_not_isEffective counts, List.filter_nil, List.append_nil]

/-- An account tells truly whether its handler is among the delegates. -/
theorem accepted_iff_hasDelegate {account : Account}
    (listed : account ∈ accounts settings manifest) :
    account.accepted = true ↔ (ofManifest settings manifest).HasDelegate account.handler := by
  have delegates := (settled_ofManifest settings manifest).hasDelegate_iff account.handler
  have accepted := filter_accepted_accounts settings manifest
  have distinct : ((accounts settings manifest).map (·.handler)).Nodup := by
    rw [map_handler_accounts]
    refine List.Nodup.of_map (fun handler => (handler.className, handler.ordinal)) ?_
    rw [List.map_map]
    exact map_place_candidates_nodup settings manifest.providers
  rw [delegates, List.mem_map]
  constructor
  · intro passed
    have member := List.mem_filter.mpr ⟨listed, passed⟩
    rw [accepted] at member
    obtain ⟨admission, admitted, rfl⟩ := List.mem_map.mp member
    exact ⟨admission, admitted, rfl⟩
  · rintro ⟨admission, admitted, same⟩
    have own : admission.account settings ∈ (accounts settings manifest).filter (·.accepted) := by
      rw [accepted]
      exact List.mem_map_of_mem admitted
    obtain ⟨inside, passed⟩ := List.mem_filter.mp own
    rw [← List.inj_on_of_nodup_map distinct inside listed same]
    exact passed

end Accepted

end Round

end ContentRouter
