import ContentRouter.Proofs.Round.Account

/-!
# When a round records an error

A round records an error exactly if it rejects something. Every rejected declaration leaves one, and
so does every rejected handler; a declaration without handlers, an empty segment, an unclaimed
placeholder or an unusual return type are worth a warning only. So whether there is an error tells
whether code is left out (`Round.exists_isError_iff`).
-/

namespace ContentRouter

/-- Whether a declaration of a manifest is rejected: an earlier one has its class, or its authority
cannot stand in a URI. -/
def Manifest.HasRejectedDeclaration (settings : Settings) (manifest : Manifest) : Prop :=
  ∃ earlier provider later, manifest.providers = earlier ++ provider :: later ∧
    (provider.className ∈ earlier.map (·.className) ∨
      ∃ fault, Authority.check settings.output.uriScheme provider.authority = .error fault)

/-- Whether a handler of a manifest is rejected: its declaration counts, and yet no route leads to
it. -/
def Manifest.HasRejectedHandler (settings : Settings) (manifest : Manifest) : Prop :=
  ∃ candidate ∈ candidates settings manifest.providers,
    ¬ (processManifest settings manifest).2.HasRoute candidate.handler

section Declarations

variable {settings : Settings} {providers : List Provider}

private theorem effective_append_singleton_eq_self_iff {last : Provider} :
    effective settings (providers ++ [last]) = providers ++ [last] ↔
      effective settings providers = providers ∧ last.IsEffective settings providers := by
  constructor
  · exact effective_append_singleton_eq_self
  · rintro ⟨all, counts⟩
    rw [effective_append_singleton, if_pos counts, all]

/-- All declarations count if each one does behind those before it. -/
theorem effective_eq_self_iff :
    effective settings providers = providers ↔
      ∀ earlier provider later, providers = earlier ++ provider :: later →
        provider.IsEffective settings earlier := by
  induction providers using List.reverseRecOn with
  | nil => exact iff_of_true rfl fun earlier _ _ split => absurd split (by simp)
  | append_singleton providers last ih =>
      rw [effective_append_singleton_eq_self_iff, ih]
      constructor
      · rintro ⟨before, counts⟩ earlier provider later split
        induction later using List.reverseRecOn with
        | nil =>
            obtain ⟨rfl, same⟩ := List.append_inj' split rfl
            obtain rfl := List.singleton_inj.mp same
            exact counts
        | append_singleton later final =>
            rw [← List.cons_append, ← List.append_assoc] at split
            exact before earlier provider later (List.append_inj' split rfl).1
      · intro every
        refine ⟨?_, every providers last [] rfl⟩
        rintro earlier provider later rfl
        exact every earlier provider (later ++ [last]) (by simp)

private theorem not_isEffective_iff {earlier : List Provider} {provider : Provider} :
    ¬ provider.IsEffective settings earlier ↔
      provider.className ∈ earlier.map (·.className) ∨
        ∃ fault, Authority.check settings.output.uriScheme provider.authority = .error fault := by
  rw [Provider.IsEffective, not_and_or, not_not]
  refine or_congr Iff.rfl ?_
  cases Authority.check settings.output.uriScheme provider.authority with
  | ok => exact iff_of_false (fun refused => refused rfl) nofun
  | error fault => exact iff_of_true nofun ⟨fault, rfl⟩

private theorem hasRejectedDeclaration_iff (manifest : Manifest) :
    manifest.HasRejectedDeclaration settings ↔
      effective settings manifest.providers ≠ manifest.providers := by
  rw [ne_eq, effective_eq_self_iff, Manifest.HasRejectedDeclaration]
  simp only [← not_isEffective_iff, not_forall, exists_prop]

end Declarations

namespace Round

open Diagnostic (Harmless harmless_append)

section Harmless

variable (settings : Settings)

/-- **One handler.** What is recorded about it has no error exactly if it is accepted. -/
theorem harmless_account_iff (round : Round) (candidate : Candidate) :
    Harmless (round.account settings candidate).diagnostics ↔
      (round.account settings candidate).accepted = true := by
  rw [account_eq]
  dsimp only
  rw [harmless_examine_iff, examine_finding, Option.isSome_map]

private theorem harmless_accountsOfMethods_iff (provider : Provider) (round : Round) (ordinal : Nat)
    (methods : List Method) :
    Harmless ((accountsOfMethods settings provider round ordinal methods).flatMap
        (·.diagnostics)) ↔
      ∀ account ∈ accountsOfMethods settings provider round ordinal methods,
        account.accepted = true := by
  induction methods generalizing round ordinal with
  | nil => exact iff_of_true nofun nofun
  | cons method rest ih =>
      rw [accountsOfMethods, List.flatMap_cons, harmless_append, harmless_account_iff, ih,
        List.forall_mem_cons]

/-- **One declaration.** What is recorded about it has no error exactly if it passes and all its
handlers are accepted. -/
theorem harmless_recordedOf_iff (round : Round) (provider : Provider) :
    Harmless (round.recordedOf settings provider) ↔
      round.providerFault? settings provider = none ∧
        ∀ account ∈ round.accountsOfProvider settings provider, account.accepted = true := by
  rw [recordedOf, harmless_append, providerNotices, accountsOfProvider]
  cases round.providerFault? settings provider with
  | some fault =>
      refine iff_of_false ?_ fun passes => Option.some_ne_none fault passes.1
      rintro ⟨harmless, _⟩
      have silent := harmless _ List.mem_cons_self
      cases silent
  | none =>
      dsimp only
      rw [harmless_accountsOfMethods_iff]
      refine and_congr_left fun _ => iff_of_true ?_ rfl
      split
      · exact List.forall_mem_singleton.mpr rfl
      · exact List.forall_mem_nil _

/-- **All declarations.** A round records no error exactly if every declaration counts and every
handler is accepted. -/
theorem harmless_diagnostics_iff (manifest : Manifest) :
    Harmless (ofManifest settings manifest).reporter.diagnostics ↔
      effective settings manifest.providers = manifest.providers ∧
        ∀ account ∈ accounts settings manifest, account.accepted = true := by
  obtain ⟨providers⟩ := manifest
  induction providers using List.reverseRecOn with
  | nil => exact iff_of_true nofun ⟨rfl, nofun⟩
  | append_singleton providers last ih =>
      have declared := (settled_ofManifest settings ⟨providers⟩).declared
      dsimp only at ih declared ⊢
      rw [ofManifest_append_singleton, diagnostics_processProvider, harmless_append, ih,
        harmless_recordedOf_iff, providerFault?_eq_none_iff declared, accounts_append_singleton,
        List.forall_mem_append, effective_append_singleton_eq_self_iff, and_and_and_comm]

end Harmless

/-- Every account is accepted exactly if every candidate has a route. -/
theorem forall_accepted_iff (settings : Settings) (manifest : Manifest) :
    (∀ account ∈ accounts settings manifest, account.accepted = true) ↔
      ∀ candidate ∈ candidates settings manifest.providers,
        (processManifest settings manifest).2.HasRoute candidate.handler := by
  have settled := settled_ofManifest settings manifest
  rw [← List.forall_mem_map (f := Candidate.handler) (P := fun handler =>
      (processManifest settings manifest).2.HasRoute handler), ← map_handler_accounts,
    List.forall_mem_map]
  refine forall₂_congr fun account listed => ?_
  rw [accepted_iff_hasDelegate settings manifest listed]
  exact (settled.hasRoute_iff account.handler).symm

/-- **A round records an error exactly if it rejects a declaration or a handler.** -/
theorem exists_isError_iff (settings : Settings) (manifest : Manifest) :
    (∃ diagnostic ∈ (ofManifest settings manifest).reporter.diagnostics,
        diagnostic.isError = true) ↔
      manifest.HasRejectedDeclaration settings ∨ manifest.HasRejectedHandler settings := by
  have harmless := harmless_diagnostics_iff settings manifest
  rw [forall_accepted_iff, Diagnostic.Harmless] at harmless
  rw [hasRejectedDeclaration_iff, Manifest.HasRejectedHandler, ← not_iff_not]
  simpa only [not_or, not_exists, not_and, not_not, Bool.not_eq_true] using harmless

end Round

end ContentRouter
