import ContentRouter.Proofs.Round.Account
import ContentRouter.Proofs.Round.Conflict

/-!
# What a round does under one authority

Models of different authorities are never fully equal, so that a handler can be forestalled only by
one of its own authority. What is admitted under an authority therefore depends on the declarations
under it alone (`admissions_under`), and so does what is recorded about each of them
(`Round.recordedOf_under`). The classes of the manifest have to be different, since a class that is
declared twice is refused whatever authorities it is declared under.
-/

namespace ContentRouter

section Admitting

variable {settings : Settings} {authority : String}

private theorem Admission.authority_eq_of_forestalls {earlier later : Admission}
    (forestalls : earlier.forestalls later = true) :
    earlier.model.authority = later.model.authority := by
  rw [Admission.forestalls, Bool.and_eq_true] at forestalls
  exact congrArg Prod.fst (Model.address_eq_of_fullyEquals forestalls.2)

/-- Only what was admitted under the authority of a candidate can forestall it. -/
theorem Candidate.admission?_filter {candidate : Candidate}
    (own : candidate.provider.authority = authority) (admitted : List Admission) :
    candidate.admission? settings (admitted.filter (·.model.authority = authority)) =
      candidate.admission? settings admitted := by
  apply Option.ext
  intro offer
  rw [admission?_eq_some_iff, admission?_eq_some_iff]
  refine and_congr_right fun offered => ⟨?_, ?_⟩
  · intro free earlier member
    rw [← Bool.not_eq_true]
    intro forestalls
    have same := Admission.authority_eq_of_forestalls forestalls
    rw [(model_of_offer? offered).2, own] at same
    rw [free earlier (List.mem_filter.mpr ⟨member, decide_eq_true same⟩)] at forestalls
    cases forestalls
  · intro free earlier kept
    exact free earlier (List.mem_filter.mp kept).1

/-- An admission has the authority of its candidate. -/
theorem Candidate.filter_admission? (admitted : List Admission) (candidate : Candidate) :
    (candidate.admission? settings admitted).toList.filter (·.model.authority = authority) =
      if candidate.provider.authority = authority then
        (candidate.admission? settings admitted).toList
      else [] := by
  cases found : candidate.admission? settings admitted with
  | none => simp
  | some admission =>
      have same := (model_of_offer? (admission?_eq_some_iff.mp found).1).2
      simp [same, List.filter_cons]

private theorem admissionsAfter_filter (admitted : List Admission) (candidates : List Candidate) :
    admissionsAfter settings (admitted.filter (·.model.authority = authority))
        (candidates.filter (·.provider.authority = authority)) =
      (admissionsAfter settings admitted candidates).filter (·.model.authority = authority) := by
  induction candidates generalizing admitted with
  | nil => rfl
  | cons candidate rest ih =>
      have onward := ih (admitted ++ (candidate.admission? settings admitted).toList)
      rw [List.filter_append, Candidate.filter_admission?] at onward
      rw [admissionsAfter_cons, List.filter_append, Candidate.filter_admission?, ← onward]
      by_cases own : candidate.provider.authority = authority
      · rw [List.filter_cons_of_pos (by simpa using own), admissionsAfter_cons,
          Candidate.admission?_filter own, if_pos own]
      · rw [List.filter_cons_of_neg (by simpa using own), if_neg own, List.append_nil,
          List.nil_append]

end Admitting

section Declaring

variable {settings : Settings} {providers : List Provider}
  (distinct : (providers.map (·.className)).Nodup)
include distinct

/-- Declarations with different classes count if their authorities are lawful. -/
theorem effective_of_nodup :
    effective settings providers = providers.filter fun provider =>
      Authority.check settings.output.uriScheme provider.authority = .ok () := by
  induction providers using List.reverseRecOn with
  | nil => rfl
  | append_singleton providers last ih =>
      rw [List.map_append, List.nodup_append] at distinct
      obtain ⟨earlier, _, apart⟩ := distinct
      have fresh : last.className ∉ providers.map (·.className) := fun known =>
        apart _ known _ List.mem_cons_self rfl
      rw [effective_append_singleton, List.filter_append, ih earlier]
      by_cases lawful : Authority.check settings.output.uriScheme last.authority = .ok ()
      · rw [if_pos ⟨fresh, lawful⟩]
        simp [lawful]
      · rw [if_neg fun counts => lawful counts.2]
        simp [lawful]

variable (authority : String)

private theorem map_className_under_nodup :
    ((providers.filter (·.authority = authority)).map (·.className)).Nodup :=
  distinct.sublist (List.filter_sublist.map _)

/-- With distinct classes, the effective declarations under an authority are those of the part under
it. -/
theorem effective_under :
    effective settings (providers.filter (·.authority = authority)) =
      (effective settings providers).filter (·.authority = authority) := by
  rw [effective_of_nodup distinct, List.filter_comm,
    effective_of_nodup (map_className_under_nodup distinct authority)]

private theorem candidates_under :
    candidates settings (providers.filter (·.authority = authority)) =
      (candidates settings providers).filter (·.provider.authority = authority) := by
  rw [candidates, effective_under distinct, candidates, flatMap_filter_of_forall]
  intro provider candidate inside
  rw [Provider.provider_of_mem_candidates inside]

/-- **What is admitted under an authority** is what its declarations have admitted by themselves. -/
theorem admissions_under :
    admissions settings (candidates settings (providers.filter (·.authority = authority))) =
      (admissions settings (candidates settings providers)).filter
        (·.model.authority = authority) := by
  rw [candidates_under distinct]
  exact admissionsAfter_filter [] _

end Declaring

namespace Registry.Represents

variable {registry other : Registry} {admitted : List Admission}

/-- A conflict is with the one admission that serves the operation and the same requests. -/
theorem toList_conflict? (represents : registry.Represents admitted)
    (built : ∀ admission ∈ admitted, admission.model.IsBuilt) {model : Model}
    (modelBuilt : model.IsBuilt) (operation : Operation) :
    ((registry.conflict? model operation).map (·.owner)).toList =
      (admitted.filter fun admission =>
        admission.handler.operation == operation && admission.model.fullyEquals model).map
          Admission.handler := by
  have calls : ∀ call ∈ admitted.map Admission.call, call.model.IsBuilt :=
    List.forall_mem_map.mpr built
  have scan := Run.toList_conflict? calls modelBuilt operation
  rw [← represents.run] at scan
  have perm := represents.entries_perm.filter (·.serves model operation)
  rw [← scan, List.filter_map] at perm
  -- There is at most one, so that the order does not matter.
  have one : (admitted.filter fun admission =>
        (admission.entry registry).serves model operation).map (·.entry registry) =
      (registry.conflict? model operation).toList := by
    cases found : registry.conflict? model operation with
    | none =>
        rw [found] at perm
        exact perm.nil_eq.symm
    | some existing =>
        rw [found] at perm
        exact perm.symm.eq_singleton
  rw [Option.toList_map, ← one, List.map_map]
  rfl

/-- Under an authority, conflicts are with handlers under it. -/
theorem map_owner_conflict?_under {authority : String} (represents : registry.Represents admitted)
    (part : other.Represents (admitted.filter (·.model.authority = authority)))
    (built : ∀ admission ∈ admitted, admission.model.IsBuilt) {model : Model}
    (modelBuilt : model.IsBuilt) (own : model.authority = authority) (operation : Operation) :
    (other.conflict? model operation).map (·.owner) =
      (registry.conflict? model operation).map (·.owner) := by
  have partBuilt : ∀ admission ∈ admitted.filter (·.model.authority = authority),
      admission.model.IsBuilt :=
    fun admission kept => built admission (List.mem_filter.mp kept).1
  apply Option.ext
  intro owner
  rw [← Option.mem_toList, ← Option.mem_toList, part.toList_conflict? partBuilt modelBuilt,
    represents.toList_conflict? built modelBuilt, filter_filter_of_imp]
  intro admission _ serves
  have address := Model.address_eq_of_fullyEquals (Bool.and_eq_true_iff.mp serves).2
  exact decide_eq_true ((congrArg Prod.fst address).trans own)

end Registry.Represents

/-- Whether a diagnostic is about the class of a declaration. -/
def Diagnostic.concerns (providers : List Provider) (diagnostic : Diagnostic) : Bool :=
  diagnostic.element.className ∈ providers.map (·.className)

namespace Round

section Recording

variable {settings : Settings} {round other : Round} {admitted : List Admission}
  {authority : String}

/-- All that a conflict tells of the other handler is its owner. -/
theorem conflictErrors_eq (registry : Registry) (element : Element) (model : Model)
    (operation : Operation) :
    conflictErrors registry element model operation =
      (((registry.conflict? model operation).map (·.owner)).map fun owner =>
        Diagnostic.ofFault element
          (.duplicatePath model.text model.authority owner.text)).toList := by
  unfold conflictErrors
  cases registry.conflict? model operation <;> rfl

section Examining

variable (whole : round.registry.Represents admitted)
  (part : other.registry.Represents (admitted.filter (·.model.authority = authority)))
  (built : ∀ admission ∈ admitted, admission.model.IsBuilt)
include whole part built

/-- A handler is found out alike whether other authorities are there or not. -/
theorem examine_under {provider : Provider} (own : provider.authority = authority)
    (method : Method) :
    examine settings other.registry provider method =
      examine settings round.registry provider method := by
  cases made : settings.buildModel provider.authority method.template with
  | error faults =>
      unfold examine
      rw [made]
  | ok model =>
      have isBuilt := Model.isBuilt_of_build _ _ _ _ _ made
      have authorities : model.authority = authority := by
        obtain ⟨_, _, rfl⟩ := Model.eq_of_build _ _ _ _ _ made
        exact own
      have owners := whole.map_owner_conflict?_under part built isBuilt authorities
        method.operation
      unfold examine
      rw [made]
      simp only [conflictErrors_eq, owners]

private theorem account_under (candidate : Candidate)
    (own : candidate.provider.authority = authority) :
    other.account settings candidate = round.account settings candidate := by
  rw [account_eq, account_eq, part.entrant?_eq, whole.entrant?_eq, Candidate.admission?_filter own,
    examine_under whole part built own]

end Examining

private theorem accountsOfMethods_under (whole : round.registry.Represents admitted)
    (part : other.registry.Represents (admitted.filter (·.model.authority = authority)))
    (built : ∀ admission ∈ admitted, admission.model.IsBuilt) {provider : Provider}
    (own : provider.authority = authority) (ordinal : Nat) (methods : List Method) :
    accountsOfMethods settings provider other ordinal methods =
      accountsOfMethods settings provider round ordinal methods := by
  induction methods generalizing round other admitted ordinal with
  | nil => rfl
  | cons method rest ih =>
      let candidate : Candidate := ⟨provider, ordinal, method⟩
      obtain ⟨wholeNext, _⟩ := processMethod_represents settings whole candidate
      obtain ⟨partNext, _⟩ := processMethod_represents settings part candidate
      have kept := @Candidate.filter_admission? settings authority admitted candidate
      rw [if_pos own] at kept
      rw [Candidate.admission?_filter own, ← kept, ← List.filter_append] at partNext
      have onward := ih wholeNext partNext ?_ (ordinal + 1)
      · rw [accountsOfMethods, accountsOfMethods, account_under whole part built candidate own,
          onward]
      · rw [List.forall_mem_append]
        refine ⟨built, ?_⟩
        intro admission new
        have admitted := Candidate.admission?_eq_some_iff.mp (Option.mem_toList.mp new)
        exact Candidate.isBuilt_of_offer? admitted.1

end Recording

section Declarations

variable {settings : Settings}

/-- The registry of the part under an authority represents the admissions under it. -/
theorem Settled.represents_under {providers : List Provider} {authority : String} {round : Round}
    (part : Settled settings (providers.filter (·.authority = authority)) round)
    (distinct : (providers.map (·.className)).Nodup) :
    round.registry.Represents ((admissions settings (candidates settings providers)).filter
      (·.model.authority = authority)) := by
  rw [← admissions_under distinct]
  exact part.represents

/-- A declaration of a new class is kept out only for its authority. -/
theorem providerFault?_of_fresh {round : Round} {provider : Provider}
    (fresh : provider.className ∉ round.declared) :
    round.providerFault? settings provider =
      match Authority.check settings.output.uriScheme provider.authority with
      | .ok () => none
      | .error fault => some fault :=
  if_neg fun known => fresh (List.contains_iff_mem.mp known)

/-- Every diagnostic is about a class that was declared. -/
theorem className_mem_of_mem_diagnostics {providers : List Provider} {diagnostic : Diagnostic}
    (recorded : diagnostic ∈ (ofManifest settings ⟨providers⟩).reporter.diagnostics) :
    diagnostic.element.className ∈ providers.map (·.className) := by
  induction providers using List.reverseRecOn with
  | nil => exact absurd recorded List.not_mem_nil
  | append_singleton providers last ih =>
      rw [ofManifest_append_singleton, diagnostics_processProvider] at recorded
      rw [List.map_append]
      rcases List.mem_append.mp recorded with earlier | new
      · exact List.mem_append_left _ (ih earlier)
      · rw [className_recordedOf settings _ last diagnostic new]
        exact List.mem_append_right _ List.mem_cons_self

/-- Nothing was recorded about a new class. -/
theorem filter_concerns_append_of_fresh {providers : List Provider} {last : Provider}
    (fresh : last.className ∉ providers.map (·.className)) (others : List Provider) :
    (ofManifest settings ⟨providers⟩).reporter.diagnostics.filter (·.concerns (others ++ [last])) =
      (ofManifest settings ⟨providers⟩).reporter.diagnostics.filter (·.concerns others) := by
  apply List.filter_congr
  intro diagnostic recorded
  have apart : diagnostic.element.className ≠ last.className := fun named =>
    fresh (named ▸ className_mem_of_mem_diagnostics recorded)
  simp [Diagnostic.concerns, apart]

section Last

variable {providers : List Provider} {last : Provider}
  (distinct : ((providers ++ [last]).map (·.className)).Nodup)
include distinct

omit settings in
private theorem className_not_mem_of_nodup : last.className ∉ providers.map (·.className) := by
  rw [List.map_append, List.nodup_append] at distinct
  exact fun known => distinct.2.2 _ known _ List.mem_cons_self rfl

/-- **What is recorded about a declaration** is the same whether declarations under other
authorities came before it or not. -/
theorem Settled.recordedOf_under {round other : Round} (whole : Settled settings providers round)
    (part : Settled settings (providers.filter (·.authority = last.authority)) other) :
    other.recordedOf settings last = round.recordedOf settings last := by
  have unknown := className_not_mem_of_nodup distinct
  have fresh : last.className ∉ round.declared := by rwa [whole.declared]
  have partFresh : last.className ∉ other.declared := by
    rw [part.declared]
    exact fun known => unknown ((List.filter_sublist.map _).subset known)
  have earlier : (providers.map (·.className)).Nodup :=
    distinct.sublist ((List.sublist_append_left _ _).map _)
  -- Noting the class leaves both registries as they are.
  have wholeDeclared : (round.declare last).registry.Represents _ := whole.represents
  have partDeclared : (other.declare last).registry.Represents _ := part.represents_under earlier
  have accounts : accountsOfMethods settings last (other.declare last) 0 last.methods =
      accountsOfMethods settings last (round.declare last) 0 last.methods :=
    accountsOfMethods_under wholeDeclared partDeclared
      (fun admission admitted => Candidate.isBuilt_of_offer? (mem_admissionsAfter admitted).2)
      rfl 0 last.methods
  have faults : other.providerFault? settings last = round.providerFault? settings last := by
    rw [providerFault?_of_fresh partFresh, providerFault?_of_fresh fresh]
  unfold recordedOf providerNotices accountsOfProvider
  rw [faults, accounts]

end Last

/-- **What is recorded about declarations under an authority** is what is recorded if there are no
other ones. -/
theorem diagnostics_under {providers : List Provider}
    (distinct : (providers.map (·.className)).Nodup) (authority : String) :
    (ofManifest settings ⟨providers.filter (·.authority = authority)⟩).reporter.diagnostics =
      (ofManifest settings ⟨providers⟩).reporter.diagnostics.filter
        (·.concerns (providers.filter (·.authority = authority))) := by
  -- What is recorded about a declaration depends on those before it, so the induction goes by the
  -- last one.
  induction providers using List.reverseRecOn with
  | nil => rfl
  | append_singleton providers last ih =>
      have unknown := className_not_mem_of_nodup distinct
      have earlier := ih (distinct.sublist ((List.sublist_append_left _ _).map _))
      have own := className_recordedOf settings (ofManifest settings ⟨providers⟩) last
      rw [ofManifest_append_singleton, diagnostics_processProvider, List.filter_append,
        List.filter_append]
      by_cases same : last.authority = authority
      · have part := settled_ofManifest settings ⟨providers.filter (·.authority = authority)⟩
        rw [← same] at part
        have new := (settled_ofManifest settings ⟨providers⟩).recordedOf_under distinct part
        have all : ((ofManifest settings ⟨providers⟩).recordedOf settings last).filter
              (·.concerns (providers.filter (·.authority = authority) ++ [last])) =
            (ofManifest settings ⟨providers⟩).recordedOf settings last := by
          apply List.filter_eq_self.mpr
          intro diagnostic recorded
          simp [Diagnostic.concerns, own diagnostic recorded]
        rw [List.filter_cons_of_pos (by simpa using same), List.filter_nil,
          filter_concerns_append_of_fresh unknown, all, ← earlier, ofManifest_append_singleton,
          diagnostics_processProvider, ← same, new]
      · have none : ((ofManifest settings ⟨providers⟩).recordedOf settings last).filter
            (·.concerns (providers.filter (·.authority = authority))) = [] := by
          apply List.filter_eq_nil_iff.mpr
          intro diagnostic recorded named
          rw [Diagnostic.concerns, own diagnostic recorded, decide_eq_true_eq] at named
          exact unknown ((List.filter_sublist.map _).subset named)
        rw [List.filter_cons_of_neg (by simpa using same), List.filter_nil, List.append_nil, none,
          List.append_nil, earlier]

end Declarations

end Round

end ContentRouter
