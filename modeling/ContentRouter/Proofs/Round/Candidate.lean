import Mathlib.Data.List.Induction
import Mathlib.Data.List.Nodup
import ContentRouter.Proofs.Routing.Run
import ContentRouter.Round.Basic

/-!
# Candidates and their admission

What a manifest offers, said without a round. A declaration is *effective* if no earlier one has its
class and its authority can stand in a URI. The methods of the effective declarations are the
candidates, in the order of the manifest. A candidate has an offer if its template forms a model and
its parameters can be bound, and is admitted if no admitted one before it serves the same requests
for the same operation.

`admissions` is the list that this rule leads to. Candidates that come later neither add to what was
admitted before nor take from it, so that whether a candidate is admitted depends on those before it
only (`mem_map_handler_admissions_iff`).
-/

namespace ContentRouter

/-- A handler method where a manifest declares it. -/
structure Candidate where
  provider : Provider
  /-- The place of the method in its declaration. -/
  ordinal : Nat
  method : Method
  deriving DecidableEq, Repr

/-- A candidate with its model and its bindings. -/
structure Admission where
  candidate : Candidate
  model : Model
  bindings : List Binding
  deriving DecidableEq, Repr

namespace Candidate

/-- The handler of a candidate. -/
def handler (candidate : Candidate) : Handler :=
  Round.handlerOf candidate.provider candidate.ordinal candidate.method

/-- What tells candidates of one round apart: the class and the place in its declaration. -/
def place (candidate : Candidate) : String × Nat :=
  (candidate.provider.className, candidate.ordinal)

/-- A handler tells the class and the ordinal of its candidate. -/
theorem place_eq_of_handler_eq {candidate other : Candidate}
    (same : candidate.handler = other.handler) : candidate.place = other.place :=
  Prod.ext (congrArg Handler.className same) (congrArg Handler.ordinal same)

end Candidate

namespace Admission

/-- The handler that is admitted. -/
def handler (admission : Admission) : Handler := admission.candidate.handler

/-- The call on the registry that an admission leads to. -/
def call (admission : Admission) : Call := .registerExact admission.model admission.handler

/-- The entry of an admission in a registry. -/
def entry (registry : Registry) (admission : Admission) : Registration :=
  ⟨admission.model.withMatcherId (registry.idFor admission.model), admission.handler⟩

/-- The delegate of an admission, with the id from a registry. -/
def delegate (registry : Registry) (admission : Admission) : Delegate where
  handler := admission.handler
  returnType := admission.candidate.method.returnType
  template := admission.candidate.method.template
  matcherId := registry.idFor admission.model
  bindings := admission.bindings

/-- Whether an admission serves the requests of another one for the same operation. -/
def forestalls (earlier later : Admission) : Bool :=
  earlier.handler.operation == later.handler.operation && earlier.model.fullyEquals later.model

/-- An admission leaves room for another one if they differ in operation or are not fully equal. -/
theorem forestalls_eq_false_iff (earlier later : Admission) :
    earlier.forestalls later = false ↔
      (earlier.handler.operation = later.handler.operation →
        earlier.model.fullyEquals later.model = false) := by
  rw [← Bool.not_eq_true, forestalls, Bool.and_eq_true, beq_iff_eq, not_and, Bool.not_eq_true]

end Admission

section Admitting

variable (settings : Settings)

/-- What a candidate has to offer if its template forms a model and its parameters can be bound. -/
def Candidate.offer? (candidate : Candidate) : Option Admission :=
  match settings.buildModel candidate.provider.authority candidate.method.template with
  | .error _ => none
  | .ok model =>
      match bindParameters settings.types model candidate.method.parameters with
      | .error _ => none
      | .ok bound => some ⟨candidate, model, bound.bindings⟩

/-- The admission of a candidate behind those that were admitted. -/
def Candidate.admission? (admitted : List Admission) (candidate : Candidate) : Option Admission :=
  (candidate.offer? settings).filter fun offer => !admitted.any (·.forestalls offer)

/-- What is admitted of some candidates behind those that were admitted. -/
def admissionsAfter : List Admission → List Candidate → List Admission
  | _, [] => []
  | admitted, candidate :: rest =>
      let new := (candidate.admission? settings admitted).toList
      new ++ admissionsAfter (admitted ++ new) rest

/-- What is admitted of some candidates. -/
def admissions (candidates : List Candidate) : List Admission :=
  admissionsAfter settings [] candidates

variable {settings}

/-- A candidate offers what its template and its parameters amount to, if both are in order. -/
theorem Candidate.offer?_eq_some_iff {candidate : Candidate} {offer : Admission} :
    candidate.offer? settings = some offer ↔
      ∃ bound,
        settings.buildModel candidate.provider.authority candidate.method.template =
            .ok offer.model ∧
          bindParameters settings.types offer.model candidate.method.parameters = .ok bound ∧
          offer = ⟨candidate, offer.model, bound.bindings⟩ := by
  unfold Candidate.offer?
  constructor
  · intro offered
    split at offered
    · cases offered
    · rename_i model built
      split at offered
      · cases offered
      · rename_i bound parameters
        cases offered
        exact ⟨bound, built, parameters, rfl⟩
  · rintro ⟨bound, built, parameters, same⟩
    simp only [built, parameters]
    rw [same]

/-- An offer is that of its own candidate. -/
theorem Candidate.candidate_of_offer? {candidate : Candidate} {offer : Admission}
    (offered : candidate.offer? settings = some offer) : offer.candidate = candidate := by
  obtain ⟨bound, _, _, same⟩ := Candidate.offer?_eq_some_iff.mp offered
  exact congrArg Admission.candidate same

/-- The model of an offer has the template of its method and the authority of its provider. -/
theorem Candidate.model_of_offer? {candidate : Candidate} {offer : Admission}
    (offered : candidate.offer? settings = some offer) :
    offer.model.text = candidate.method.template ∧
      offer.model.authority = candidate.provider.authority := by
  obtain ⟨_, built, _, _⟩ := Candidate.offer?_eq_some_iff.mp offered
  obtain ⟨template, _, same⟩ := Model.eq_of_build _ _ _ _ _ built
  rw [same]
  exact ⟨rfl, rfl⟩

/-- An offered model has no id yet. -/
theorem Candidate.matcherId_of_offer? {candidate : Candidate} {offer : Admission}
    (offered : candidate.offer? settings = some offer) : offer.model.matcherId = none := by
  obtain ⟨_, built, _, _⟩ := Candidate.offer?_eq_some_iff.mp offered
  obtain ⟨template, _, same⟩ := Model.eq_of_build _ _ _ _ _ built
  rw [same]

/-- The model of an offer was built from a template. -/
theorem Candidate.isBuilt_of_offer? {candidate : Candidate} {offer : Admission}
    (offered : candidate.offer? settings = some offer) : offer.model.IsBuilt := by
  obtain ⟨_, built, _, _⟩ := Candidate.offer?_eq_some_iff.mp offered
  exact Model.isBuilt_of_build _ _ _ _ _ built

/-- A candidate is admitted with its offer exactly if no earlier admission forestalls it. -/
theorem Candidate.admission?_eq_some_iff {admitted : List Admission} {candidate : Candidate}
    {admission : Admission} :
    candidate.admission? settings admitted = some admission ↔
      candidate.offer? settings = some admission ∧
        ∀ earlier ∈ admitted, earlier.forestalls admission = false := by
  rw [admission?, Option.filter_eq_some_iff, Bool.not_eq_true', List.any_eq_false]
  simp only [Bool.not_eq_true]

/-- No candidates, no admissions. -/
@[simp]
theorem admissionsAfter_nil (admitted : List Admission) :
    admissionsAfter settings admitted [] = [] := rfl

/-- The first candidate is decided by the earlier admissions, and the others behind it. -/
theorem admissionsAfter_cons (admitted : List Admission) (candidate : Candidate)
    (rest : List Candidate) :
    admissionsAfter settings admitted (candidate :: rest) =
      (candidate.admission? settings admitted).toList ++
        admissionsAfter settings (admitted ++ (candidate.admission? settings admitted).toList)
          rest := rfl

private theorem admissionsAfter_append (admitted : List Admission) (first second : List Candidate) :
    admissionsAfter settings admitted (first ++ second) =
      admissionsAfter settings admitted first ++
        admissionsAfter settings (admitted ++ admissionsAfter settings admitted first) second := by
  induction first generalizing admitted with
  | nil => rw [List.nil_append, admissionsAfter_nil, List.nil_append, List.append_nil]
  | cons candidate rest ih =>
      rw [List.cons_append, admissionsAfter_cons, admissionsAfter_cons, ih, List.append_assoc,
        List.append_assoc]

/-- Later candidates leave what was admitted and add to it behind. -/
theorem admissions_append (first second : List Candidate) :
    admissions settings (first ++ second) =
      admissions settings first ++
        admissionsAfter settings (admissions settings first) second :=
  admissionsAfter_append [] first second

/-- An admission is the offer of one of the candidates. -/
theorem mem_admissionsAfter {admitted : List Admission} {candidates : List Candidate}
    {admission : Admission} (member : admission ∈ admissionsAfter settings admitted candidates) :
    admission.candidate ∈ candidates ∧
      admission.candidate.offer? settings = some admission := by
  induction candidates generalizing admitted with
  | nil => exact absurd member List.not_mem_nil
  | cons candidate rest ih =>
      rw [admissionsAfter_cons] at member
      rcases List.mem_append.mp member with new | later
      · obtain ⟨offered, _⟩ := Candidate.admission?_eq_some_iff.mp (Option.mem_toList.mp new)
        rw [Candidate.candidate_of_offer? offered]
        exact ⟨List.mem_cons_self, offered⟩
      · exact ⟨List.mem_cons_of_mem _ (ih later).1, (ih later).2⟩

/-- The model of an admission has the authority of its provider. -/
theorem authority_of_mem_admissionsAfter {admitted : List Admission} {candidates : List Candidate}
    {admission : Admission} (member : admission ∈ admissionsAfter settings admitted candidates) :
    admission.model.authority = admission.candidate.provider.authority :=
  (Candidate.model_of_offer? (mem_admissionsAfter member).2).2

/-- Candidates are admitted in their order. -/
theorem map_candidate_admissionsAfter_sublist (admitted : List Admission)
    (candidates : List Candidate) :
    ((admissionsAfter settings admitted candidates).map (·.candidate)).Sublist candidates := by
  induction candidates generalizing admitted with
  | nil => exact List.Sublist.refl []
  | cons candidate rest ih =>
      rw [admissionsAfter_cons, List.map_append]
      cases found : candidate.admission? settings admitted with
      | none => exact (ih _).cons _
      | some admission =>
          obtain ⟨offered, _⟩ := Candidate.admission?_eq_some_iff.mp found
          rw [Option.toList_some, List.map_singleton, Candidate.candidate_of_offer? offered]
          exact (ih _).cons_cons _

/-- What is admitted of earlier candidates was admitted before later ones came. -/
theorem mem_admissions_of_mem {before after : List Candidate} {admission : Admission}
    (distinct : ((before ++ after).map Candidate.place).Nodup)
    (member : admission ∈ admissions settings (before ++ after))
    (early : admission.candidate ∈ before) : admission ∈ admissions settings before := by
  rw [admissions_append] at member
  rcases List.mem_append.mp member with earlier | later
  · exact earlier
  · rw [List.map_append] at distinct
    have late := List.mem_map_of_mem (f := Candidate.place) (mem_admissionsAfter later).1
    exact absurd rfl ((List.nodup_append.mp distinct).2.2 _ (List.mem_map_of_mem early) _ late)

/-- **Whether a candidate is admitted depends on those before it only.** -/
theorem mem_map_handler_admissions_iff {before : List Candidate} {candidate : Candidate}
    {after : List Candidate}
    (distinct : ((before ++ candidate :: after).map Candidate.place).Nodup) :
    candidate.handler ∈ (admissions settings (before ++ candidate :: after)).map Admission.handler ↔
      (candidate.admission? settings (admissions settings before)).isSome = true := by
  rw [List.map_append, List.map_cons, List.nodup_append] at distinct
  obtain ⟨_, fresh, apart⟩ := distinct
  rw [admissions_append, admissionsAfter_cons, List.mem_map]
  constructor
  · rintro ⟨admission, member, same⟩
    have place := Candidate.place_eq_of_handler_eq same
    rcases List.mem_append.mp member with earlier | new
    · exact absurd place (apart _ (List.mem_map_of_mem (mem_admissionsAfter earlier).1) _
        List.mem_cons_self)
    rcases List.mem_append.mp new with own | later
    · rw [Option.isSome_iff_exists]
      exact ⟨admission, Option.mem_toList.mp own⟩
    · have listed := List.mem_map_of_mem (f := Candidate.place) (mem_admissionsAfter later).1
      exact absurd (place ▸ listed) (List.nodup_cons.mp fresh).1
  · intro admitted
    obtain ⟨admission, own⟩ := Option.isSome_iff_exists.mp admitted
    refine ⟨admission, ?_, ?_⟩
    · exact List.mem_append_right _ (List.mem_append_left _ (Option.mem_toList.mpr own))
    · rw [Admission.handler,
        Candidate.candidate_of_offer? (Candidate.admission?_eq_some_iff.mp own).1]

end Admitting

section Declaring

/-- The methods of a provider as candidates, of which the first has the given place. -/
def Provider.candidates (provider : Provider) (ordinal : Nat) (methods : List Method) :
    List Candidate :=
  (methods.zipIdx ordinal).map fun (method, ordinal) => ⟨provider, ordinal, method⟩

/-- No methods, no candidates. -/
@[simp]
theorem Provider.candidates_nil (provider : Provider) (ordinal : Nat) :
    provider.candidates ordinal [] = [] := rfl

/-- The first method has the given ordinal, and the others count on from it. -/
@[simp]
theorem Provider.candidates_cons (provider : Provider) (ordinal : Nat) (method : Method)
    (rest : List Method) :
    provider.candidates ordinal (method :: rest) =
      ⟨provider, ordinal, method⟩ :: provider.candidates (ordinal + 1) rest := by
  rw [candidates, List.zipIdx_cons, List.map_cons]
  rfl

/-- The candidates of a provider are its own. -/
theorem Provider.provider_of_mem_candidates {provider : Provider} {ordinal : Nat}
    {methods : List Method} {candidate : Candidate}
    (member : candidate ∈ provider.candidates ordinal methods) :
    candidate.provider = provider := by
  obtain ⟨_, _, rfl⟩ := List.mem_map.mp member
  rfl

/-- The ordinals of the candidates count the methods. -/
theorem Provider.map_ordinal_candidates (provider : Provider) (ordinal : Nat)
    (methods : List Method) :
    (provider.candidates ordinal methods).map Candidate.ordinal =
      List.range' ordinal methods.length := by
  rw [candidates, List.map_map, ← List.zipIdx_map_snd]
  rfl

variable (settings : Settings)

/-- Whether a declaration counts behind earlier ones. -/
def Provider.IsEffective (earlier : List Provider) (provider : Provider) : Prop :=
  provider.className ∉ earlier.map (·.className) ∧
    Authority.check settings.output.uriScheme provider.authority = .ok ()

instance (earlier : List Provider) (provider : Provider) :
    Decidable (provider.IsEffective settings earlier) :=
  inferInstanceAs (Decidable (_ ∧ _))

/-- The effective declarations among those that follow earlier ones. -/
def effectiveAfter : List Provider → List Provider → List Provider
  | _, [] => []
  | earlier, provider :: rest =>
      (if provider.IsEffective settings earlier then [provider] else []) ++
        effectiveAfter (earlier ++ [provider]) rest

/-- The effective declarations. -/
def effective (providers : List Provider) : List Provider := effectiveAfter settings [] providers

/-- The candidates of declarations, in the order of the manifest. -/
def candidates (providers : List Provider) : List Candidate :=
  (effective settings providers).flatMap fun provider => provider.candidates 0 provider.methods

variable {settings}

private theorem effectiveAfter_append_singleton (earlier providers : List Provider)
    (last : Provider) :
    effectiveAfter settings earlier (providers ++ [last]) =
      effectiveAfter settings earlier providers ++
        if last.IsEffective settings (earlier ++ providers) then [last] else [] := by
  induction providers generalizing earlier with
  | nil => rw [List.nil_append, effectiveAfter, effectiveAfter, effectiveAfter, List.append_nil,
      List.append_nil, List.nil_append]
  | cons provider rest ih =>
      rw [List.cons_append, effectiveAfter, effectiveAfter, ih, List.append_assoc,
        List.append_assoc, List.singleton_append]

/-- Whether a declaration is effective depends on those before it only. -/
theorem effective_append_singleton (providers : List Provider) (last : Provider) :
    effective settings (providers ++ [last]) =
      effective settings providers ++
        if last.IsEffective settings providers then [last] else [] :=
  effectiveAfter_append_singleton [] providers last

/-- Effective declarations keep the order of the manifest. -/
theorem effective_sublist (providers : List Provider) :
    (effective settings providers).Sublist providers := by
  induction providers using List.reverseRecOn with
  | nil => exact List.Sublist.refl []
  | append_singleton providers last ih =>
      rw [effective_append_singleton]
      refine ih.append ?_
      split
      · exact List.Sublist.refl _
      · exact List.nil_sublist _

/-- No two effective declarations are of the same class. -/
theorem map_className_effective_nodup (providers : List Provider) :
    ((effective settings providers).map (·.className)).Nodup := by
  induction providers using List.reverseRecOn with
  | nil => exact List.nodup_nil
  | append_singleton providers last ih =>
      rw [effective_append_singleton, List.map_append]
      split
      · rename_i counts
        refine List.nodup_append.mpr ⟨ih, List.nodup_singleton _, ?_⟩
        intro className member other single same
        rw [List.map_singleton, List.mem_singleton] at single
        refine counts.1 ?_
        rw [← single, ← same]
        exact ((effective_sublist providers).map _).subset member
      · rwa [List.map_nil, List.append_nil]

/-- The authority of an effective declaration is in order. -/
theorem authority_of_mem_effective {providers : List Provider} {provider : Provider}
    (counts : provider ∈ effective settings providers) :
    Authority.check settings.output.uriScheme provider.authority = .ok () := by
  induction providers using List.reverseRecOn with
  | nil => exact absurd counts List.not_mem_nil
  | append_singleton providers last ih =>
      rw [effective_append_singleton] at counts
      rcases List.mem_append.mp counts with earlier | own
      · exact ih earlier
      · split at own
        · rename_i passes
          rw [List.mem_singleton.mp own]
          exact passes.2
        · exact absurd own List.not_mem_nil

/-- Declarations with different classes and lawful authorities all count. -/
theorem effective_eq_self {providers : List Provider}
    (distinct : (providers.map (·.className)).Nodup)
    (lawful : ∀ provider ∈ providers,
      Authority.check settings.output.uriScheme provider.authority = .ok ()) :
    effective settings providers = providers := by
  induction providers using List.reverseRecOn with
  | nil => rfl
  | append_singleton providers last ih =>
      rw [List.map_append, List.map_singleton, List.nodup_append] at distinct
      obtain ⟨earlier, _, apart⟩ := distinct
      have counts : last.IsEffective settings providers := by
        refine ⟨fun known => apart _ known _ (List.mem_singleton_self _) rfl, ?_⟩
        exact lawful last (List.mem_append_right _ (List.mem_singleton_self _))
      rw [effective_append_singleton, if_pos counts, ih earlier]
      exact fun provider member => lawful provider (List.mem_append_left _ member)

/-- Where all declarations count, so do those before the last one, and the last one behind them. -/
theorem effective_append_singleton_eq_self {providers : List Provider} {last : Provider}
    (all : effective settings (providers ++ [last]) = providers ++ [last]) :
    effective settings providers = providers ∧ last.IsEffective settings providers := by
  rw [effective_append_singleton] at all
  by_cases counts : last.IsEffective settings providers
  · rw [if_pos counts] at all
    exact ⟨List.append_cancel_right all, counts⟩
  · rw [if_neg counts, List.append_nil] at all
    have fewer := (@effective_sublist settings providers).length_le
    rw [all, List.length_append, List.length_singleton] at fewer
    exact absurd fewer (Nat.not_succ_le_self _)

/-- The class and the place in its declaration tell candidates apart. -/
theorem map_place_candidates_nodup (settings : Settings) (providers : List Provider) :
    ((candidates settings providers).map Candidate.place).Nodup := by
  rw [candidates, List.map_flatMap, List.nodup_flatMap]
  constructor
  · intro provider _
    refine List.Nodup.of_map Prod.snd ?_
    rw [List.map_map]
    change ((provider.candidates 0 provider.methods).map Candidate.ordinal).Nodup
    rw [Provider.map_ordinal_candidates]
    exact List.nodup_range'
  · refine (List.pairwise_map.mp (map_className_effective_nodup providers)).imp ?_
    intro provider other different place first second
    obtain ⟨candidate, member, rfl⟩ := List.mem_map.mp first
    obtain ⟨rival, rivalMember, same⟩ := List.mem_map.mp second
    rw [← Provider.provider_of_mem_candidates member,
      ← Provider.provider_of_mem_candidates rivalMember] at different
    exact different (congrArg Prod.fst same).symm

/-- Admissions have different places, and so different handlers. -/
theorem map_handler_admissions_nodup (providers : List Provider) :
    ((admissions settings (candidates settings providers)).map Admission.handler).Nodup := by
  have kept := @map_candidate_admissionsAfter_sublist settings [] (candidates settings providers)
  have places := (map_place_candidates_nodup settings providers).sublist (kept.map Candidate.place)
  rw [List.map_map] at places
  refine List.Nodup.map_on ?_ (List.Nodup.of_map _ places)
  intro admission admitted other otherAdmitted same
  exact List.inj_on_of_nodup_map places admitted otherAdmitted
    (Candidate.place_eq_of_handler_eq same)

/-- No two admissions have the same handler. -/
theorem admission_eq_of_handler_eq {providers : List Provider} {admission other : Admission}
    (admitted : admission ∈ admissions settings (candidates settings providers))
    (otherAdmitted : other ∈ admissions settings (candidates settings providers))
    (same : admission.handler = other.handler) : admission = other :=
  List.inj_on_of_nodup_map (map_handler_admissions_nodup providers) admitted otherAdmitted same

end Declaring

end ContentRouter
