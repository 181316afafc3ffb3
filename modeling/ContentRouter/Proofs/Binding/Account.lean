import Mathlib.Data.List.Count
import ContentRouter.Proofs.Binding.Acceptance
import ContentRouter.Proofs.Template.RoundTrip

/-!
# What becomes of each placeholder

The template says where its placeholders stand, and the annotations of parameters only say which of
them a parameter takes. So a placeholder comes out of binding either in one binding or in one
warning, and where it stands is what the template says, whatever an annotation takes it for
(`placeholder_law`).
-/

namespace ContentRouter

/-- The warning that a binding deserves if the annotation of its parameter takes the placeholder for
the other kind. -/
def Binding.disagreement? (binding : Binding) (parameter : Parameter) : Option BindingWarning :=
  match parameter.roles, binding.supply with
  | [.placeholder declared _], .placeholder placeholder =>
      if placeholder.slot.kind = declared then none
      else some (.mixedUp parameter.name declared placeholder)
  | _, _ => none

namespace Parameter

variable {types : TypeNames} {model : Model} {parameter : Parameter}

private theorem mixUp?_eq : parameter.mixUp? model =
    (parameter.binding types model).disagreement? parameter := by
  rw [mixUp?, Binding.disagreement?, binding, supply, claim?, role?]
  rcases parameter.roles with _ | ⟨role, _ | ⟨second, rest⟩⟩
  · rfl
  · cases role with
    | framework argument => rfl
    | placeholder kind name =>
        dsimp only [Option.bind_some, Role.placeholder?]
        cases model.placeholder? name <;> rfl
  · cases role <;> rfl

private theorem claims_iff_map {name : String} :
    parameter.claims name = true ↔ parameter.claim?.map (·.2) = some name := by
  rw [claims]
  cases parameter.claim? <;> simp

/-- A parameter is bound to a placeholder if its one role names it. -/
theorem supply_eq_placeholder_iff {placeholder : Placeholder} :
    parameter.supply types model = .placeholder placeholder ↔
      parameter.claims placeholder.name = true ∧
        model.placeholder? placeholder.name = some placeholder := by
  rw [claims, claim?, supply]
  cases parameter.role? with
  | none =>
      dsimp only
      split <;> simp
  | some role =>
      cases role with
      | framework argument => simp [Role.placeholder?]
      | placeholder kind name =>
          dsimp only [Option.bind_some, Role.placeholder?, Option.any_some]
          rw [beq_iff_eq]
          constructor
          · intro supplied
            cases found : model.placeholder? name with
            | none =>
                rw [found] at supplied
                cases supplied
            | some other =>
                rw [found] at supplied
                obtain rfl : other = placeholder := Supply.placeholder.inj supplied
                obtain rfl := (Template.mem_of_placeholder? found).2
                exact ⟨rfl, found⟩
          · rintro ⟨rfl, found⟩
            rw [found]
            rfl

private theorem mixUp?_ne_unbound {placeholder : Placeholder} :
    parameter.mixUp? model ≠ some (.unbound placeholder) := by
  intro warned
  obtain ⟨_, _, known⟩ := Option.bind_eq_some_iff.mp warned
  obtain ⟨_, _, found⟩ := Option.bind_eq_some_iff.mp known
  split at found <;> cases found

end Parameter

section Counts

variable {types : TypeNames} {model : Model} {parameters : List Parameter}

/-- Among parameters that can be bound, no two claim the same. -/
theorem nodup_claims (clean : bindingFaults types model parameters = []) :
    (parameters.filterMap fun parameter => parameter.claim?.map (·.2)).Nodup := by
  have fits := bindingFaults_eq_nil_iff.mp clean
  clear clean
  -- A parameter is to be compared with those before it, so the induction goes by the last one.
  induction parameters using List.reverseRecOn with
  | nil => exact List.nodup_nil
  | append_singleton earlier last ih =>
      rw [Template.nodup_filterMap_append_singleton_iff]
      refine ⟨ih fun before parameter after split => ?_, ?_⟩
      · exact fits before parameter (after ++ [last]) (by simp [split])
      · intro name claimed member
        obtain ⟨other, place, otherClaimed⟩ := List.mem_filterMap.mp member
        obtain ⟨kind, roles⟩ := Parameter.claims_iff.mp (Parameter.claims_iff_map.mpr claimed)
        obtain ⟨otherKind, otherRoles⟩ :=
          Parameter.claims_iff.mp (Parameter.claims_iff_map.mpr otherClaimed)
        exact (fits earlier last [] rfl).free kind name (by simp [roles]) other place otherKind
          otherRoles

private theorem countP_claims (clean : bindingFaults types model parameters = []) (name : String) :
    parameters.countP (·.claims name) = if parameters.any (·.claims name) then 1 else 0 := by
  have counted : parameters.countP (·.claims name) =
      (parameters.filterMap fun parameter => parameter.claim?.map (·.2)).count name := by
    rw [List.count_filterMap]
    refine List.countP_congr fun parameter _ => ?_
    rw [Parameter.claims_iff_map, beq_iff_eq]
  have member : name ∈ (parameters.filterMap fun parameter => parameter.claim?.map (·.2)) ↔
      parameters.any (·.claims name) = true := by
    simp only [List.mem_filterMap, List.any_eq_true, Parameter.claims_iff_map]
  rw [counted]
  split
  · rename_i claimed
    exact List.count_eq_one_of_mem (nodup_claims clean) (member.mpr claimed)
  · rename_i unclaimed
    exact List.count_eq_zero_of_not_mem (mt member.mp unclaimed)

variable {placeholder : Placeholder} (declared : placeholder ∈ model.template.placeholders)
include declared

private theorem countP_claims_bindingsOf (clean : bindingFaults types model parameters = []) :
    (bindingsOf types model parameters).bindings.countP (·.claims placeholder.name) =
      if parameters.any (·.claims placeholder.name) then 1 else 0 := by
  have known := Parameter.isSome_placeholder?_iff.mpr ⟨placeholder, declared, rfl⟩
  rw [← countP_claims clean, bindingsOf, List.countP_map]
  refine List.countP_congr fun parameter _ => ?_
  rw [Function.comp_apply, Parameter.claims_binding known]

private theorem any_claims_bindingsOf :
    (bindingsOf types model parameters).bindings.any (·.claims placeholder.name) =
      parameters.any (·.claims placeholder.name) := by
  have known := Parameter.isSome_placeholder?_iff.mpr ⟨placeholder, declared, rfl⟩
  rw [bindingsOf, List.any_map]
  exact List.any_congr rfl fun _ => Parameter.claims_binding known

private theorem count_unbound_bindingsOf (distinct : model.template.placeholders.Nodup) :
    (bindingsOf types model parameters).warnings.count (.unbound placeholder) =
      if parameters.any (·.claims placeholder.name) then 0 else 1 := by
  have mixUps : BindingWarning.unbound placeholder ∉ parameters.filterMap (·.mixUp? model) := by
    intro member
    obtain ⟨parameter, _, warned⟩ := List.mem_filterMap.mp member
    exact Parameter.mixUp?_ne_unbound warned
  have injective : Function.Injective BindingWarning.unbound :=
    fun _ _ => BindingWarning.unbound.inj
  rw [bindingsOf, List.count_append, List.count_eq_zero_of_not_mem mixUps, Nat.zero_add,
    List.count_map_of_injective _ _ injective]
  split
  · rename_i claimed
    exact List.count_eq_zero_of_not_mem fun member => by simp [claimed] at member
  · rename_i unclaimed
    exact List.count_eq_one_of_mem (distinct.filter _) (by simp [declared, unclaimed])

end Counts

/-- **What becomes of the placeholders of a template** when parameters are bound. -/
structure PlaceholderLaw (model : Model) (parameters : List Parameter) (bound : BoundParameters) :
    Prop where
  /-- A placeholder is that of one binding or the subject of one warning, and not both. -/
  once : ∀ placeholder ∈ model.template.placeholders,
    bound.bindings.countP (·.claims placeholder.name) +
      bound.warnings.count (.unbound placeholder) = 1
  /-- Every binding that its annotation disagrees with has one warning. The warnings about
  placeholders come behind these, in the order of the template. -/
  warnings : bound.warnings =
    (parameters.zip bound.bindings).filterMap
        (fun (parameter, binding) => binding.disagreement? parameter) ++
      (model.template.placeholders.filter fun placeholder =>
        !bound.bindings.any (·.claims placeholder.name)).map .unbound
  length : bound.bindings.length = parameters.length
  /-- A parameter is bound to the placeholder that its one role names, as the template has it. -/
  supply : ∀ parameter binding, (parameter, binding) ∈ parameters.zip bound.bindings →
    ∀ placeholder, binding.supply = .placeholder placeholder ↔
      (∃ kind, parameter.roles = [.placeholder kind placeholder.name]) ∧
        model.placeholder? placeholder.name = some placeholder
  own : ∀ binding ∈ bound.bindings, ∀ placeholder, binding.supply = .placeholder placeholder →
    model.placeholder? placeholder.name = some placeholder
  /-- A placeholder of the path has the index of the one segment that has its name. -/
  position : ∀ binding ∈ bound.bindings, ∀ placeholder,
    binding.supply = .placeholder placeholder → placeholder.slot.kind = .path →
      ∃ index, binding.supply.position = some index ∧
        ∀ other, model.template.segments[other]? = some (.placeholder placeholder.name) ↔
          other = index
  /-- The index is read back from its text. -/
  readBack : model.text.toList.length < 2 ^ 64 → ∀ binding ∈ bound.bindings, ∀ placeholder,
    binding.supply = .placeholder placeholder → placeholder.slot.kind = .path →
      Slot.segmentOfKey? placeholder.slot.key = binding.supply.position
  /-- A placeholder of the query has no index, and the key of the one pair that has its name. -/
  key : ∀ binding ∈ bound.bindings, ∀ placeholder,
    binding.supply = .placeholder placeholder → placeholder.slot.kind = .query →
      binding.supply.position = none ∧
        ∀ key, ⟨key, .placeholder placeholder.name⟩ ∈ model.query ↔ key = placeholder.slot.key

/-- **Every placeholder is accounted for once, and stands where the template says.** -/
theorem placeholder_law {types : TypeNames} {model : Model} {parameters : List Parameter}
    {bound : BoundParameters} (built : model.IsBuilt)
    (done : bindParameters types model parameters = .ok bound) :
    PlaceholderLaw model parameters bound := by
  obtain ⟨clean, rfl⟩ := bindParameters_eq_ok_iff.mp done
  have read := built.parse_text
  have zipped : parameters.zip (bindingsOf types model parameters).bindings =
      parameters.map fun parameter => (parameter, parameter.binding types model) :=
    List.map_prod_left_eq_zip.symm
  -- A binding has the placeholder that the model has under its name, and no other one.
  have own : ∀ binding ∈ (bindingsOf types model parameters).bindings, ∀ placeholder,
      binding.supply = .placeholder placeholder →
        model.placeholder? placeholder.name = some placeholder := by
    intro binding member placeholder supplied
    obtain ⟨parameter, _, rfl⟩ := List.mem_map.mp member
    exact (Parameter.supply_eq_placeholder_iff.mp supplied).2
  have declared : ∀ binding ∈ (bindingsOf types model parameters).bindings, ∀ placeholder,
      binding.supply = .placeholder placeholder → placeholder ∈ model.template.placeholders :=
    fun binding member placeholder supplied =>
      (Template.mem_of_placeholder? (own binding member placeholder supplied)).1
  exact {
    once := by
      intro placeholder member
      have distinct := List.Nodup.of_map _ (Template.names_nodup_of_parse read)
      rw [countP_claims_bindingsOf member clean, count_unbound_bindingsOf member distinct]
      split <;> rfl
    warnings := by
      rw [zipped, List.filterMap_map]
      refine congrArg₂ (· ++ ·) ?_ (congrArg _ (List.filter_congr fun placeholder member => ?_))
      · exact List.filterMap_congr fun parameter _ => Parameter.mixUp?_eq
      · rw [any_claims_bindingsOf member]
    length := List.length_map _
    supply := by
      intro parameter binding paired placeholder
      rw [zipped] at paired
      obtain ⟨_, _, same⟩ := List.mem_map.mp paired
      obtain ⟨rfl, rfl⟩ := Prod.mk.inj same
      rw [← Parameter.claims_iff]
      exact Parameter.supply_eq_placeholder_iff
    own := own
    position := by
      intro binding member placeholder supplied kind
      have place := declared binding member placeholder supplied
      rw [supplied]
      obtain ⟨name, slot⟩ := placeholder
      cases slot with
      | parameter key => cases kind
      | segment index =>
          refine ⟨index, rfl, fun other => ?_⟩
          rw [Template.getElem?_segments_iff read, Template.slot_eq_of_mem read place,
            Slot.segment.injEq, eq_comm]
    readBack := by
      intro short binding member placeholder supplied kind
      rw [supplied]
      exact Template.segmentOfKey?_of_mem read short
        (declared binding member placeholder supplied) kind
    key := by
      intro binding member placeholder supplied kind
      have place := declared binding member placeholder supplied
      rw [supplied]
      obtain ⟨name, slot⟩ := placeholder
      cases slot with
      | segment index => cases kind
      | parameter key =>
          refine ⟨rfl, fun other => ?_⟩
          rw [Model.query, Template.mem_query_iff read, Template.slot_eq_of_mem read place,
            Slot.parameter.injEq, eq_comm]
          rfl }

/-- Two annotations take their placeholders for the other kind, the one of them without a value, and
a third placeholder is claimed by none. -/
theorem placeholder_law_of_mixedUp :
    let model : Model :=
      { text := "n/\x7bid\x7d?l=\x7bx\x7d&k=\x7bu\x7d", authority := "a", normalizedPath := "/n/*"
        template :=
          ⟨[.literal "n", .placeholder "id"], [⟨"l", .placeholder "x"⟩, ⟨"k", .placeholder "u"⟩],
            [⟨"id", .segment 1⟩, ⟨"x", .parameter "l"⟩, ⟨"u", .parameter "k"⟩]⟩ }
    let parameters : List Parameter :=
      [⟨"x", "int", [.marker "PathParam"]⟩, ⟨"plain", "int", []⟩,
        ⟨"number", "long", [.valued [("QueryParam", "id")]]⟩]
    let bound : BoundParameters :=
      ⟨[⟨"x", "int", .placeholder ⟨"x", .parameter "l"⟩⟩, ⟨"plain", "int", .unannotated⟩,
          ⟨"number", "long", .placeholder ⟨"id", .segment 1⟩⟩],
        [.mixedUp "x" .path ⟨"x", .parameter "l"⟩, .mixedUp "number" .query ⟨"id", .segment 1⟩,
          .unbound ⟨"u", .parameter "k"⟩]⟩
    model.IsBuilt ∧ bindParameters {} model parameters = .ok bound ∧
      PlaceholderLaw model parameters bound := by
  intro model parameters bound
  have built : model.IsBuilt :=
    ⟨"content", "*", "a", "n/\x7bid\x7d?l=\x7bx\x7d&k=\x7bu\x7d", by decide⟩
  have done : bindParameters {} model parameters = .ok bound := by decide
  exact ⟨built, done, placeholder_law built done⟩

end ContentRouter
