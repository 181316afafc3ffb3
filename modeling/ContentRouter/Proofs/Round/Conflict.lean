import ContentRouter.Proofs.Lists.Filters
import ContentRouter.Proofs.Round.Handler
import ContentRouter.Proofs.Routing.Contents
import ContentRouter.Proofs.Template.Requests

/-!
# Conflicts

A registry looks for a conflict in the one bucket that a model belongs into. On the registries of
runs this finds what a scan of all entries would find. There is never a choice: two entries that
serve the requests of a built model would serve each other's, and the later one would have been
refused.

Registering for a handler refuses a model exactly if there is a conflict before the call. Making
sure of a bucket first does no harm, because a model with a conflict has its bucket already. A round
looks for conflicts before it registers, and so is never refused (`Run.conflict_law`).
-/

namespace ContentRouter

/-- Whether an entry serves an operation and the requests of a model. -/
def Registration.serves (model : Model) (operation : Operation) (entry : Registration) : Bool :=
  entry.owner.operation == operation && entry.model.fullyEquals model

private theorem Registration.serves_iff {model : Model} {operation : Operation}
    {entry : Registration} :
    entry.serves model operation = true ↔
      entry.owner.operation = operation ∧ entry.model.fullyEquals model = true := by
  rw [serves, Bool.and_eq_true, beq_iff_eq]

namespace Registry

private theorem mem_of_conflict? {registry : Registry} {model : Model} {operation : Operation}
    {entry : Registration} (found : registry.conflict? model operation = some entry) :
    entry ∈ registry.entries ∧ entry.serves model operation = true := by
  obtain ⟨bucket, search, inside⟩ := Option.bind_eq_some_iff.mp found
  refine ⟨mem_entries.mpr ⟨bucket, (mem_of_bucketFor? search).1, ?_⟩, ?_⟩
  · exact List.mem_of_find?_eq_some inside
  · exact List.find?_some (p := Registration.serves model operation) inside

/-- A model is refused exactly if it has a conflict before the call. -/
theorem registerExact_error_iff (registry : Registry) (model : Model) (owner : Handler) :
    (∃ fault, (registry.registerExact model owner).1 = .error fault) ↔
      (registry.conflict? model owner.operation).isSome = true := by
  rw [registerExact_eq]
  cases registry.conflict? model owner.operation with
  | none => exact iff_of_false (fun refused => nomatch refused.choose_spec) nofun
  | some existing => exact iff_of_true ⟨_, rfl⟩ rfl

private theorem registerExact_of_conflict? {registry : Registry} {model : Model} {owner : Handler}
    {existing : Registration}
    (found : registry.conflict? model owner.operation = some existing) :
    registry.registerExact model owner = (.error (duplicatePath model existing), registry) := by
  rw [registerExact_eq, found]

private theorem registerExact_of_conflict?_eq_none {registry : Registry} {model : Model}
    {owner : Handler}
    (free : registry.conflict? model owner.operation = none) :
    (registry.registerExact model owner).1 = .ok (registry.idFor model) := by
  rw [registerExact_eq, free]

end Registry

/-- What an examination lets pass has no conflict. -/
theorem Round.conflict?_of_finding {settings : Settings} {registry : Registry}
    {provider : Provider} {method : Method} {model : Model} {bindings : List Binding}
    (examined : (examine settings registry provider method).finding = some (model, bindings)) :
    registry.conflict? model method.operation = none := by
  -- The place of the method in its declaration does not matter to an examination.
  rw [examine_finding settings registry ⟨provider, 0, method⟩] at examined
  obtain ⟨entrant, found, same⟩ := Option.map_eq_some_iff.mp examined
  obtain ⟨rfl, -⟩ := Prod.mk.inj same
  obtain ⟨offered, free⟩ := Candidate.entrant?_eq_some_iff.mp found
  rw [Admission.handler, Candidate.candidate_of_offer? offered] at free
  exact free

namespace Run

variable {calls : List Call} (built : ∀ call ∈ calls, call.model.IsBuilt)
include built

private theorem isBuilt_of_mem_entries {entry : Registration}
    (entered : entry ∈ (ofCalls calls).registry.entries) : entry.model.IsBuilt := by
  rw [(sound_ofCalls calls).entries_perm.mem_iff] at entered
  exact isBuilt_of_mem_registrations built entered

/-- No two entries of a registry serve the requests of one built model. -/
theorem entries_pairwise_serves {model : Model} (modelBuilt : model.IsBuilt)
    (operation : Operation) :
    (ofCalls calls).registry.entries.Pairwise fun first second =>
      first.serves model operation = true → second.serves model operation = false := by
  have perm := (sound_ofCalls calls).entries_perm
  have apart := (perm.symm.pairwise_iff ?_).mp (registrations_apart built)
  · refine apart.imp_of_mem ?_
    intro first second firstEntered secondEntered apart serves
    rw [← Bool.not_eq_true]
    intro servesToo
    obtain ⟨operations, full⟩ := Registration.serves_iff.mp serves
    obtain ⟨otherOperations, otherFull⟩ := Registration.serves_iff.mp servesToo
    have firstBuilt := isBuilt_of_mem_entries built firstEntered
    have secondBuilt := isBuilt_of_mem_entries built secondEntered
    rw [Model.fullyEquals_comm secondBuilt modelBuilt] at otherFull
    have both := Model.fullyEquals_trans firstBuilt modelBuilt full otherFull
    rw [(apart (operations.trans otherOperations.symm)).1] at both
    cases both
  · intro first second apart same
    exact (apart same.symm).symm

/-- **Looking for a conflict is scanning all entries.** -/
theorem toList_conflict? {model : Model} (modelBuilt : model.IsBuilt) (operation : Operation) :
    ((ofCalls calls).registry.conflict? model operation).toList =
      (ofCalls calls).registry.entries.filter (·.serves model operation) := by
  cases found : (ofCalls calls).registry.conflict? model operation with
  | none =>
      have free := ((sound_ofCalls calls).wellFormed.conflict?_eq_none_iff model operation).mp found
      refine (List.filter_eq_nil_iff.mpr ?_).symm
      intro entry entered serves
      obtain ⟨same, full⟩ := Registration.serves_iff.mp serves
      rw [free entry entered same] at full
      cases full
  | some entry =>
      obtain ⟨entered, serves⟩ := Registry.mem_of_conflict? found
      exact (filter_eq_singleton (entries_pairwise_serves built modelBuilt operation) entered
        serves).symm

private theorem conflict?_eq_some_iff {model : Model} (modelBuilt : model.IsBuilt)
    (operation : Operation) (entry : Registration) :
    (ofCalls calls).registry.conflict? model operation = some entry ↔
      entry ∈ (ofCalls calls).registry.entries ∧ entry.serves model operation = true := by
  rw [← Option.mem_toList, toList_conflict? built modelBuilt, List.mem_filter]

end Run

/-- **The law of conflicts** for the registry that calls lead to. -/
structure Run.ConflictLaw (calls : List Call) : Prop where
  /-- What a look-up finds is what all entries together have that serves the operation and is fully
  equal to the model: nothing or one entry. -/
  scan : ∀ model operation, model.IsBuilt →
    ((ofCalls calls).registry.conflict? model operation).toList =
      (ofCalls calls).registry.entries.filter fun entry =>
        entry.owner.operation == operation && entry.model.fullyEquals model
  /-- A look-up finds an entry exactly if the registry has it, it serves the operation and it is
  fully equal to the model. -/
  found_iff : ∀ model operation entry, model.IsBuilt →
    ((ofCalls calls).registry.conflict? model operation = some entry ↔
      entry ∈ (ofCalls calls).registry.entries ∧ entry.owner.operation = operation ∧
        entry.model.fullyEquals model = true)
  /-- A model is refused exactly if a look-up before the call finds an entry. -/
  refused_iff : ∀ model owner,
    (∃ fault, ((ofCalls calls).registry.registerExact model owner).1 = .error fault) ↔
      ((ofCalls calls).registry.conflict? model owner.operation).isSome = true
  /-- A refusal names the owner of the entry that was found and leaves the registry as it is. -/
  unchanged : ∀ model owner existing,
    (ofCalls calls).registry.conflict? model owner.operation = some existing →
      (ofCalls calls).registry.registerExact model owner =
        (.error (.duplicatePath model.text model.authority existing.owner.text),
          (ofCalls calls).registry)

/-- **Conflicts after any run** of calls on built models. The look-up agrees with a scan of all
entries, a refusal is a conflict and changes nothing, and no round is ever refused what its
examination has let pass. -/
theorem Run.conflict_law (calls : List Call) (built : ∀ call ∈ calls, call.model.IsBuilt) :
    ConflictLaw calls ∧
      ∀ settings (round : Round) provider ordinal method model bindings,
        (Round.examine settings round.registry provider method).finding = some (model, bindings) →
          ∃ id, (round.registry.registerExact model
            (Round.handlerOf provider ordinal method)).1 = .ok id := by
  refine ⟨⟨?_, ?_, ?_, ?_⟩, ?_⟩
  · intro model operation modelBuilt
    exact toList_conflict? built modelBuilt operation
  · intro model operation entry modelBuilt
    rw [conflict?_eq_some_iff built modelBuilt, Registration.serves_iff]
  · exact Registry.registerExact_error_iff _
  · intro model owner existing found
    exact Registry.registerExact_of_conflict? found
  · intro settings round provider ordinal method model bindings examined
    have free := Round.conflict?_of_finding examined
    exact ⟨_, Registry.registerExact_of_conflict?_eq_none free⟩

/-- Of three handlers the second one is refused, because the first has its requests, and the third
takes the next id. -/
theorem Run.conflict_law_of_three :
    let notes (name : String) : Model :=
      { text := "n?k=\x7b" ++ name ++ "\x7d", authority := "a", normalizedPath := "/n",
        template :=
          ⟨[.literal "n"], [⟨"k", .placeholder name⟩], [⟨name, .parameter "k"⟩]⟩ }
    let tags : Model :=
      { text := "t", authority := "a", normalizedPath := "/t",
        template := ⟨[.literal "t"], [], []⟩ }
    let handler (method : String) (ordinal : Nat) : Handler := ⟨"P", method, ordinal, .query⟩
    let calls : List Call :=
      [.registerExact (notes "v") (handler "list" 0),
        .registerExact (notes "w") (handler "again" 1),
        .registerExact tags (handler "tags" 2)]
    (∀ call ∈ calls, call.model.IsBuilt) ∧
      (ofCalls calls).registry.labels = [(1, "a", "/n"), (2, "a", "/t")] ∧
      ((ofCalls calls).registry.registerExact (notes "w") (handler "again" 1)) =
        (.error (.duplicatePath "n?k=\x7bw\x7d" "a" "P#list"), (ofCalls calls).registry) := by
  intro notes tags handler calls
  have built : ∀ call ∈ calls, call.model.IsBuilt := by
    intro call member
    simp only [calls, List.mem_cons, List.not_mem_nil, or_false] at member
    rcases member with rfl | rfl | rfl
    · exact ⟨"content", "*", "a", "n?k=\x7bv\x7d", rfl⟩
    · exact ⟨"content", "*", "a", "n?k=\x7bw\x7d", rfl⟩
    · exact ⟨"content", "*", "a", "t", rfl⟩
  refine ⟨built, by decide +kernel, ?_⟩
  have found : (ofCalls calls).registry.conflict? (notes "w") .query =
      some ⟨(notes "v").withMatcherId 1, handler "list" 0⟩ := by decide +kernel
  exact (conflict_law calls built).1.unchanged (notes "w") (handler "again" 1) _ found

end ContentRouter
