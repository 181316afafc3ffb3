import Mathlib.Data.List.Induction
import ContentRouter.Proofs.Routing.Registry

/-!
# Runs of calls on a registry

A run asks an empty registry one call after the other, to register a model or to register it for a
handler, and keeps what every call answered. The calls may come in any order, may concern the same
model any number of times, and may be refused.

After every call the registry is well formed, has one bucket for every address in the order in which
the addresses first came, and keeps in each bucket the registrations of its address in stable order
(`Run.sound_ofCalls`).
-/

namespace ContentRouter

/-- A call on a registry. -/
inductive Call
  | register (model : Model)
  | registerExact (model : Model) (owner : Handler)
  deriving DecidableEq, Repr

/-- The model that a call is about. -/
def Call.model : Call → Model
  | .register model => model
  | .registerExact model _ => model

/-- A call and what it answered. -/
structure Step where
  call : Call
  answer : Except Fault MatcherId

namespace Step

/-- The model as a call leaves it: marked with the id that was answered. -/
def marked? (step : Step) : Option Model :=
  match step.answer with
  | .ok id => some (step.call.model.withMatcherId id)
  | .error _ => none

/-- What a call registered for a handler. -/
def registration? (step : Step) : Option Registration :=
  match step.call, step.answer with
  | .registerExact model owner, .ok id => some ⟨model.withMatcherId id, owner⟩
  | _, _ => none

end Step

namespace Registry

/-- What a call answers, and the registry that it leaves. -/
def perform (registry : Registry) : Call → Except Fault MatcherId × Registry
  | .register model => (.ok (registry.register model).1, (registry.register model).2)
  | .registerExact model owner => registry.registerExact model owner

/-- **What a call can do.** It makes sure of the bucket of its model; it is refused because of a
conflict and changes nothing; or it enters the model for its handler. -/
theorem perform_cases (registry : Registry) (call : Call) :
    (∃ model, call = .register model ∧
        registry.perform call = (.ok (registry.idFor model), registry.withBucketFor model)) ∨
      (∃ model owner existing, call = .registerExact model owner ∧
        registry.conflict? model owner.operation = some existing ∧
        registry.perform call = (.error (duplicatePath model existing), registry)) ∨
      (∃ model owner, call = .registerExact model owner ∧
        registry.conflict? model owner.operation = none ∧
        registry.perform call =
          (.ok (registry.idFor model),
            (registry.withBucketFor model).insert (registry.idFor model)
              ⟨model.withMatcherId (registry.idFor model), owner⟩)) := by
  cases call with
  | register model => exact .inl ⟨model, rfl, rfl⟩
  | registerExact model owner =>
      have performed := registry.registerExact_eq model owner
      cases conflict : registry.conflict? model owner.operation with
      | some existing =>
          rw [conflict] at performed
          exact .inr (.inl ⟨model, owner, existing, rfl, conflict, performed⟩)
      | none =>
          rw [conflict] at performed
          exact .inr (.inr ⟨model, owner, rfl, conflict, performed⟩)

end Registry

/-- A run: the calls with their answers, and the registry that they leave. -/
structure Run where
  steps : List Step := []
  registry : Registry := {}

namespace Run

/-- The run after one more call. -/
def take (run : Run) (call : Call) : Run where
  steps := run.steps ++ [⟨call, (run.registry.perform call).1⟩]
  registry := (run.registry.perform call).2

/-- The run of calls on an empty registry. -/
def ofCalls (calls : List Call) : Run := calls.foldl take {}

/-- What was registered for handlers, in the order of the calls. -/
def registrations (run : Run) : List Registration := run.steps.filterMap Step.registration?

/-- What was registered for handlers under an address, in the order of the calls. -/
def registrationsAt (run : Run) (address : String × String) : List Registration :=
  run.registrations.filter (·.model.address = address)

/-- The addresses of the models of all calls, in their order. -/
def addresses (run : Run) : List (String × String) := run.steps.map (·.call.model.address)

private theorem ofCalls_append (calls more : List Call) :
    ofCalls (calls ++ more) = more.foldl take (ofCalls calls) := List.foldl_append

/-- The last call is taken in after all others. -/
@[simp]
theorem ofCalls_append_singleton (calls : List Call) (call : Call) :
    ofCalls (calls ++ [call]) = (ofCalls calls).take call := ofCalls_append calls [call]

/-- A call and its answer come behind the steps so far. -/
@[simp]
theorem steps_take (run : Run) (call : Call) :
    (run.take call).steps = run.steps ++ [⟨call, (run.registry.perform call).1⟩] := rfl

/-- The address of a call comes behind those so far. -/
@[simp]
theorem addresses_take (run : Run) (call : Call) :
    (run.take call).addresses = run.addresses ++ [call.model.address] := List.map_append

/-- A call adds its registration, if it makes one. -/
theorem registrations_take (run : Run) (call : Call) :
    (run.take call).registrations =
      run.registrations ++
        (Step.registration? ⟨call, (run.registry.perform call).1⟩).toList := by
  simp only [registrations, steps_take, List.filterMap_append]
  rfl

/-- There is one step for every call, in their order. -/
theorem steps_ofCalls_map_call (calls : List Call) :
    (ofCalls calls).steps.map (·.call) = calls := by
  induction calls using List.reverseRecOn with
  | nil => rfl
  | append_singleton calls call ih =>
      rw [ofCalls_append_singleton, steps_take, List.map_append, ih]
      rfl

/-- The addresses of a run are those of its calls. -/
theorem addresses_ofCalls (calls : List Call) :
    (ofCalls calls).addresses = calls.map (·.model.address) := by
  conv => rhs; rw [← steps_ofCalls_map_call calls]
  rw [addresses, List.map_map]
  rfl

/-- What holds of a run after every call. -/
structure Sound (run : Run) : Prop where
  wellFormed : run.registry.WellFormed
  /-- There is one bucket for every address, in the order in which the addresses first came. -/
  addresses : run.registry.buckets.map Bucket.address = run.addresses.eraseDups
  /-- An id that was answered is the one of the bucket that has the address of the call. -/
  answered : ∀ step ∈ run.steps, ∀ id, step.answer = .ok id →
    (id, step.call.model.address) ∈ run.registry.labels
  /-- A bucket keeps the registrations of its address in stable order. -/
  contents : ∀ bucket ∈ run.registry.buckets,
    bucket.entries = Bucket.inOrder (run.registrationsAt bucket.address)

private theorem sound_empty : Sound {} where
  wellFormed := Registry.wellFormed_empty
  addresses := List.eraseDups_nil.symm
  answered := List.forall_mem_nil _
  contents := List.forall_mem_nil _

end Run

section Addresses

variable {α : Type} [BEq α] [LawfulBEq α]

/-- A last element counts among the first occurrences only if it is new. -/
theorem eraseDups_append_singleton_of_mem {elements : List α} {last : α}
    (known : last ∈ elements) : (elements ++ [last]).eraseDups = elements.eraseDups := by
  have gone : [last].removeAll elements = [] := by
    rw [List.removeAll, List.filter_cons_of_neg (by simpa using known), List.filter_nil]
  rw [List.eraseDups_append, gone, List.eraseDups_nil, List.append_nil]

private theorem eraseDups_append_singleton_of_not_mem {elements : List α} {last : α}
    (fresh : last ∉ elements) : (elements ++ [last]).eraseDups = elements.eraseDups ++ [last] := by
  have kept : [last].removeAll elements = [last] := by
    rw [List.removeAll, List.filter_cons_of_pos (by simpa using fresh), List.filter_nil]
  rw [List.eraseDups_append, kept, List.eraseDups_cons, List.filter_nil, List.eraseDups_nil]

/-- The first occurrences of what is kept are what is kept of the first occurrences. -/
theorem eraseDups_filter (keep : α → Bool) (elements : List α) :
    (elements.filter keep).eraseDups = elements.eraseDups.filter keep := by
  induction elements using List.reverseRecOn with
  | nil => rfl
  | append_singleton elements last ih =>
      rw [List.filter_append]
      by_cases known : last ∈ elements
      · rw [eraseDups_append_singleton_of_mem known]
        cases kept : keep last with
        | true =>
            rw [List.filter_cons_of_pos kept, List.filter_nil,
              eraseDups_append_singleton_of_mem (List.mem_filter.mpr ⟨known, kept⟩), ih]
        | false => simp [kept, ih]
      · rw [eraseDups_append_singleton_of_not_mem known, List.filter_append, ← ih]
        cases kept : keep last with
        | true =>
            have fresh : last ∉ elements.filter keep := fun inside =>
              known (List.mem_filter.mp inside).1
            rw [List.filter_cons_of_pos kept, List.filter_nil,
              eraseDups_append_singleton_of_not_mem fresh]
        | false => simp [kept]

end Addresses

namespace Registry

variable {registry : Registry}

/-- Carrying out a call keeps a registry well-formed. -/
theorem WellFormed.perform (wellFormed : registry.WellFormed) (call : Call) :
    (registry.perform call).2.WellFormed := by
  obtain ⟨model, rfl, performed⟩ | ⟨model, owner, _, rfl, _, performed⟩ |
    ⟨model, owner, rfl, _, performed⟩ := registry.perform_cases call
  · rw [performed]
    exact wellFormed.withBucketFor model
  · rwa [performed]
  · rw [performed]
    obtain ⟨bucket, member, same, id⟩ := registry.exists_bucket_withBucketFor model
    rw [← id]
    exact (wellFormed.withBucketFor model).insert member _ same.symm

/-- The buckets after a call are those that the registry has once the model has its bucket, or, if
the call was refused, those from before. -/
theorem labels_perform (call : Call) :
    (registry.perform call).2.labels = (registry.withBucketFor call.model).labels := by
  obtain ⟨model, rfl, performed⟩ | ⟨model, owner, existing, rfl, conflict, performed⟩ |
    ⟨model, owner, rfl, _, performed⟩ := registry.perform_cases call
  · rw [performed]
    rfl
  · obtain ⟨bucket, found, _⟩ := Option.bind_eq_some_iff.mp conflict
    simp only [performed, Call.model, withBucketFor, found]
  · rw [performed, labels_insert]
    rfl

/-- An id that a call answers is the one of the bucket that has the address of its model. -/
theorem perform_answer {call : Call} {id : MatcherId}
    (answer : (registry.perform call).1 = .ok id) :
    id = registry.idFor call.model ∧
      (id, call.model.address) ∈ (registry.perform call).2.labels := by
  have answered : id = registry.idFor call.model := by
    obtain ⟨model, rfl, performed⟩ | ⟨model, owner, _, rfl, _, performed⟩ |
      ⟨model, owner, rfl, _, performed⟩ := registry.perform_cases call <;>
      rw [performed] at answer <;> cases answer <;> rfl
  rw [labels_perform, answered, mem_labels]
  obtain ⟨bucket, member, same, id⟩ := registry.exists_bucket_withBucketFor call.model
  exact ⟨rfl, bucket, member, id, same⟩

end Registry

namespace Run

variable {run : Run}

/-- A bucket for the address of the next call comes last if it is new. -/
theorem Sound.addresses_take (sound : run.Sound) (call : Call) :
    (run.take call).registry.buckets.map Bucket.address = (run.take call).addresses.eraseDups := by
  have known := sound.addresses
  rw [Run.addresses_take, take, Registry.map_address_buckets, Registry.labels_perform,
    ← Registry.map_address_buckets]
  obtain ⟨bucket, member, same, _, kept⟩ | ⟨fresh, _, grown⟩ :=
    run.registry.withBucketFor_cases call.model
  · have seen : call.model.address ∈ run.addresses := by
      rw [← List.mem_eraseDups, ← known]
      exact List.mem_map.mpr ⟨bucket, member, same⟩
    rw [kept, known, eraseDups_append_singleton_of_mem seen]
  · have unseen : call.model.address ∉ run.addresses := by
      rw [← List.mem_eraseDups, ← known]
      intro member
      obtain ⟨bucket, inside, same⟩ := List.mem_map.mp member
      exact fresh bucket inside same
    rw [grown, List.map_append, known, eraseDups_append_singleton_of_not_mem unseen]
    rfl

/-- A call keeps the labels that there are. -/
theorem labels_take (call : Call) : run.registry.labels <+: (run.take call).registry.labels := by
  rw [take, Registry.labels_perform]
  exact run.registry.labels_withBucketFor call.model

private theorem Sound.answered_take (sound : run.Sound) (call : Call) :
    ∀ step ∈ (run.take call).steps, ∀ id, step.answer = .ok id →
      (id, step.call.model.address) ∈ (run.take call).registry.labels := by
  intro step member id answer
  rw [steps_take] at member
  rcases List.mem_append.mp member with earlier | last
  · exact (labels_take call).subset (sound.answered step earlier id answer)
  · rw [List.mem_singleton.mp last] at answer ⊢
    exact (Registry.perform_answer answer).2

/-- The registrations of a run are the exact calls that were answered with an id. -/
theorem mem_registrations {entry : Registration} :
    entry ∈ run.registrations ↔
      ∃ model owner id, ⟨.registerExact model owner, .ok id⟩ ∈ run.steps ∧
        entry = ⟨model.withMatcherId id, owner⟩ := by
  simp only [registrations, List.mem_filterMap]
  constructor
  · rintro ⟨⟨call, answer⟩, member, registered⟩
    cases call with
    | register model => cases registered
    | registerExact model owner =>
        cases answer with
        | error fault => cases registered
        | ok id =>
            cases registered
            exact ⟨model, owner, id, member, rfl⟩
  · rintro ⟨model, owner, id, member, rfl⟩
    exact ⟨_, member, rfl⟩

/-- There is a bucket at the address of every registration. -/
theorem Sound.exists_bucket (sound : run.Sound) {entry : Registration}
    (registered : entry ∈ run.registrations) :
    ∃ bucket ∈ run.registry.buckets, bucket.address = entry.model.address := by
  obtain ⟨model, owner, id, member, rfl⟩ := mem_registrations.mp registered
  obtain ⟨bucket, inside, _, same⟩ := Registry.mem_labels.mp (sound.answered _ member id rfl)
  exact ⟨bucket, inside, same⟩

/-- A model that gets its bucket brings no entries. -/
theorem Sound.contents_withBucketFor (sound : run.Sound) (model : Model) :
    ∀ bucket ∈ (run.registry.withBucketFor model).buckets,
      bucket.entries = Bucket.inOrder (run.registrationsAt bucket.address) := by
  intro bucket member
  rcases run.registry.mem_of_mem_withBucketFor model member with old | ⟨empty, fresh⟩
  · exact sound.contents bucket old
  · have none : run.registrationsAt bucket.address = [] := by
      refine List.filter_eq_nil_iff.mpr ?_
      intro entry registered same
      obtain ⟨other, inside, found⟩ := sound.exists_bucket registered
      exact fresh other inside (found.trans (of_decide_eq_true same))
    rw [empty, none, Bucket.inOrder_nil]

private theorem registrationsAt_take (call : Call) (address : String × String) :
    (run.take call).registrationsAt address =
      run.registrationsAt address ++
        (Step.registration? ⟨call, (run.registry.perform call).1⟩).toList.filter
          (·.model.address = address) := by
  rw [registrationsAt, registrations_take, List.filter_append]
  rfl

/-- One more call keeps every bucket in stable order: only the bucket of a model that is registered
changes, and the model goes behind all that have as many query pairs. -/
theorem Sound.contents_take (sound : run.Sound) (call : Call) :
    ∀ bucket ∈ (run.take call).registry.buckets,
      bucket.entries = Bucket.inOrder ((run.take call).registrationsAt bucket.address) := by
  intro bucket member
  rw [registrationsAt_take]
  rw [take] at member
  obtain ⟨model, rfl, performed⟩ | ⟨model, owner, _, rfl, _, performed⟩ |
    ⟨model, owner, rfl, _, performed⟩ := run.registry.perform_cases call
  · rw [performed] at member ⊢
    simpa only [Step.registration?, Option.toList_none, List.filter_nil, List.append_nil] using
      sound.contents_withBucketFor model bucket member
  · rw [performed] at member ⊢
    simpa only [Step.registration?, Option.toList_none, List.filter_nil, List.append_nil] using
      sound.contents bucket member
  · rw [performed] at member ⊢
    change _ = Bucket.inOrder (_ ++ [_].filter _)
    obtain ⟨before, beforeMember, rfl⟩ := (Registry.mem_buckets_insert _ _ _).mp member
    have contents := sound.contents_withBucketFor model before beforeMember
    obtain ⟨home, homeMember, same, id⟩ := run.registry.exists_bucket_withBucketFor model
    have wellFormed := sound.wellFormed.withBucketFor model
    -- Only the bucket of the model gets a new entry, and only its address a new registration.
    by_cases here : before.id = run.registry.idFor model
    · obtain rfl := wellFormed.eq_of_id beforeMember homeMember (here.trans id.symm)
      rw [if_pos here, Bucket.entries_insert, Bucket.address_insert, contents,
        Bucket.place_inOrder, List.filter_eq_self.mpr]
      intro entry single
      rw [List.mem_singleton.mp single]
      exact decide_eq_true same.symm
    · rw [if_neg here, contents, List.filter_eq_nil_iff.mpr, List.append_nil]
      intro entry single found
      rw [List.mem_singleton.mp single] at found
      refine here ?_
      rw [wellFormed.eq_of_address beforeMember homeMember
        ((of_decide_eq_true found).symm.trans same.symm), id]

/-- **One more call keeps a run sound.** -/
theorem Sound.take (sound : run.Sound) (call : Call) : (run.take call).Sound where
  wellFormed := sound.wellFormed.perform call
  addresses := sound.addresses_take call
  answered := sound.answered_take call
  contents := sound.contents_take call

/-- **Every run is sound.** -/
theorem sound_ofCalls (calls : List Call) : (ofCalls calls).Sound := by
  induction calls using List.reverseRecOn with
  | nil => exact sound_empty
  | append_singleton calls call ih =>
      rw [ofCalls_append_singleton]
      exact ih.take call

end Run

end ContentRouter
