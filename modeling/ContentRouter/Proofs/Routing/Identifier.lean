import ContentRouter.Proofs.Routing.Run

/-!
# Matcher ids over whole runs

The models of a run are those that were just built and those that a call of the same run has marked
with its id; none comes from another registry (`Run.Admissible`). Over such a run the ids count the
addresses in the order in which these first come, an address keeps its id, and every model that was
marked or stored carries the id of the bucket of its address (`Run.matcherId_law`).
-/

namespace ContentRouter

private theorem Registry.WellFormed.id_eq_iff {registry : Registry}
    (wellFormed : registry.WellFormed)
    {id otherId : MatcherId} {address otherAddress : String × String}
    (label : (id, address) ∈ registry.labels)
    (otherLabel : (otherId, otherAddress) ∈ registry.labels) :
    id = otherId ↔ address = otherAddress := by
  obtain ⟨bucket, member, rfl, rfl⟩ := Registry.mem_labels.mp label
  obtain ⟨other, otherMember, rfl, rfl⟩ := Registry.mem_labels.mp otherLabel
  constructor
  · intro same
    rw [wellFormed.eq_of_id member otherMember same]
  · intro same
    rw [wellFormed.eq_of_address member otherMember same]

namespace Run

/-- The models that are at hand behind some steps: those that were just built, and those that one of
the steps has marked. -/
inductive AtHand (steps : List Step) : Model → Prop
  | fresh {model : Model} (built : model.IsBuilt) (unmarked : model.matcherId = none) :
      AtHand steps model
  | marked {model : Model} (step : Step) (member : step ∈ steps)
      (marks : step.marked? = some model) : AtHand steps model

/-- Calls each of which is about a model that is at hand when it is made. -/
def Admissible (calls : List Call) : Prop :=
  ∀ before call after, calls = before ++ call :: after →
    AtHand (ofCalls before).steps call.model

private theorem admissible_nil : Admissible [] := by
  intro before call after split
  exact absurd split.symm (List.append_ne_nil_of_right_ne_nil before (List.cons_ne_nil call after))

/-- One more call is admissible if its model is at hand behind the calls before. -/
theorem admissible_append_singleton_iff {calls : List Call} {call : Call} :
    Admissible (calls ++ [call]) ↔
      Admissible calls ∧ AtHand (ofCalls calls).steps call.model := by
  constructor
  · intro admissible
    refine ⟨?_, admissible calls call [] rfl⟩
    intro before earlier after split
    refine admissible before earlier (after ++ [call]) ?_
    rw [split, List.append_assoc, List.cons_append]
  · rintro ⟨admissible, atHand⟩ before earlier after split
    rcases List.eq_nil_or_concat after with rfl | ⟨rest, last, rfl⟩
    · obtain ⟨rfl, same⟩ := List.append_inj' split rfl
      rwa [← List.cons.inj same |>.1]
    · rw [List.concat_eq_append, ← List.cons_append, ← List.append_assoc] at split
      exact admissible before earlier rest (List.append_inj' split rfl).1

/-- A call that answers an id leaves its model marked with this id. -/
theorem marked_of_admissible {calls : List Call} (admissible : Admissible calls) :
    ∀ step ∈ (ofCalls calls).steps, ∀ id, step.answer = .ok id →
      (step.call.model.withMatcherId id).matcherId = some id := by
  induction calls using List.reverseRecOn with
  | nil => exact List.forall_mem_nil _
  | append_singleton calls call ih =>
      obtain ⟨earlierAdmissible, atHand⟩ := admissible_append_singleton_iff.mp admissible
      have sound := sound_ofCalls calls
      intro step member id answer
      rw [ofCalls_append_singleton, steps_take] at member
      rcases List.mem_append.mp member with earlier | last
      · exact ih earlierAdmissible step earlier id answer
      rw [List.mem_singleton.mp last] at answer ⊢
      cases atHand with
      | fresh built unmarked => exact Model.matcherId_withMatcherId_of_none unmarked id
      | marked first present marks =>
          -- The model carries the id of an earlier call about its address, and gets this id again.
          cases firstAnswer : first.answer with
          | error fault =>
              rw [Step.marked?, firstAnswer] at marks
              cases marks
          | ok firstId =>
              rw [Step.marked?, firstAnswer] at marks
              have carried := ih earlierAdmissible first present firstId firstAnswer
              rw [Option.some.inj marks] at carried
              obtain ⟨bucket, inside, sameId, sameAddress⟩ :=
                Registry.mem_labels.mp (sound.answered first present firstId firstAnswer)
              rw [← Model.address_withMatcherId _ firstId, Option.some.inj marks] at sameAddress
              have again := (Registry.perform_answer answer).1
              rw [sound.wellFormed.idFor_eq inside sameAddress, sameId] at again
              rw [again]
              exact Model.matcherId_withMatcherId_of_some carried firstId

/-- **The law of matcher ids** over the run of calls. -/
structure MatcherIdLaw (calls : List Call) : Prop where
  /-- The buckets carry the ids from one on, and the last id counts them. -/
  ids : (ofCalls calls).registry.buckets.map (·.id) =
      List.range' 1 (ofCalls calls).registry.lastId ∧
    (ofCalls calls).registry.lastId = (ofCalls calls).registry.buckets.length
  /-- There is one bucket for every pair of authority and normalized path, in the order in which the
  pairs first come. -/
  creation : (ofCalls calls).registry.buckets.map Bucket.address =
    (calls.map (·.model.address)).eraseDups
  distinct : ((ofCalls calls).registry.buckets.map Bucket.address).Nodup
  /-- Fewer pairs than there are numbers of 32 bits have ids of 32 bits. -/
  bounded : (calls.map (·.model.address)).eraseDups.length < UInt32.size →
    ∀ id, 1 ≤ id → id ≤ (ofCalls calls).registry.lastId → id < UInt32.size
  /-- The entries of a bucket have its authority and normalized path. -/
  homed : ∀ bucket ∈ (ofCalls calls).registry.buckets, ∀ entry ∈ bucket.entries,
    entry.model.authority = bucket.authority ∧
      entry.model.normalizedPath = bucket.normalizedPath
  /-- Two calls answer the same id exactly if their models have the same authority and path. -/
  same_id_iff : ∀ step ∈ (ofCalls calls).steps, ∀ other ∈ (ofCalls calls).steps, ∀ id otherId,
    step.answer = .ok id → other.answer = .ok otherId →
      (id = otherId ↔ step.call.model.authority = other.call.model.authority ∧
        step.call.model.normalizedPath = other.call.model.normalizedPath)
  /-- Whatever is called later, the buckets keep their ids, authorities and paths. -/
  stable : ∀ more, (ofCalls calls).registry.labels <+: (ofCalls (calls ++ more)).registry.labels
  /-- An id that was answered finds the bucket of the pair that it was given to. -/
  found : ∀ step ∈ (ofCalls calls).steps, ∀ id, step.answer = .ok id →
    ∃ bucket, (ofCalls calls).registry.bucket? id = some bucket ∧ bucket.id = id ∧
      bucket.authority = step.call.model.authority ∧
      bucket.normalizedPath = step.call.model.normalizedPath
  /-- An id finds a bucket exactly if that bucket has it. -/
  bucket_iff : ∀ id bucket, (ofCalls calls).registry.bucket? id = some bucket ↔
    bucket ∈ (ofCalls calls).registry.buckets ∧ bucket.id = id
  /-- A model carries the id of its bucket once it is registered. -/
  marked : ∀ step ∈ (ofCalls calls).steps, ∀ model, step.marked? = some model →
    ∃ bucket ∈ (ofCalls calls).registry.buckets,
      bucket.admits model = true ∧ model.matcherId = some bucket.id
  /-- A stored model carries the id of its bucket. -/
  stored : ∀ bucket ∈ (ofCalls calls).registry.buckets, ∀ entry ∈ bucket.entries,
    entry.model.matcherId = some bucket.id

private theorem labels_ofCalls_append (calls more : List Call) :
    (ofCalls calls).registry.labels <+: (ofCalls (calls ++ more)).registry.labels := by
  induction more using List.reverseRecOn with
  | nil => rw [List.append_nil]
  | append_singleton more call ih =>
      rw [← List.append_assoc, ofCalls_append_singleton]
      exact ih.trans (labels_take call)

private theorem Sound.bucket?_eq_some_iff {run : Run} (sound : run.Sound) (id : MatcherId)
    (bucket : Bucket) :
    run.registry.bucket? id = some bucket ↔ bucket ∈ run.registry.buckets ∧ bucket.id = id :=
  sound.wellFormed.bucket?_eq_some_iff

/-- A model that a call marked carries the id of the bucket of its address. -/
theorem exists_bucket_of_marked {calls : List Call} (admissible : Admissible calls) {step : Step}
    (member : step ∈ (ofCalls calls).steps) {model : Model} (marks : step.marked? = some model) :
    ∃ bucket ∈ (ofCalls calls).registry.buckets,
      bucket.address = model.address ∧ model.matcherId = some bucket.id := by
  cases answer : step.answer with
  | error fault =>
      rw [Step.marked?, answer] at marks
      cases marks
  | ok id =>
      rw [Step.marked?, answer] at marks
      have carried := marked_of_admissible admissible step member id answer
      obtain ⟨bucket, inside, sameId, sameAddress⟩ :=
        Registry.mem_labels.mp ((sound_ofCalls calls).answered step member id answer)
      rw [Option.some.inj marks] at carried
      rw [← Model.address_withMatcherId _ id, Option.some.inj marks] at sameAddress
      exact ⟨bucket, inside, sameAddress, by rw [carried, sameId]⟩

private theorem exists_step_of_mem_entries {calls : List Call} {bucket : Bucket}
    (member : bucket ∈ (ofCalls calls).registry.buckets) {entry : Registration}
    (inside : entry ∈ bucket.entries) :
    ∃ step ∈ (ofCalls calls).steps, step.marked? = some entry.model := by
  rw [(sound_ofCalls calls).contents bucket member, (Bucket.inOrder_perm _).mem_iff] at inside
  obtain ⟨model, owner, id, stepMember, rfl⟩ :=
    mem_registrations.mp (List.mem_filter.mp inside).1
  exact ⟨_, stepMember, rfl⟩

/-- **Matcher ids follow their law over every run** on models that were just built or that the run
has marked itself. -/
theorem matcherId_law (calls : List Call) (admissible : Admissible calls) : MatcherIdLaw calls := by
  have sound := sound_ofCalls calls
  have wellFormed := sound.wellFormed
  have creation : (ofCalls calls).registry.buckets.map Bucket.address =
      (calls.map (·.model.address)).eraseDups := by
    rw [sound.addresses, addresses_ofCalls]
  exact {
    ids := ⟨wellFormed.ids, wellFormed.length_buckets.symm⟩
    creation := creation
    distinct := wellFormed.distinct
    bounded := by
      intro few id _ counted
      have count := congrArg List.length creation
      rw [List.length_map, wellFormed.length_buckets] at count
      exact Nat.lt_of_le_of_lt counted (count ▸ few)
    homed := by
      intro bucket member entry inside
      exact Prod.mk.inj (wellFormed.homed bucket member entry inside)
    same_id_iff := by
      intro step member other otherMember id otherId answer otherAnswer
      rw [wellFormed.id_eq_iff (sound.answered step member id answer)
        (sound.answered other otherMember otherId otherAnswer)]
      exact Prod.mk.injEq .. ▸ Iff.rfl
    stable := labels_ofCalls_append calls
    found := by
      intro step member id answer
      obtain ⟨bucket, inside, rfl, same⟩ :=
        Registry.mem_labels.mp (sound.answered step member id answer)
      exact ⟨bucket, wellFormed.bucket?_eq_some inside, rfl, Prod.mk.inj same⟩
    bucket_iff := sound.bucket?_eq_some_iff
    marked := by
      intro step member model marks
      obtain ⟨bucket, inside, same, carried⟩ := exists_bucket_of_marked admissible member marks
      exact ⟨bucket, inside, (bucket.admits_iff model).mpr same, carried⟩
    stored := by
      intro bucket member entry inside
      obtain ⟨step, stepMember, marks⟩ := exists_step_of_mem_entries member inside
      -- An earlier call may have marked the model, but for this address and so by this bucket.
      obtain ⟨home, homeMember, same, carried⟩ :=
        exists_bucket_of_marked admissible stepMember marks
      have address := (wellFormed.homed bucket member entry inside).symm
      rw [wellFormed.eq_of_address member homeMember (address.trans same.symm)]
      exact carried }

/-- A model is registered, registered again for a handler with the id that it has been given, and
followed by a model of another path. -/
theorem matcherId_law_of_three :
    let notes : Model :=
      { text := "n", authority := "a", normalizedPath := "/n",
        template := ⟨[.literal "n"], [], []⟩ }
    let tags : Model :=
      { text := "t", authority := "a", normalizedPath := "/t",
        template := ⟨[.literal "t"], [], []⟩ }
    let calls : List Call :=
      [.register notes, .registerExact (notes.withMatcherId 1) ⟨"P", "m", 0, .query⟩,
        .registerExact tags ⟨"P", "m", 1, .query⟩]
    Admissible calls ∧
      (ofCalls calls).registry.labels = [(1, "a", "/n"), (2, "a", "/t")] ∧ MatcherIdLaw calls := by
  intro notes tags calls
  have notesBuilt : notes.IsBuilt := ⟨"content", "*", "a", "n", rfl⟩
  have tagsBuilt : tags.IsBuilt := ⟨"content", "*", "a", "t", rfl⟩
  have fresh : AtHand (ofCalls []).steps notes := .fresh notesBuilt rfl
  have first : Admissible ([] ++ [.register notes]) :=
    admissible_append_singleton_iff.mpr ⟨admissible_nil, fresh⟩
  have again : AtHand (ofCalls [.register notes]).steps (notes.withMatcherId 1) :=
    .marked ⟨.register notes, .ok 1⟩ (List.mem_singleton.mpr rfl) rfl
  have second : Admissible
      ([.register notes] ++ [.registerExact (notes.withMatcherId 1) ⟨"P", "m", 0, .query⟩]) :=
    admissible_append_singleton_iff.mpr ⟨first, again⟩
  have other (steps : List Step) : AtHand steps tags := .fresh tagsBuilt rfl
  have admissible : Admissible calls :=
    admissible_append_singleton_iff.mpr ⟨second, other _⟩
  exact ⟨admissible, by decide +kernel, matcherId_law calls admissible⟩

end Run

end ContentRouter
