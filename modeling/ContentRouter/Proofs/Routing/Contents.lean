import ContentRouter.Proofs.Lists.Filters
import ContentRouter.Proofs.Routing.Run

/-!
# What buckets hold

After any run the entries of a bucket are the registrations of its address in stable order, so that
nothing that was accepted is lost, repeated or moved among its ties. A handler is refused exactly if
one that was accepted before it serves the same requests for the same operation
(`Run.bucket_contents`).
-/

namespace ContentRouter

namespace Run

variable {run : Run}

/-- The buckets hold what was registered, everything once. -/
theorem Sound.entries_perm (sound : run.Sound) : run.registry.entries.Perm run.registrations := by
  have covered : ∀ entry ∈ run.registrations,
      entry.model.address ∈ run.registry.buckets.map Bucket.address := by
    intro entry registered
    obtain ⟨bucket, member, same⟩ := sound.exists_bucket registered
    exact List.mem_map.mpr ⟨bucket, member, same⟩
  refine List.Perm.trans ?_
    (flatMap_filter_perm (·.model.address) sound.wellFormed.distinct covered)
  rw [Registry.entries, List.flatMap_map]
  refine List.Perm.flatMap_left _ ?_
  intro bucket member
  rw [sound.contents bucket member]
  exact Bucket.inOrder_perm _

/-- **When a handler is accepted.** A call for a handler answers an id exactly if nothing that was
registered before serves the same requests for the same operation. -/
theorem Sound.registerExact_ok_iff (sound : run.Sound) (model : Model) (owner : Handler) :
    (∃ id, (run.registry.registerExact model owner).1 = .ok id) ↔
      ∀ entry ∈ run.registrations,
        entry.owner.operation = owner.operation → entry.model.fullyEquals model = false := by
  have everywhere := sound.wellFormed.conflict?_eq_none_iff model owner.operation
  simp only [sound.entries_perm.mem_iff] at everywhere
  rw [← everywhere, run.registry.registerExact_eq model owner]
  cases run.registry.conflict? model owner.operation with
  | none => exact iff_of_true ⟨_, rfl⟩ rfl
  | some existing => exact iff_of_false (fun answered => nomatch answered.choose_spec) nofun

/-- No registration serves the requests of an earlier one for the same operation. -/
theorem registrations_pairwise (calls : List Call) :
    (ofCalls calls).registrations.Pairwise fun earlier later =>
      earlier.owner.operation = later.owner.operation →
        earlier.model.fullyEquals later.model = false := by
  induction calls using List.reverseRecOn with
  | nil => exact List.Pairwise.nil
  | append_singleton calls call ih =>
      rw [ofCalls_append_singleton, registrations_take]
      refine List.pairwise_append.mpr ⟨ih, ?_, ?_⟩
      · cases Step.registration? _ with
        | none => exact List.Pairwise.nil
        | some entry => exact List.pairwise_singleton _ entry
      · intro earlier registered later last
        cases call with
        | register model => exact absurd last List.not_mem_nil
        | registerExact model owner =>
            cases answer : ((ofCalls calls).registry.registerExact model owner).1 with
            | error fault =>
                simp only [Registry.perform, answer] at last
                exact absurd last List.not_mem_nil
            | ok id =>
                simp only [Registry.perform, answer] at last
                rw [List.mem_singleton.mp last]
                exact ((sound_ofCalls calls).registerExact_ok_iff model owner).mp ⟨id, answer⟩
                  earlier registered

private theorem call_mem_of_mem_steps {calls : List Call} {step : Step}
    (member : step ∈ (ofCalls calls).steps) : step.call ∈ calls := by
  rw [← steps_ofCalls_map_call calls]
  exact List.mem_map_of_mem member

/-- If all calls are for models of templates, so are the registrations. -/
theorem isBuilt_of_mem_registrations {calls : List Call}
    (built : ∀ call ∈ calls, call.model.IsBuilt) {entry : Registration}
    (registered : entry ∈ (ofCalls calls).registrations) : entry.model.IsBuilt := by
  obtain ⟨model, owner, id, member, rfl⟩ := mem_registrations.mp registered
  exact built _ (call_mem_of_mem_steps member)

/-- No two registrations of a run on built models serve the same requests of an operation. -/
theorem registrations_apart {calls : List Call} (built : ∀ call ∈ calls, call.model.IsBuilt) :
    (ofCalls calls).registrations.Pairwise fun first second =>
      first.owner.operation = second.owner.operation →
        first.model.fullyEquals second.model = false ∧
          second.model.fullyEquals first.model = false := by
  refine (registrations_pairwise calls).imp_of_mem ?_
  intro first second firstRegistered secondRegistered apart same
  rw [Model.fullyEquals_comm (isBuilt_of_mem_registrations built secondRegistered)
    (isBuilt_of_mem_registrations built firstRegistered), and_self]
  exact apart same

/-- No bucket of a run on built models has two entries for the same requests of an operation. -/
theorem entries_pairwise {calls : List Call} (built : ∀ call ∈ calls, call.model.IsBuilt)
    {bucket : Bucket} (member : bucket ∈ (ofCalls calls).registry.buckets) :
    bucket.entries.Pairwise fun first second =>
      first.owner.operation = second.owner.operation →
        first.model.fullyEquals second.model = false ∧
          second.model.fullyEquals first.model = false := by
  have here := (registrations_apart built).filter (·.model.address = bucket.address)
  rw [(sound_ofCalls calls).contents bucket member]
  refine ((Bucket.inOrder_perm _).symm.pairwise_iff ?_).mp here
  intro first second apart same
  exact (apart same.symm).symm

/-- **What buckets hold after any run.** The entries of a bucket are the stable sort, by falling
number of query pairs, of what was registered under its address in the order of the calls. A call
for a handler answers an id exactly if no earlier call that answered one had the same operation and
a fully equal model. So no bucket ever has two fully equal entries of one operation, the buckets
have together exactly what was registered, and entries with equally many query pairs stay in the
order of the calls. -/
theorem bucket_contents (calls : List Call) (built : ∀ call ∈ calls, call.model.IsBuilt) :
    (∀ bucket ∈ (ofCalls calls).registry.buckets,
      bucket.entries =
        ((ofCalls calls).registrations.filter (·.model.address = bucket.address)).mergeSort
          fun first second => second.model.queryCount ≤ first.model.queryCount) ∧
    (∀ before model owner after, calls = before ++ .registerExact model owner :: after →
      ((∃ id, ((ofCalls before).registry.registerExact model owner).1 = .ok id) ↔
        ¬ ∃ earlier handler id,
          ⟨.registerExact earlier handler, .ok id⟩ ∈ (ofCalls before).steps ∧
            handler.operation = owner.operation ∧ earlier.fullyEquals model = true)) ∧
    (∀ bucket ∈ (ofCalls calls).registry.buckets,
      bucket.entries.Pairwise fun first second =>
        first.owner.operation = second.owner.operation →
          first.model.fullyEquals second.model = false ∧
            second.model.fullyEquals first.model = false) ∧
    (ofCalls calls).registry.entries.Perm (ofCalls calls).registrations ∧
    ∀ bucket ∈ (ofCalls calls).registry.buckets, ∀ n,
      bucket.entries.filter (·.model.queryCount = n) =
        ((ofCalls calls).registrationsAt bucket.address).filter (·.model.queryCount = n) := by
  have sound := sound_ofCalls calls
  refine ⟨sound.contents, ?_, fun bucket => entries_pairwise built, sound.entries_perm, ?_⟩
  · intro before model owner after _
    rw [(sound_ofCalls before).registerExact_ok_iff model owner]
    constructor
    · rintro free ⟨earlier, handler, id, member, same, full⟩
      have apart := free _ (mem_registrations.mpr ⟨earlier, handler, id, member, rfl⟩) same
      rw [Model.withMatcherId_fullyEquals, full] at apart
      cases apart
    · intro free entry registered same
      obtain ⟨earlier, handler, id, member, rfl⟩ := mem_registrations.mp registered
      rw [← Bool.not_eq_true]
      intro full
      exact free ⟨earlier, handler, id, member, same, full⟩
  · intro bucket member n
    rw [sound.contents bucket member, Bucket.filter_inOrder]

/-- Of three handlers of one path the second has a query pair and goes first, and the third, which
asks for the same under another name, is refused. -/
theorem bucket_contents_of_three :
    let list : Model :=
      { text := "n", authority := "a", normalizedPath := "/n",
        template := ⟨[.literal "n"], [], []⟩ }
    let search (name : String) : Model :=
      { text := "n?k=\x7b" ++ name ++ "\x7d", authority := "a", normalizedPath := "/n",
        template :=
          ⟨[.literal "n"], [⟨"k", .placeholder name⟩], [⟨name, .parameter "k"⟩]⟩ }
    let handler (ordinal : Nat) : Handler := ⟨"P", "m", ordinal, .query⟩
    let calls : List Call :=
      [.registerExact list (handler 0), .registerExact (search "v") (handler 1),
        .registerExact (search "w") (handler 2)]
    (∀ call ∈ calls, call.model.IsBuilt) ∧
      (ofCalls calls).registry.buckets.map (·.entries.map (·.owner.ordinal)) = [[1, 0]] ∧
      (ofCalls calls).registry.entries.Perm (ofCalls calls).registrations := by
  intro list search handler calls
  have built : ∀ call ∈ calls, call.model.IsBuilt := by
    intro call member
    simp only [calls, List.mem_cons, List.not_mem_nil, or_false] at member
    rcases member with rfl | rfl | rfl
    · exact ⟨"content", "*", "a", "n", rfl⟩
    · exact ⟨"content", "*", "a", "n?k=\x7bv\x7d", rfl⟩
    · exact ⟨"content", "*", "a", "n?k=\x7bw\x7d", rfl⟩
  exact ⟨built, rfl, (bucket_contents calls built).2.2.2.1⟩

end Run

end ContentRouter
